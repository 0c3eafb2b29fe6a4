import CameraSetup.FileTree.Replacement
import CameraSetup.OverlayScan
import CameraSetup.Settings.Basic
import CameraSetup.SetupError

/-! Committing a selection: its overlays are named and checked, the boot configuration is edited in
memory, and it is written back as a whole, or only shown in a dry run. Nothing is written unless
everything before succeeded, and the write can still fail. -/

namespace CameraSetup

/-- What a commit did. -/
structure Commit.Report where
  bootConfig : String
  /-- The overlays that the boot configuration lists. -/
  overlays : List String
  skipped : List SkippedPort
  /-- Whether the boot configuration holds the overlays now. -/
  written : Bool
  /-- The boot configuration that a dry run would have written. -/
  rendered : Option String
  deriving DecidableEq, Repr

/-- How the operator is told. -/
def Commit.Report.notices (r : Commit.Report) : List String :=
  let ending :=
    if r.written then s!"{r.bootConfig} updated."
    else if r.rendered.isSome then s!"Dry run: {r.bootConfig} not modified."
    else "Nothing to save."
  r.skipped.map (·.message) ++ [ending]

namespace Commit

/-- The base device tree: the first regular file in a directory. -/
def baseDeviceTree (tree : FileTree) (dir : String) : Except SetupError String := do
  let names ← (tree.list dir).mapError .file
  match (names.map (Path.join dir)).find? tree.isFile with
  | none => throw (.bootConfig (.noBaseDeviceTree dir))
  | some path => pure path

/-- The error of an edit whose base device tree is looked up in a directory. -/
def editError : BootConfig.EditError SetupError → SetupError
  | .base cause => cause
  | .anchor cause => .bootConfig (.anchor cause)

/-- What a commit is going to do. -/
structure Plan where
  overlays : List String
  skipped : List SkippedPort
  current : String
  updated : String
  deriving DecidableEq, Repr

/-- The overlays of a selection, checked against those in `scanDir`. -/
def checked (tree : FileTree) (settings : Settings) (scanDir : String) (connector : Connector)
    (selection : Selection) (policy : MissingPolicy) : Except SetupError CheckedOverlays :=
  (OverlayName.check (OverlayScan.isInstalled tree scanDir) policy
    (selection.overlays connector)).mapError (.missingOverlay settings.overlayDir)

/-- Everything up to the write. -/
def plan (tree : FileTree) (settings : Settings) (scanDir : String) (connector : Connector)
    (selection : Selection) (policy : MissingPolicy) : Except SetupError Plan := do
  let checked ← checked tree settings scanDir connector selection policy
  let overlays := checked.names.map fun o => settings.pathOf o.name
  let current ← (tree.readText settings.bootConfig).mapError .file
  let base := baseDeviceTree tree settings.dtbDir
  let updated ← (BootConfig.edit base overlays current).mapError editError
  pure { overlays, skipped := checked.skipped, current, updated }

/-- The report of a plan. -/
def Plan.report (p : Plan) (settings : Settings) (dryRun : Bool) : Commit.Report where
  bootConfig := settings.bootConfig
  overlays := p.overlays
  skipped := p.skipped
  written := !dryRun
  rendered := if dryRun then some p.updated else none

/-- The report of a commit that had nothing to do. -/
def nothingDone (settings : Settings) : Commit.Report := ⟨settings.bootConfig, [], [], false, none⟩

/-- Commits a selection. The answer is the tree of files that the commit leaves, and its report. -/
def run (circumstances : Circumstances) (tree : FileTree) (settings : Settings) (scanDir : String)
    (connector : Connector) (selection : Selection) (policy : MissingPolicy) (dryRun : Bool) :
    FileTree × Except SetupError Commit.Report :=
  if selection.isEmpty then (tree, .ok (nothingDone settings))
  else
    match Commit.plan tree settings scanDir connector selection policy with
    | .error cause => (tree, .error cause)
    | .ok plan =>
      let report := plan.report settings dryRun
      if dryRun || plan.updated == plan.current then (tree, .ok report)
      else
        match tree.replaceText circumstances settings.bootConfig plan.updated with
        | (left, .error cause) => (left, .error (.file cause))
        | (left, .ok ()) => (left, .ok report)

end Commit

end CameraSetup
