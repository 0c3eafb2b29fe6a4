import CameraSetup.Commit

/-! Runs without a menu: listing what was detected, and applying modules named by arguments. There
is nobody to be warned, so a missing overlay is an error. -/

namespace CameraSetup.Unattended

/-- Text with a line end. -/
def line (text : String) : String := text ++ "\n"

/-- Lines one after the other. -/
def block (texts : List String) : String := String.join (texts.map line)

/-- The connector and the descriptors found for it. -/
def listing (scan : OverlayScan) : Except SetupError String := do
  let connector ← scan.connector
  let descriptors ← scan.descriptors
  pure (line s!"Header: {connector.headerName}" ++ block (descriptors.map ("  " ++ ·)))

/-- How the operator is told to reboot. -/
def rebootNotice : String := "Reboot the System to apply changes."

/-- What a commit's report makes the run print. -/
def printed (report : Commit.Report) : String :=
  report.rendered.getD ""
    ++ block (report.notices ++ if report.written then [rebootNotice] else [])

/-- What applying modules leaves: the tree of files, the output, and the report. -/
structure Applied where
  tree : FileTree
  output : String
  result : Except SetupError Commit.Report

/-- Applies the modules that arguments name. -/
def apply (circumstances : Circumstances) (tree : FileTree) (settings : Settings)
    (scan : OverlayScan) (dryRun : Bool) (modules : List String) : Applied :=
  let target : Except SetupError (Selection × Connector) := do
    let selection ← (ModuleArgument.selection modules).mapError .argument
    let connector ← scan.connector
    pure (selection, connector)
  match target with
  | .error cause => ⟨tree, "", .error cause⟩
  | .ok (selection, connector) =>
    match Commit.run circumstances tree settings scan.dir connector selection .abort dryRun with
    | (left, .error cause) => ⟨left, "", .error cause⟩
    | (left, .ok report) => ⟨left, printed report, .ok report⟩

end CameraSetup.Unattended
