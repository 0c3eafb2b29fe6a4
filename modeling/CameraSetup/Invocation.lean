import CameraSetup.Options
import CameraSetup.Readiness
import CameraSetup.Session
import CameraSetup.Settings.File
import CameraSetup.Unattended

/-! An invocation of the program: its options and settings decide whether it lists what was
detected, applies modules, or starts an interactive session. -/

namespace CameraSetup

/-- What an invocation depends on besides its arguments. -/
structure Surroundings where
  tree : FileTree
  isRoot : Bool
  /-- The value of `CAMCONFIG_SKIP_ROOT_CHECK`. -/
  rootWaiver : Option String
  /-- What the write of a commit meets. -/
  circumstances : Circumstances

/-- Why an invocation fails. -/
inductive InvocationError
  | settings (cause : Settings.Error)
  | scan (dir : String) (cause : FileError)
  | notReady (failures : List String) (bootConfig : String)
  | setup (cause : SetupError)
  deriving DecidableEq, Repr

/-- The message with what lies behind it. -/
def InvocationError.message : InvocationError → String
  | .settings cause => cause.fullMessage
  | .scan dir cause =>
    s!"Failed to scan overlays in {dir}: {(SetupError.file cause).fullMessage}"
  | .notReady failures bootConfig =>
    let listed := String.intercalate "; " failures
    s!"Pre-flight check failed: {listed} ({bootConfig})"
  | .setup cause => cause.fullMessage

namespace UsageError

/-- The text for a request for help, in short or in full: the long form is not worded apart. -/
def help : String :=
  Unattended.block
    ["Configure camera add-on boards and sensors on Jetson devices",
      "",
      "Usage: camconfig [OPTIONS]",
      "",
      "Options:",
      "      --dry-run           Print the resulting boot configuration instead of writing it",
      "  -c, --config <FILE>     JSON settings file overriding the default paths",
      "  -l, --list              List the active camera connector and every detected module",
      "  -n, --name <MODULE>...  Apply modules without the menu",
      "  -h, --help              Print help",
      "  -V, --version           Print version"]

/-- The text for a request for the version. -/
def version : String := Unattended.line "camconfig 2.0.0"

/-- How the operator is told, in short: an option parser names the argument too and shows the usage. -/
def message : UsageError → String
  | .invalidValue => "a value is required or invalid"
  | .unknownArgument => "unexpected argument found"
  | .argumentConflict => "an argument cannot be used more than once or with another"
  | .tooManyValues => "unexpected value found"
  | .helpRequested => help
  | .versionRequested => version

end UsageError

namespace Invocation

/-- How an invocation ended: its exit code, what it printed, and the tree of files that it left. -/
structure Ended where
  code : Nat
  output : String
  errors : String
  tree : FileTree

/-- What an invocation comes to. -/
inductive Outcome
  | ended (ended : Ended)
  | interactive (session : Session) (tree : FileTree)

/-- An end without a fault. -/
def success (tree : FileTree) (output : String) : Outcome := .ended ⟨0, output, "", tree⟩

/-- How an invocation ends with an error. -/
def failed (tree : FileTree) (cause : InvocationError) : Ended :=
  ⟨1, "", Unattended.line s!"Error: {cause.message}", tree⟩

/-- An end with an error. -/
def failure (tree : FileTree) (cause : InvocationError) : Outcome := .ended (failed tree cause)

/-- The end that a usage error makes. -/
def misuse (tree : FileTree) (cause : UsageError) : Outcome :=
  match cause with
  | .helpRequested | .versionRequested => success tree cause.message
  | _ => .ended ⟨2, "", Unattended.line s!"error: {cause.message}", tree⟩

/-- The settings that options name, or the standard ones. -/
def settings (load : String → Except Settings.Error Settings) (options : Options) :
    Except InvocationError Settings :=
  match options.config with
  | none => .ok .standard
  | some path => (load path).mapError .settings

/-- The checks before a run that writes; a dry run does without them. -/
def ready (around : Surroundings) (settings : Settings) (dryRun : Bool) :
    Except InvocationError Unit :=
  let checks := Readiness.run around.tree settings around.isRoot around.rootWaiver
  if dryRun || checks.passed then .ok () else .error (.notReady checks.failures settings.bootConfig)

/-- What applying modules leaves. -/
def applied (around : Surroundings) (options : Options) (settings : Settings) (scan : OverlayScan)
    (modules : List String) : Unattended.Applied :=
  Unattended.apply around.circumstances around.tree settings scan options.dryRun modules

/-- Runs with given options and settings. -/
def dispatch (around : Surroundings) (options : Options) (settings : Settings)
    (scan : OverlayScan) : Except InvocationError Outcome :=
  match options.mode with
  | .list => do
    let output ← (Unattended.listing scan).mapError .setup
    pure (success around.tree output)
  | .apply modules => do
    ready around settings options.dryRun
    let applied := applied around options settings scan modules
    match applied.result with
    | .error cause => pure (failure applied.tree (.setup cause))
    | .ok _ => pure (success applied.tree applied.output)
  | .interactive => do
    ready around settings options.dryRun
    let session ← (Session.start settings scan options.dryRun).mapError .setup
    pure (.interactive session around.tree)

/-- The surroundings once the log is open. An interactive run has the screen to itself and logs to a
file. -/
def logging (around : Surroundings) (settings : Settings) : Mode → Surroundings
  | .interactive => { around with tree := around.tree.opened settings.logFile }
  | .list | .apply _ => around

/-- Runs with given options and settings. -/
def scanAndRun (around : Surroundings) (options : Options) (settings : Settings) :
    Except InvocationError Outcome := do
  let scan ← (OverlayScan.load around.tree settings).mapError (.scan settings.overlayDir)
  dispatch around options settings scan

/-- Runs with given arguments. `load` loads settings from a file. -/
def run (load : String → Except Settings.Error Settings) (around : Surroundings)
    (arguments : List String) : Outcome :=
  match Options.parse arguments with
  | .error cause => misuse around.tree cause
  | .ok options =>
    match settings load options with
    | .error cause => failure around.tree cause
    | .ok settings =>
      let around := logging around settings options.mode
      match scanAndRun around options settings with
      | .error cause => failure around.tree cause
      | .ok outcome => outcome

end Invocation

end CameraSetup
