import CameraSetup.Overlay.Name

/-! Overlays that passed the check against the installed ones. The board's overlay has to be
installed. A missing overlay of a port either drops the port with all its overlays, or is an
error too. -/

namespace CameraSetup

/-- What a missing overlay of a port does. -/
inductive MissingPolicy
  | skipPort
  | abort
  deriving DecidableEq, Repr

/-- A port that is left out, and the overlays that it lacks. -/
structure SkippedPort where
  port : String
  missing : List String
  deriving DecidableEq, Repr

/-- How the operator is told. -/
def SkippedPort.message (s : SkippedPort) : String :=
  String.intercalate ", " s.missing ++ s!" not found; {s.port} will not be configured"

/-- The overlays to be applied and the ports left out. -/
structure CheckedOverlays where
  names : List OverlayName
  skipped : List SkippedPort
  deriving DecidableEq, Repr

/-- The missing overlay that ends a check. -/
inductive MissingOverlay
  | board (name : String)
  | port (name : String)
  deriving DecidableEq, Repr

/-- How the operator is told that an overlay is not in `dir`. -/
def MissingOverlay.message (dir : String) : MissingOverlay → String
  | .board name => s!"{name} not found in {dir}; cannot continue"
  | .port name => s!"{name} not found in {dir}"

namespace OverlayName

/-- The error for a missing overlay, by its role. -/
def absence (overlay : OverlayName) : MissingOverlay :=
  match overlay.role with
  | .board => .board overlay.name
  | .sensor _ | .linkBooster _ => .port overlay.name

/-- Adds a missing overlay to what its port lacks. A port is listed when its first one is added. -/
def addMissing (port name : String) : List SkippedPort → List SkippedPort
  | [] => [⟨port, [name]⟩]
  | s :: skipped =>
    if s.port = port then { s with missing := s.missing ++ [name] } :: skipped
    else s :: addMissing port name skipped

/-- Takes in an overlay that is not installed: it ends the check, or its port is left out. -/
def takeMissing (policy : MissingPolicy) (skipped : List SkippedPort) (overlay : OverlayName) :
    Except MissingOverlay (List SkippedPort) :=
  match overlay.role.port?, policy with
  | none, _ | some _, .abort => .error overlay.absence
  | some port, .skipPort => .ok (addMissing port overlay.name skipped)

/-- Whether an overlay is left: the board's is, and those of ports that are not left out. -/
def isLeft (skipped : List SkippedPort) (overlay : OverlayName) : Bool :=
  match overlay.role.port? with
  | none => true
  | some port => !skipped.any (·.port = port)

/-- Checks overlays against the installed ones, one after another. -/
def check (installed : String → Bool) (policy : MissingPolicy) (overlays : List OverlayName) :
    Except MissingOverlay CheckedOverlays := do
  let missing := overlays.filter fun o => !installed o.name
  let skipped ← missing.foldlM (takeMissing policy) []
  pure ⟨overlays.filter (isLeft skipped), skipped⟩

end OverlayName

end CameraSetup
