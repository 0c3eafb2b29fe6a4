import CameraSetup.BootConfig
import CameraSetup.CommandEnd
import CameraSetup.DeviceTree.OverlayIdentity
import CameraSetup.FileTree.Tree
import CameraSetup.ModuleArguments
import CameraSetup.Overlay.Checked
import CameraSetup.Topology
import CameraSetup.Wizard.Step

/-! Everything that can end a run, with the wording of each cause. -/

namespace CameraSetup

/-- Why the boot configuration cannot be edited. -/
inductive BootConfigError
  | anchor (cause : AnchorError)
  | noBaseDeviceTree (dir : String)
  deriving DecidableEq, Repr

/-- How the operator is told. -/
def BootConfigError.message : BootConfigError → String
  | .anchor cause => cause.message
  | .noBaseDeviceTree dir => s!"no base device tree found in {dir}"

/-- Why a run cannot go on. -/
inductive SetupError
  | file (cause : FileError)
  | reboot (cause : RebootFailure)
  | unknownConnector (dir : String)
  | topology (cause : TopologyError)
  | missingOverlay (dir : String) (cause : MissingOverlay)
  | bootConfig (cause : BootConfigError)
  | deviceTree (cause : DeviceTree.FormatError)
  | argument (cause : ArgumentError)
  | terminal (cause : String)
  | wizard (cause : Wizard.StepError)
  deriving DecidableEq, Repr

/-- How the operator is told. -/
def SetupError.message : SetupError → String
  | .file cause => s!"IO error: {cause.message}"
  | .reboot cause => s!"Configuration error: {cause.message}"
  | .unknownConnector dir => s!"Unknown board or no overlays found in {dir}"
  | .topology cause => cause.message
  | .missingOverlay dir cause => cause.message dir
  | .bootConfig cause => s!"Boot configuration error: {cause.message}"
  | .deviceTree cause => s!"Device tree error: {cause.message}"
  | .argument cause => s!"Validation error: {cause.message}"
  | .terminal cause => s!"Terminal error: {cause}"
  | .wizard cause => cause.message

/-- The message with what lies behind it, which a file error repeats. -/
def SetupError.fullMessage (e : SetupError) : String :=
  match e with
  | .file cause => s!"{e.message}: {cause.message}"
  | _ => e.message

end CameraSetup
