import CameraSetup.FileTree.Path
import CameraSetup.Menu.Paged
import CameraSetup.Text.Blank
import CameraSetup.Text.Quoted
import CameraSetup.Wizard.State

/-! The settings: where everything lies, how many rows a menu page has, and how to reboot. -/

namespace CameraSetup

/-- The settings of a run. -/
structure Settings where
  /-- The directory of the overlays. -/
  overlayDir : String
  /-- The boot configuration that is edited. -/
  bootConfig : String
  /-- The directory of the base device trees. -/
  dtbDir : String
  /-- The file with the compatible strings of the board. -/
  compatibleFile : String
  /-- The rows of a menu page, with footer and caption. -/
  pageCapacity : Nat
  /-- The program that reboots, and its arguments. -/
  rebootCommand : List String
  /-- Where an interactive run logs. -/
  logFile : String
  deriving DecidableEq, Repr

namespace Settings

/-- The settings of a run that is given none. -/
def standard : Settings where
  overlayDir := "/boot/framos/dtbo"
  bootConfig := "/boot/extlinux/extlinux.conf"
  dtbDir := "/boot/dtb"
  compatibleFile := "/proc/device-tree/compatible"
  pageCapacity := 15
  rebootCommand := ["reboot"]
  logFile := "/var/log/camconfig.log"

instance : Inhabited Settings := ⟨standard⟩

/-- What makes settings unusable. -/
inductive Fault
  | capacityTooSmall (capacity : Nat)
  | noProgram
  | relativePath (field path : String)
  deriving DecidableEq, Repr

/-- How the operator is told. -/
def Fault.message : Fault → String
  | .capacityTooSmall capacity =>
    s!"page_capacity must be at least {Wizard.leastCapacity}, got {capacity}"
  | .noProgram => "reboot_command must name a program"
  | .relativePath field path => s!"{field} must be an absolute path, got {Text.quoted path}"

/-- Whether a command names a program: its first word is there and not blank. -/
def namesProgram (command : List String) : Bool :=
  command.head?.any fun program => !(Text.trim program.toList).isEmpty

/-- The paths that have to be absolute, with the names of their fields. -/
def anchoredPaths (s : Settings) : List (String × String) :=
  [("overlay_dir", s.overlayDir), ("boot_config", s.bootConfig), ("dtb_dir", s.dtbDir)]

/-- Checks settings; the first fault counts. -/
def check (s : Settings) : Except Fault Unit :=
  if s.pageCapacity < Wizard.leastCapacity then .error (.capacityTooSmall s.pageCapacity)
  else if !namesProgram s.rebootCommand then .error .noProgram
  else match s.anchoredPaths.find? fun p => !Path.isAbsolute p.2 with
    | some (field, path) => .error (.relativePath field path)
    | none => .ok ()

/-- The path of an overlay, as the boot configuration lists it. -/
def pathOf (s : Settings) (name : String) : String := Path.join s.overlayDir name

end Settings

end CameraSetup
