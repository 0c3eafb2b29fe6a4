import CameraSetup.SetupError

/-! Rebooting by a command. -/

namespace CameraSetup

/-- Reboots by a command. `run` starts a program with arguments and says how it ends. -/
def reboot (run : String → List String → Except FileError CommandEnd) :
    List String → Except SetupError Unit
  | [] => .error (.reboot .noCommand)
  | program :: arguments =>
    match run program arguments with
    | .error cause => .error (.file cause)
    | .ok ending =>
      if ending = .exited 0 then .ok () else .error (.reboot (.failed program ending))

end CameraSetup
