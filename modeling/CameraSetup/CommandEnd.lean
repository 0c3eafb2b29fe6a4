/-! How a command that was started can end, and what that means for a reboot. -/

namespace CameraSetup

/-- How a command ends that was started. -/
inductive CommandEnd
  | exited (code : Nat)
  | killed (signal : Nat)
  deriving DecidableEq, Repr

namespace CommandEnd

/-- The names of the signals from 1 on. -/
def signalNames : List String :=
  ["SIGHUP", "SIGINT", "SIGQUIT", "SIGILL", "SIGTRAP", "SIGABRT", "SIGBUS", "SIGFPE", "SIGKILL",
    "SIGUSR1", "SIGSEGV", "SIGUSR2", "SIGPIPE", "SIGALRM", "SIGTERM", "SIGSTKFLT", "SIGCHLD",
    "SIGCONT", "SIGSTOP", "SIGTSTP", "SIGTTIN", "SIGTTOU", "SIGURG", "SIGXCPU", "SIGXFSZ",
    "SIGVTALRM", "SIGPROF", "SIGWINCH", "SIGIO", "SIGPWR", "SIGSYS"]

/-- How a signal is written. -/
def signalText (signal : Nat) : String :=
  match signal with
  | 0 => "signal: 0"
  | n + 1 =>
    match signalNames[n]? with
    | some name => s!"signal: {signal} ({name})"
    | none => s!"signal: {signal}"

/-- How the end is written. -/
def text : CommandEnd → String
  | .exited code => s!"exit status: {code}"
  | .killed signal => signalText signal

end CommandEnd

/-- Why a reboot command that could be started, or is missing, does not reboot. -/
inductive RebootFailure
  | noCommand
  | failed (program : String) (ending : CommandEnd)
  deriving DecidableEq, Repr

/-- How the operator is told. -/
def RebootFailure.message : RebootFailure → String
  | .noCommand => "reboot command is empty"
  | .failed program ending => s!"{program} exited with {ending.text}"

end CameraSetup
