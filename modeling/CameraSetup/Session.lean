import CameraSetup.Commit
import CameraSetup.Screen.Layout
import CameraSetup.Unattended

/-! The interactive session: in each turn the wizard is fitted to the screen and drawn, and a key is
applied to it. A commit or an exit ends the session; the operator can start another one on the same
wizard. -/

namespace CameraSetup

/-- The wizard with what a commit needs. -/
structure Session where
  wizard : Wizard
  settings : Settings
  scan : OverlayScan
  connector : Connector
  dryRun : Bool
  deriving DecidableEq

namespace Session

/-- How a session ends. -/
inductive Exit
  | quit
  | saved (report : Commit.Report)
  | reboot (report : Commit.Report)
  deriving DecidableEq, Repr

/-- What is printed once the session has left the screen. -/
def Exit.printed : Exit → String
  | .quit => ""
  | .saved report => report.rendered.getD "" ++ Unattended.block report.notices
  | .reboot report => Unattended.block report.notices

/-- The session on what a scan found. -/
def start (settings : Settings) (scan : OverlayScan) (dryRun : Bool) :
    Except SetupError Session := do
  let connector ← scan.connector
  let descriptors ← scan.descriptors
  let topology ← (Topology.ofDescriptors connector descriptors).mapError .topology
  pure { wizard := .start topology settings.pageCapacity, settings, scan, connector, dryRun }

/-- The page capacity for a screen: what the settings ask for, less when the screen is lower, but
never too little to lay out a menu. -/
def fittingCapacity (settings : Settings) (height : Nat) : Nat :=
  max (min settings.pageCapacity (height - Screen.framingRows)) Wizard.leastCapacity

/-- The session on a screen of a height. -/
def fitted (s : Session) (height : Nat) : Session :=
  { s with wizard := s.wizard.withPageCapacity (fittingCapacity s.settings height) }

/-- What is to be drawn. -/
def view (s : Session) : Except SetupError Wizard.View :=
  s.wizard.view.mapError fun cause => .wizard (.paging cause)

/-- Whether a request to reboot is granted: only when something was written. -/
def grantsReboot (s : Session) (request : Wizard.SaveRequest) (report : Commit.Report) : Bool :=
  request.reboot && report.written && !s.dryRun

/-- The message after a commit. -/
def closingLines (report : Commit.Report) (reboots : Bool) : List String :=
  report.notices ++
    if reboots then ["The system will now reboot."]
    else if report.written then [Unattended.rebootNotice]
    else []

/-- What follows from a key: the session goes on, or it ends, after a message if it committed. -/
inductive Progress
  | going
  | ended (message : Option (List String)) (exit : Except SetupError Exit)

/-- What a key leaves. -/
structure Pressed where
  session : Session
  tree : FileTree
  progress : Progress

/-- Commits what the wizard handed out. -/
def save (s : Session) (circumstances : Circumstances) (tree : FileTree)
    (request : Wizard.SaveRequest) : Pressed :=
  match Commit.run circumstances tree s.settings s.scan.dir s.connector request.selection .skipPort
      s.dryRun with
  | (left, .error cause) => ⟨s, left, .ended none (.error cause)⟩
  | (left, .ok report) =>
    let reboots := s.grantsReboot request report
    let exit := if reboots then Exit.reboot report else Exit.saved report
    ⟨s, left, .ended (some (closingLines report reboots)) (.ok exit)⟩

/-- Applies a key. -/
def press (s : Session) (circumstances : Circumstances) (tree : FileTree) (key : Wizard.Key) :
    Pressed :=
  let (wizard, result) := s.wizard.press key
  let s := { s with wizard }
  match result with
  | .error cause => ⟨s, tree, .ended none (.error (.wizard cause))⟩
  | .ok .pending => ⟨s, tree, .going⟩
  | .ok .exit => ⟨s, tree, .ended none (.ok .quit)⟩
  | .ok (.commit request) => s.save circumstances tree request

/-! ### Runs -/

/-- One turn of a run: the height of the screen when it is drawn, what reading a key then comes to,
and what the write of a commit meets. -/
structure Turn where
  height : Nat
  key : Except SetupError Wizard.Key
  circumstances : Circumstances

/-- What a run shows and leaves. A run whose turns are used up has no exit yet. -/
structure Run where
  session : Session
  tree : FileTree
  views : List Wizard.View
  messages : List (List String)
  keysRead : Nat
  exit : Option (Except SetupError Exit)

/-- A run that shows nothing. -/
def Run.silent (session : Session) (tree : FileTree) (exit : Option (Except SetupError Exit)) :
    Run :=
  { session, tree, views := [], messages := [], keysRead := 0, exit }

/-- Fits the wizard to the screen, draws it, and applies the key that is read. -/
def turn (s : Session) (tree : FileTree) (turn : Turn) : Run :=
  let s := s.fitted turn.height
  match s.view with
  | .error cause => .silent s tree (some (.error cause))
  | .ok view =>
    match turn.key with
    | .error cause =>
      { Run.silent s tree (some (.error cause)) with views := [view], keysRead := 1 }
    | .ok key =>
      let pressed := s.press turn.circumstances tree key
      let shown :=
        { Run.silent pressed.session pressed.tree none with views := [view], keysRead := 1 }
      match pressed.progress with
      | .going => shown
      | .ended message exit => { shown with messages := message.toList, exit := some exit }

/-- What two parts of a run show and leave, one after the other. -/
def Run.andThen (first later : Run) : Run :=
  { later with
    views := first.views ++ later.views
    messages := first.messages ++ later.messages
    keysRead := first.keysRead + later.keysRead }

/-- Runs a session over some turns. -/
def run (s : Session) (tree : FileTree) : List Turn → Run
  | [] => .silent s tree none
  | turn :: turns =>
    let first := s.turn tree turn
    match first.exit with
    | some _ => first
    | none => first.andThen (run first.session first.tree turns)

end Session

end CameraSetup
