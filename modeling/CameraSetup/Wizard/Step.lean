import CameraSetup.Wizard.View

/-! The steps of the wizard. `activate` carries out an action, `press` a key; both return the wizard
that the step leaves and what follows from the step, since a refused action clears the notice. -/

namespace CameraSetup.Wizard

open Menu (Paged NoRoom)

/-- A key, as the wizard tells them apart. -/
inductive Key
  | up
  | down
  | left
  | right
  | enter
  | back
  | interrupt
  | other
  deriving DecidableEq, Repr

/-- Why a step fails. -/
inductive StepError
  | paging (error : NoRoom)
  | refused (refusal : Refusal)
  deriving DecidableEq, Repr

/-- How the operator is told. -/
def StepError.message : StepError → String
  | .paging error => error.message
  | .refused refusal => refusal.message

/-- What a step comes to. -/
abbrev StepResult := Except StepError Outcome

/-- Stores the setup of a port. Only one board can have pending setups, so those of another board
are given up, which the notice says. -/
def storePort (w : Wizard) (board : BoardId) (port : String) (setup : PortSetup) : Wizard :=
  match w.selection with
  | some s =>
    if s.board = board then { w with selection := some (s.insert port setup) }
    else
      { w with
        selection := some ((Selection.ofBoard board).insert port setup)
        notice := if s.isEmpty then w.notice else some (.boardDiscarded s.board) }
  | none => { w with selection := some ((Selection.ofBoard board).insert port setup) }

/-- Removes the setup of a port. -/
def dropPort (w : Wizard) (board : BoardId) (port : String) : Wizard :=
  match w.selection with
  | some s =>
    if s.board = board then
      let left := s.erase port
      { w with selection := if left.isEmpty then none else some left }
    else w
  | none => w

/-- Hands the selection out, unless it is empty, and returns to the top-level menu. -/
def handOut (w : Wizard) (reboot : Bool) : Wizard × StepResult :=
  let top := { w.reset with selection := none }
  match w.selection with
  | some s =>
    if s.isEmpty then ({ top with notice := some .nothingToSave }, .ok .pending)
    else (top, .ok (.commit ⟨s, reboot⟩))
  | none => ({ top with notice := some .nothingToSave }, .ok .pending)

/-- Gives the selection up and returns to the top-level menu. -/
def dropAll (w : Wizard) : Wizard :=
  { w.reset with selection := none, notice := some .allDiscarded }

/-- Opens a menu if the topology offers what the action asks for. -/
def openIf (w : Wizard) (offered : Bool) (place : Place) (action : Action) : Wizard × StepResult :=
  if offered then (w.opening place, .ok .pending) else (w, .error (.refused (.notOffered action)))

/-- Carries out an action in the menu in front, with the notice cleared before. -/
def act (w : Wizard) (action : Action) : Wizard × StepResult :=
  match w.place, action with
  | .topLevel, .openBoard board =>
    w.openIf (w.topology.ports? board).isSome (.portMenu board) action
  | .topLevel, .saveAndReboot => w.handOut true
  | .topLevel, .saveOnly => w.handOut false
  | .topLevel, .discardAll => (w.dropAll, .ok .pending)
  | .topLevel, .exit => (w, .ok .exit)
  | .portMenu board, .openPort port =>
    w.openIf (w.topology.sensors? board port).isSome (.sensorMenu board port) action
  | .sensorMenu board port, .openSensor sensor =>
    w.openIf (w.topology.lanes? board port sensor).isSome (.laneMenu board port sensor) action
  | .laneMenu board port sensor, .openLanes lanes =>
    w.openIf (w.topology.boosters? board port sensor lanes).isSome
      (.linkBoosterMenu board port sensor lanes) action
  | .linkBoosterMenu board port sensor lanes, .choose linkBooster =>
    let setup : PortSetup := ⟨sensor, lanes, linkBooster⟩
    if w.topology.offers board port setup then
      ((w.storePort board port setup).closedTo 2, .ok .pending)
    else (w, .error (.refused (.notOffered action)))
  | .sensorMenu board port, .clearPort
  | .laneMenu board port _, .clearPort
  | .linkBoosterMenu board port _ _, .clearPort =>
    ((w.dropPort board port).closedTo 2, .ok .pending)
  | place, action => (w, .error (.refused (.notInMenu place action)))

/-- Closes the menu in front, if it is not the last. -/
def goBack (w : Wizard) : Wizard × StepResult :=
  match w.outer with
  | [] => (w, .error (.refused (.notInMenu w.place .back)))
  | frame :: rest => ({ w with current := frame, outer := rest }, .ok .pending)

/-- Carries out an action as if its menu row had been activated. -/
def activate (w : Wizard) (action : Action) : Wizard × StepResult :=
  let quiet := { w with notice := none }
  if action = .back then quiet.goBack else quiet.act action

/-- Moves the cursor of the menu in front. -/
def atCursor (w : Wizard) (page row : Nat) : Wizard :=
  { w with current := { w.current with page, row } }

/-- Moves the cursor to the first selectable row of a page. -/
def turnTo (w : Wizard) (menu : Paged Action) (page : Nat) : Wizard :=
  w.atCursor page ((menu.firstChoice? page).getD 0)

/-- Moves the cursor to the nearest selectable row in a direction. -/
def moveCursor (w : Wizard) (menu : Paged Action) (page row : Nat)
    (direction : Menu.Direction) : Wizard :=
  w.atCursor page ((menu.nextChoice? page row direction).getD row)

/-- Applies a key on a laid-out menu whose cursor stands at a page and row. -/
def pressOn (w : Wizard) (menu : Paged Action) (page row : Nat) (key : Key) :
    Wizard × StepResult :=
  let w := w.atCursor page row
  match key with
  | .up => (w.moveCursor menu page row .up, .ok .pending)
  | .down => (w.moveCursor menu page row .down, .ok .pending)
  | .left => (if 0 < page then w.turnTo menu (page - 1) else w, .ok .pending)
  | .right => (if page + 1 < menu.count then w.turnTo menu (page + 1) else w, .ok .pending)
  | .enter =>
    match (menu.entry? page row).bind (·.action) with
    | some action => w.activate action
    | none => (w, .ok .pending)
  | .back => if 1 < w.depth then w.activate .back else (w, .ok .pending)
  | .interrupt => (w, .ok .exit)
  | .other => (w, .ok .pending)

/-- Applies a key. Nothing changes when the menu cannot be laid out. -/
def press (w : Wizard) (key : Key) : Wizard × StepResult :=
  match w.menu with
  | .error error => (w, .error (.paging error))
  | .ok menu =>
    let (page, row) := w.cursor menu
    w.pressOn menu page row key

/-! ### Runs -/

/-- One step of a run. -/
inductive Step
  | key (key : Key)
  | action (action : Action)
  | pageCapacity (capacity : Nat)
  deriving DecidableEq, Repr

/-- What a step leaves and comes to. -/
def step (w : Wizard) : Step → Wizard × StepResult
  | .key key => w.press key
  | .action action => w.activate action
  | .pageCapacity capacity => (w.withPageCapacity capacity, .ok .pending)

/-- The wizard after a run of steps, which an error, a commit or an exit does not end. -/
def after (w : Wizard) (steps : List Step) : Wizard :=
  steps.foldl (fun w s => (w.step s).1) w

end CameraSetup.Wizard
