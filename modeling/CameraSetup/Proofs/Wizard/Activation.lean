import CameraSetup.Wizard.Step
import CameraSetup.Proofs.Topology.Listing

/-! What one step of the wizard can do. `Activated` lists the ways in which an action can be carried
out or refused, with the conditions of each, and `Pressed` does so for a key; `activated` and
`pressed` say that there are no others. -/

namespace CameraSetup.Wizard

open Menu (Paged NoRoom)

/-! ### Menus and what lies behind them -/

/-- The menus behind a menu, the nearest first. -/
def Place.behind : Place → List Place
  | .topLevel => []
  | .portMenu _ => [.topLevel]
  | .sensorMenu board _ => [.portMenu board, .topLevel]
  | .laneMenu board port _ => [.sensorMenu board port, .portMenu board, .topLevel]
  | .linkBoosterMenu board port sensor _ =>
    [.laneMenu board port sensor, .sensorMenu board port, .portMenu board, .topLevel]

/-- The menu that an action opens from a menu. -/
def Place.opens? : Place → Action → Option Place
  | .topLevel, .openBoard board => some (.portMenu board)
  | .portMenu board, .openPort port => some (.sensorMenu board port)
  | .sensorMenu board port, .openSensor sensor => some (.laneMenu board port sensor)
  | .laneMenu board port sensor, .openLanes lanes => some (.linkBoosterMenu board port sensor lanes)
  | _, _ => none

/-- The port that a menu is for, with its board. -/
def Place.port? : Place → Option (BoardId × String)
  | .topLevel | .portMenu _ => none
  | .sensorMenu board port | .laneMenu board port _ | .linkBoosterMenu board port _ _ =>
    some (board, port)

/-- A topology lists what the menu was opened for, below everything else that the menu names. -/
def Place.IsListed (t : Topology) : Place → Prop
  | .topLevel => True
  | .portMenu board => board ∈ t.boards.keys
  | .sensorMenu board port => port ∈ (t.ports? board).getD []
  | .laneMenu board port sensor => sensor ∈ (t.sensors? board port).getD []
  | .linkBoosterMenu board port sensor lanes => lanes ∈ (t.lanes? board port sensor).getD []

theorem Place.behind_of_opens? {p q : Place} {action : Action} (h : p.opens? action = some q) :
    q.behind = p :: p.behind := by
  unfold Place.opens? at h
  split at h <;> cases h <;> rfl

/-- Whether an action saves, and whether it then reboots. -/
def Action.saves? : Action → Option Bool
  | .saveAndReboot => some true
  | .saveOnly => some false
  | _ => none

/-! ### Actions -/

/-- The wizard without a notice. -/
def quiet (w : Wizard) : Wizard := { w with notice := none }

/-- How an action can turn out: what it leaves and comes to. -/
inductive Activated (w : Wizard) : Action → Wizard × StepResult → Prop
  | refused {action : Action} (refusal : Refusal) :
      Activated w action (w.quiet, .error (.refused refusal))
  | closed {frame : Frame} {rest : List Frame} (behind : w.outer = frame :: rest) :
      Activated w .back ({ w.quiet with current := frame, outer := rest }, .ok .pending)
  | opened {action : Action} {place : Place} (opens : w.place.opens? action = some place)
      (listed : place.IsListed w.topology) :
      Activated w action (w.quiet.opening place, .ok .pending)
  | stored {board : BoardId} {port : String} {setup : PortSetup}
      (here : w.place = .linkBoosterMenu board port setup.sensor setup.lanes)
      (offered : w.topology.offers board port setup = true) :
      Activated w (.choose setup.linkBooster)
        ((w.quiet.storePort board port setup).closedTo 2, .ok .pending)
  | cleared {board : BoardId} {port : String} (here : w.place.port? = some (board, port)) :
      Activated w .clearPort ((w.quiet.dropPort board port).closedTo 2, .ok .pending)
  | handedOut {action : Action} {reboot : Bool} (top : w.place = .topLevel)
      (saves : action.saves? = some reboot) : Activated w action (w.quiet.handOut reboot)
  | discarded (top : w.place = .topLevel) :
      Activated w .discardAll (w.quiet.dropAll, .ok .pending)
  | left (top : w.place = .topLevel) : Activated w .exit (w.quiet, .ok .exit)

variable {w : Wizard}

theorem activated_openIf {action : Action} {menu place : Place} {offered : Bool}
    (here : w.place = menu) (opens : menu.opens? action = some place)
    (listed : offered = true → place.IsListed w.topology) :
    Activated w action (w.quiet.openIf offered place action) := by
  unfold openIf
  split
  · next h => exact .opened (here ▸ opens) (listed h)
  · exact .refused _

theorem activated_act (action : Action) : Activated w action (w.quiet.act action) := by
  unfold act
  split
  case h_1 top => exact activated_openIf top rfl Topology.isSome_ports?.mp
  case h_2 top => exact .handedOut top rfl
  case h_3 top => exact .handedOut top rfl
  case h_4 top => exact .discarded top
  case h_5 top => exact .left top
  case h_6 here => exact activated_openIf here rfl Topology.isSome_sensors?.mp
  case h_7 here => exact activated_openIf here rfl Topology.isSome_lanes?.mp
  case h_8 here => exact activated_openIf here rfl Topology.isSome_boosters?.mp
  case h_9 _ _ board port sensor lanes linkBooster here =>
    dsimp only
    split
    · next offered => exact @Activated.stored _ board port ⟨sensor, lanes, linkBooster⟩ here offered
    · exact .refused _
  case h_10 here => exact .cleared (congrArg Place.port? here)
  case h_11 here => exact .cleared (congrArg Place.port? here)
  case h_12 here => exact .cleared (congrArg Place.port? here)
  case h_13 => exact .refused _

theorem activated (w : Wizard) (action : Action) : Activated w action (w.activate action) := by
  unfold activate
  dsimp only
  split
  · next back =>
    subst back
    unfold goBack
    split
    · exact .refused _
    · next behind => exact .closed behind
  · exact activated_act action

theorem exists_outcome_handOut (w : Wizard) (reboot : Bool) :
    ∃ outcome, (w.handOut reboot).2 = .ok outcome := by
  unfold handOut
  dsimp only
  split
  · split
    · exact ⟨_, rfl⟩
    · exact ⟨_, rfl⟩
  · exact ⟨_, rfl⟩

/-- An action that fails is refused, and only the notice is cleared. -/
theorem activate_of_error {action : Action} {error : StepError}
    (failed : (w.activate action).2 = .error error) :
    ∃ refusal, error = .refused refusal ∧
      w.activate action = (w.quiet, .error (.refused refusal)) := by
  generalize hr : w.activate action = result at failed ⊢
  cases hr ▸ activated w action with
  | refused refusal =>
    cases failed
    exact ⟨refusal, rfl, rfl⟩
  | handedOut =>
    obtain ⟨outcome, ok⟩ := exists_outcome_handOut w.quiet _
    rw [ok] at failed
    cases failed
  | closed | opened | stored | cleared | discarded | left => cases failed

/-! ### Keys -/

/-- The wizard with its cursor where it is shown on a laid-out menu. -/
def settled (w : Wizard) (menu : Paged Action) : Wizard :=
  w.atCursor (w.cursor menu).1 (w.cursor menu).2

/-- How a key can turn out: what it leaves and comes to. -/
inductive Pressed (w : Wizard) (key : Key) : Wizard × StepResult → Prop
  | noRoom {error : NoRoom} (menu : w.menu = .error error) :
      Pressed w key (w, .error (.paging error))
  | moved (page row : Nat) : Pressed w key (w.atCursor page row, .ok .pending)
  | entered {menu : Paged Action} {action : Action} (shown : w.menu = .ok menu)
      (enter : key = .enter)
      (under : (menu.entry? (w.cursor menu).1 (w.cursor menu).2).bind (·.action) = some action) :
      Pressed w key ((w.settled menu).activate action)
  | closed {menu : Paged Action} (shown : w.menu = .ok menu) (back : key = .back)
      (deep : 1 < w.depth) : Pressed w key ((w.settled menu).activate .back)
  | interrupted {menu : Paged Action} (shown : w.menu = .ok menu) (interrupt : key = .interrupt) :
      Pressed w key (w.settled menu, .ok .exit)

theorem pressed (w : Wizard) (key : Key) : Pressed w key (w.press key) := by
  unfold press
  cases shown : w.menu with
  | error => exact .noRoom shown
  | ok menu =>
    dsimp only [pressOn]
    cases key with
    | up | down | other => exact .moved _ _
    | left | right =>
      dsimp only
      split
      · exact .moved _ _
      · exact .moved _ _
    | enter =>
      dsimp only
      split
      · next under => exact .entered shown rfl under
      · exact .moved _ _
    | back =>
      dsimp only
      split
      · next deep => exact .closed shown rfl deep
      · exact .moved _ _
    | interrupt => exact .interrupted shown rfl

end CameraSetup.Wizard
