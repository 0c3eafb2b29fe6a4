import CameraSetup.Menu.Paged
import CameraSetup.Selection
import CameraSetup.Text.Quoted
import CameraSetup.Topology

/-! The state of the wizard: a stack of open menus over the top-level menu, the selection that has
not been saved yet, and a notice for the operator. -/

namespace CameraSetup.Wizard

/-- A menu, with the choices that led to it. -/
inductive Place
  | topLevel
  | portMenu (board : BoardId)
  | sensorMenu (board : BoardId) (port : String)
  | laneMenu (board : BoardId) (port sensor : String)
  | linkBoosterMenu (board : BoardId) (port sensor : String) (lanes : Nat)
  deriving DecidableEq, Repr

/-- How messages name the menu. -/
def Place.label : Place → String
  | .topLevel => "top-level menu"
  | .portMenu board => s!"port menu of {board.label}"
  | .sensorMenu board port => s!"sensor menu of {port} on {board.label}"
  | .laneMenu board port sensor => s!"lane menu of {sensor} on {port} on {board.label}"
  | .linkBoosterMenu board port sensor lanes =>
    s!"GMSL menu of {laneText lanes} for {sensor} on {port} on {board.label}"

/-- What a menu row can do. -/
inductive Action
  | openBoard (board : BoardId)
  | openPort (port : String)
  | openSensor (sensor : String)
  | openLanes (lanes : Nat)
  | choose (linkBooster : LinkBooster)
  | clearPort
  | back
  | saveAndReboot
  | saveOnly
  | discardAll
  | exit
  deriving DecidableEq, Repr

/-- How messages write the action. -/
def Action.written : Action → String
  | .openBoard board => s!"OpenBoard(AddOnBoardId({Text.quoted board.text}))"
  | .openPort port => s!"OpenPort({Text.quoted port})"
  | .openSensor sensor => s!"OpenSensor({Text.quoted sensor})"
  | .openLanes lanes => s!"OpenLanes({lanes})"
  | .choose .absent => "Choose(None)"
  | .choose .present => "Choose(Present)"
  | .clearPort => "ClearPort"
  | .back => "Back"
  | .saveAndReboot => "SaveAndReboot"
  | .saveOnly => "SaveOnly"
  | .discardAll => "DiscardAll"
  | .exit => "Exit"

/-- How messages name what an action asks for. -/
def Action.target : Action → String
  | .openBoard board => board.label
  | .openPort port => port
  | .openSensor sensor => sensor
  | .openLanes lanes => laneText lanes
  | .choose linkBooster => linkBooster.label
  | action => action.written

/-- Why an action is refused: the menu does not have it, or the topology lacks what it asks for. -/
inductive Refusal
  | notInMenu (place : Place) (action : Action)
  | notOffered (action : Action)
  deriving DecidableEq, Repr

/-- How the operator is told. -/
def Refusal.message : Refusal → String
  | .notInMenu place action => s!"{action.written} is not available in the {place.label}"
  | .notOffered action => s!"{action.target} is not part of the detected topology"

/-- What the operator is told after an action. -/
inductive Notice
  | boardDiscarded (board : BoardId)
  | allDiscarded
  | nothingToSave
  deriving DecidableEq, Repr

/-- How the operator is told. -/
def Notice.text : Notice → String
  | .boardDiscarded board => s!"Discarded pending configuration of {board.label}"
  | .allDiscarded => "All changes discarded"
  | .nothingToSave => "No camera port configured; nothing to save"

/-- A selection that is to be saved. -/
structure SaveRequest where
  selection : Selection
  reboot : Bool
  deriving DecidableEq

/-- What follows from a step. -/
inductive Outcome
  | pending
  | commit (request : SaveRequest)
  | exit
  deriving DecidableEq

/-- An open menu and where its cursor stands. -/
structure Frame where
  place : Place
  page : Nat
  row : Nat
  deriving DecidableEq, Repr

/-- A menu that was just opened. -/
def Frame.opened (place : Place) : Frame := ⟨place, 0, 0⟩

end CameraSetup.Wizard

namespace CameraSetup

/-- The wizard. The menu in front is `current`; `outer` holds the menus behind it, the nearest
first, so there is always at least one open menu. -/
structure Wizard where
  topology : Topology
  current : Wizard.Frame
  outer : List Wizard.Frame
  selection : Option Selection
  pageCapacity : Nat
  notice : Option Wizard.Notice
  deriving DecidableEq

namespace Wizard

/-- The least page capacity with which every menu can be laid out: the five footer rows of the
top-level menu with something to save, the spacer and the caption of a page, and one entry. -/
def leastCapacity : Nat := 8

/-- A wizard at its top-level menu. -/
def start (topology : Topology) (pageCapacity : Nat) : Wizard where
  topology := topology
  current := .opened .topLevel
  outer := []
  selection := none
  pageCapacity := pageCapacity
  notice := none

/-- The open menus, the top-level menu first. -/
def stack (w : Wizard) : List Frame := (w.current :: w.outer).reverse

/-- The number of open menus. -/
def depth (w : Wizard) : Nat := w.outer.length + 1

/-- The menu in front. -/
def place (w : Wizard) : Place := w.current.place

/-- Changes the page capacity; cursors are put back onto their pages by the next key. -/
def withPageCapacity (w : Wizard) (capacity : Nat) : Wizard := { w with pageCapacity := capacity }

/-- Opens a menu in front of the others. -/
def opening (w : Wizard) (place : Place) : Wizard :=
  { w with current := .opened place, outer := w.current :: w.outer }

/-- Closes menus from the front until `depth` of them, or only one, are open. -/
def closedTo (w : Wizard) (depth : Nat) : Wizard :=
  let frames := (w.current :: w.outer).drop (w.depth - depth)
  match frames with
  | [] => w
  | frame :: rest => { w with current := frame, outer := rest }

/-- Closes all menus but the top-level one and puts its cursor to the start. -/
def reset (w : Wizard) : Wizard :=
  let top := w.closedTo 1
  { top with current := { top.current with page := 0, row := 0 } }

/-- The pending setup of a port of a board. -/
def pendingSetup? (w : Wizard) (board : BoardId) (port : String) : Option PortSetup := do
  let selection ← w.selection
  if selection.board = board then selection.get? port else none

end Wizard

end CameraSetup
