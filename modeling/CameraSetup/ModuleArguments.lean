import CameraSetup.Descriptor
import CameraSetup.Selection
import CameraSetup.Text.LowerCase
import CameraSetup.Text.Quoted

/-! Module arguments, which name a selection on the command line: one argument for the add-on board
and one for each sensor, in the form of descriptors. A sensor's argument may end in a suffix that
asks for a link booster. -/

namespace CameraSetup

/-- What one argument names. -/
inductive ModuleArgument
  | addOnBoard (id : BoardId)
  | sensorModule (port : String) (setup : PortSetup)
  deriving DecidableEq, Repr

/-- Why arguments name no selection. -/
inductive ArgumentError
  | secondBoard (first second : BoardId)
  | unrecognized (argument : String)
  | repeatedPort (port : String)
  | noBoard
  | noSensor (board : BoardId)
  deriving DecidableEq, Repr

/-- How the operator is told. -/
def ArgumentError.message : ArgumentError → String
  | .secondBoard first second => s!"more than one FPA given ({first.label} and {second.label})"
  | .unrecognized argument => s!"unrecognized module argument {Text.quoted argument}"
  | .repeatedPort port => s!"port {port} given more than once"
  | .noBoard => "FPA overlay not specified; cannot continue"
  | .noSensor board => s!"no sensor module given for {board.label}; cannot continue"

namespace ModuleArgument

/-- The suffix that asks for a link booster, in any case. -/
def boosterSuffix : List Char := ['g', 'm', 's', 'l']

/-- An argument without the suffix, and whether it had one. -/
def withoutSuffix (argument : String) : String × LinkBooster :=
  match Text.cutLast? '-' argument.toList with
  | none => (argument, .absent)
  | some (start, suffix) =>
    if Text.sameIgnoringCase suffix boosterSuffix then (String.ofList start, .present)
    else (argument, .absent)

/-- Reads an argument. -/
def parse? (argument : String) : Option ModuleArgument :=
  match Descriptor.parse? argument with
  | some (.addOnBoard id) => some (.addOnBoard id)
  | _ =>
    let (descriptor, linkBooster) := withoutSuffix argument
    match Descriptor.parse? descriptor with
    | some (.sensorLane sensor port lanes) => some (.sensorModule port ⟨sensor, lanes, linkBooster⟩)
    | _ => none

/-- The board and the sensors of the arguments read so far, the latest sensor last. -/
structure Reading where
  board : Option BoardId
  ports : List (String × PortSetup)
  deriving DecidableEq, Repr

/-- Whether a port has been named before, in any case. -/
def Reading.names (r : Reading) (port : String) : Bool :=
  r.ports.any fun p => Text.sameIgnoringCase p.1.toList port.toList

/-- Takes in an argument. -/
def Reading.step (r : Reading) (argument : String) : Except ArgumentError Reading :=
  match parse? argument with
  | none => .error (.unrecognized argument)
  | some (.addOnBoard id) =>
    match r.board with
    | some first => .error (.secondBoard first id)
    | none => .ok { r with board := some id }
  | some (.sensorModule port setup) =>
    if r.names port then .error (.repeatedPort port)
    else .ok { r with ports := r.ports ++ [(port, setup)] }

/-- The selection that arguments name. -/
def selection (arguments : List String) : Except ArgumentError Selection := do
  let reading ← arguments.foldlM Reading.step ⟨none, []⟩
  match reading.board with
  | none => throw .noBoard
  | some board =>
    if reading.ports.isEmpty then throw (.noSensor board)
    pure ⟨board, .ofList reading.ports⟩

end ModuleArgument

end CameraSetup
