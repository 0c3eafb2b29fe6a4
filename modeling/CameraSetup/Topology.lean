import CameraSetup.Connector
import CameraSetup.Descriptor
import CameraSetup.Port
import CameraSetup.SortedMap
import CameraSetup.Text.LowerCase

/-! The topology: the add-on boards that were detected, and the ports, sensors, lane counts and
link boosters that they offer. Descriptors do not tie a port to a board, so every board offers
every port. A link booster serves the ports of its name, whatever the case of the letters. -/

namespace CameraSetup

/-- The link booster options of each lane count. -/
abbrev LaneOptions := SortedMap Nat (SortedSet LinkBooster)

/-- The lane counts of each sensor. -/
abbrev SensorOptions := SortedMap String LaneOptions

/-- The sensors at each port. -/
abbrev PortOptions := SortedMap String SensorOptions

/-- The boards and what each of them offers at its ports. -/
structure Topology where
  connector : Connector
  boards : SortedMap BoardId PortOptions
  deriving DecidableEq

/-- Why descriptors describe no topology. -/
inductive TopologyError
  | noAddOnBoard
  | emptyBoard (id : BoardId)
  deriving DecidableEq, Repr

/-- How the operator is told. -/
def TopologyError.message : TopologyError → String
  | .noAddOnBoard => "No FPA overlay detected; cannot continue"
  | .emptyBoard id => s!"{id.label} has no camera ports; cannot continue"

namespace Topology

/-! ### From descriptors -/

/-- The board that a descriptor names, to which nothing is known to belong. -/
def boardOf? : Descriptor → Option (BoardId × PortOptions)
  | .addOnBoard id => some (id, .empty)
  | _ => none

/-- Adds the port, sensor and lane count that a descriptor names. A link booster need not be used. -/
def addSensorLane (ports : PortOptions) : Descriptor → PortOptions
  | .sensorLane sensor port lanes =>
    ports.update port .empty fun sensors =>
      sensors.update sensor .empty fun counts =>
        counts.update lanes .empty fun options => options.insert .absent ()
  | _ => ports

/-- Adds a link booster that a descriptor names to every sensor and lane count known at its port. -/
def addLinkBooster (ports : PortOptions) : Descriptor → PortOptions
  | .linkBooster name =>
    ports.mapValues fun port sensors =>
      if Text.sameIgnoringCase port.toList name.toList then
        sensors.mapValues fun _ counts =>
          counts.mapValues fun _ options => options.insert .present ()
      else sensors
  | _ => ports

/-- Does with the ports of every board what a descriptor says. -/
def onEveryBoard (add : PortOptions → Descriptor → PortOptions)
    (boards : SortedMap BoardId PortOptions) (d : Descriptor) : SortedMap BoardId PortOptions :=
  boards.mapValues fun _ ports => add ports d

/-- The topology that descriptors describe. They are gone through once for the boards, once for the
sensors and once for the link boosters. Texts that are no descriptors count for nothing. -/
def ofDescriptors (connector : Connector) (descriptors : List String) :
    Except TopologyError Topology :=
  let known := descriptors.filterMap Descriptor.parse?
  let named : SortedMap BoardId PortOptions := .ofList (known.filterMap boardOf?)
  if named.isEmpty then .error .noAddOnBoard
  else
    let boards := known.foldl (onEveryBoard addSensorLane) named
    let boards := known.foldl (onEveryBoard addLinkBooster) boards
    match boards.toList.find? fun (_, ports) => ports.isEmpty with
    | some (board, _) => .error (.emptyBoard board)
    | none => .ok { connector, boards }

/-! ### What is on offer -/

variable (t : Topology)

/-- What a board offers at a port. -/
def sensorOptions? (board : BoardId) (port : String) : Option SensorOptions := do
  let ports ← t.boards.get? board
  ports.get? port

/-- What a board offers for a sensor at a port. -/
def laneOptions? (board : BoardId) (port sensor : String) : Option LaneOptions := do
  let sensors ← t.sensorOptions? board port
  sensors.get? sensor

/-- What a board offers for a sensor with a number of lanes at a port. -/
def boosterOptions? (board : BoardId) (port sensor : String) (lanes : Nat) :
    Option (SortedSet LinkBooster) := do
  let counts ← t.laneOptions? board port sensor
  counts.get? lanes

/-- The ports of a board. -/
def ports? (board : BoardId) : Option (List String) := (t.boards.get? board).map (·.keys)

/-- The sensors for a port. -/
def sensors? (board : BoardId) (port : String) : Option (List String) :=
  (t.sensorOptions? board port).map (·.keys)

/-- The lane counts of a sensor at a port. -/
def lanes? (board : BoardId) (port sensor : String) : Option (List Nat) :=
  (t.laneOptions? board port sensor).map (·.keys)

/-- The link booster options of a sensor with a number of lanes at a port. -/
def boosters? (board : BoardId) (port sensor : String) (lanes : Nat) :
    Option (List LinkBooster) :=
  (t.boosterOptions? board port sensor lanes).map (·.keys)

/-- Whether a port of a board can be set up so. -/
def offers (board : BoardId) (port : String) (setup : PortSetup) : Bool :=
  match t.boosters? board port setup.sensor setup.lanes with
  | none => false
  | some boosters => boosters.contains setup.linkBooster

/-- The number of ports over all boards. -/
def totalPorts : Nat := t.boards.toList.foldl (fun count (_, ports) => count + ports.size) 0

end Topology

end CameraSetup
