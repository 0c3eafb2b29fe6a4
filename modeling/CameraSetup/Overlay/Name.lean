import CameraSetup.Connector
import CameraSetup.Selection
import CameraSetup.Text.LowerCase

/-! The overlay files that a selection needs. Their names follow one scheme per connector: one file
for the board, one for the sensor on each port, and one for the link booster of each port that has
one. -/

namespace CameraSetup

/-- What an overlay sets up. -/
inductive OverlayRole
  | board
  | sensor (port : String)
  | linkBooster (port : String)
  deriving DecidableEq, Repr

/-- The port that an overlay belongs to; the board's belongs to none. -/
def OverlayRole.port? : OverlayRole → Option String
  | .board => none
  | .sensor port => some port
  | .linkBooster port => some port

/-- The file name of an overlay and what the overlay sets up. -/
structure OverlayName where
  name : String
  role : OverlayRole
  deriving DecidableEq, Repr

namespace OverlayName

/-- A text in lower case. -/
def lowered (s : String) : String := String.ofList (Text.lower s.toList)

/-- A board id as file names hold it: in lower case, without periods, with `_` for `/`. -/
def boardPart (board : BoardId) : String :=
  String.ofList <| ((Text.lower board.text.toList).filter (· ≠ '.')).map fun c =>
    if c = '/' then '_' else c

/-- The file name of a board's overlay. -/
def ofBoard (connector : Connector) (board : BoardId) : String :=
  s!"{connector.fileNameStart}fpa_{boardPart board}-overlay.dtbo"

/-- The file name of the overlay for a sensor with a number of lanes on a port. -/
def ofSensor (connector : Connector) (sensor port : String) (lanes : Nat) : String :=
  s!"{connector.fileNameStart}{lowered sensor}-{lowered port}-{lanes}lane-overlay.dtbo"

/-- The file name of the overlay for the link booster on a port. -/
def ofLinkBooster (connector : Connector) (port : String) : String :=
  s!"{connector.fileNameStart}{lowered port}-gmsl-overlay.dtbo"

/-- The overlays of one port. -/
def ofPort (connector : Connector) (port : String) (setup : PortSetup) : List OverlayName :=
  let sensor : OverlayName := ⟨ofSensor connector setup.sensor port setup.lanes, .sensor port⟩
  match setup.linkBooster with
  | .absent => [sensor]
  | .present => [sensor, ⟨ofLinkBooster connector port, .linkBooster port⟩]

end OverlayName

/-- The overlays of a selection: the board's, then those of its ports in order. -/
def Selection.overlays (s : Selection) (connector : Connector) : List OverlayName :=
  ⟨OverlayName.ofBoard connector s.board, .board⟩ ::
    s.ports.toList.flatMap fun (port, setup) => OverlayName.ofPort connector port setup

end CameraSetup
