/-! The camera connectors of the supported carrier boards. Every overlay is built for one of them,
and says so by the connector's header name. -/

namespace CameraSetup

/-- The family of a carrier board's camera connector. -/
inductive Connector
  | wide
  | narrow
  deriving DecidableEq, Repr

namespace Connector

/-- The connectors in order of precedence: the wide one wins when overlays for both are
installed. -/
def all : List Connector := [.wide, .narrow]

/-- The name by which an overlay refers to the connector. -/
def headerName : Connector → String
  | .wide => "Jetson AGX CSI Connector"
  | .narrow => "Jetson 24pin CSI Connector"

/-- What the file names of the connector's overlays start with. -/
def fileNameStart : Connector → String
  | .wide => "tegra234-p3737-camera-fr_"
  | .narrow => "tegra234-p3767-camera-p3768-fr_"

/-- The product name of the board that has the connector. -/
def productName : Connector → String
  | .wide => "Jetson AGX Orin"
  | .narrow => "Jetson Orin Nano/NX"

/-- The connector of a header name. -/
def ofHeaderName? (name : String) : Option Connector :=
  all.find? fun c => c.headerName == name

theorem mem_all (c : Connector) : c ∈ all := by cases c <;> decide

theorem ofHeaderName?_headerName (c : Connector) : ofHeaderName? c.headerName = some c := by
  cases c <;> decide

end Connector

end CameraSetup
