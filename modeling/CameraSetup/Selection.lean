import CameraSetup.Board
import CameraSetup.Port
import CameraSetup.SortedMap

/-! A selection: one add-on board and the setup of some of its ports. -/

namespace CameraSetup

/-- The ports of one board that are to be set up, by port name. -/
structure Selection where
  board : BoardId
  ports : SortedMap String PortSetup
  deriving DecidableEq

namespace Selection

/-- A board with no port set up. -/
def ofBoard (board : BoardId) : Selection := ⟨board, .empty⟩

/-- The selection with a port set up so, whatever it was before. -/
def insert (s : Selection) (port : String) (setup : PortSetup) : Selection :=
  { s with ports := s.ports.insert port setup }

/-- The selection without a port. -/
def erase (s : Selection) (port : String) : Selection :=
  { s with ports := s.ports.erase port }

/-- The setup of a port. -/
def get? (s : Selection) (port : String) : Option PortSetup := s.ports.get? port

/-- The number of ports that are set up. -/
def size (s : Selection) : Nat := s.ports.size

/-- Whether no port is set up. -/
def isEmpty (s : Selection) : Bool := s.ports.isEmpty

@[simp] theorem get?_insert_self (s : Selection) (port : String) (setup : PortSetup) :
    (s.insert port setup).get? port = some setup :=
  SortedMap.get?_insert_self _ _ _

theorem get?_insert_of_ne (s : Selection) {p q : String} (h : q ≠ p) (setup : PortSetup) :
    (s.insert p setup).get? q = s.get? q :=
  SortedMap.get?_insert_of_ne _ h _

end Selection

end CameraSetup
