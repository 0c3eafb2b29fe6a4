import CameraSetup.Board
import CameraSetup.Text.Blank
import CameraSetup.Text.Cut

/-! Descriptors, the names that installed overlays give themselves. A descriptor is a tag word, one
space, and a body. The body names an add-on board, a sensor on a port with a number of lanes, or a
port that can have a link booster. A body that reads as several of these is the first of them. -/

namespace CameraSetup

/-- What an overlay's name says. -/
inductive Descriptor
  | addOnBoard (id : BoardId)
  | sensorLane (sensor port : String) (lanes : Nat)
  | linkBooster (port : String)
  deriving DecidableEq, Repr

/-- The value of a string of decimal digits. -/
def decimalValue (digits : List Char) : Nat :=
  digits.foldl (fun n d => 10 * n + (d.toNat - '0'.toNat)) 0

/-- Lane counts are below this bound. -/
def laneBound : Nat := 0x100000000

namespace Descriptor

/-- The characters of a board id. -/
def isIdChar (c : Char) : Bool := c.isAlphanum || c == '/' || c == '.'

/-- The characters of a sensor name. -/
def isSensorChar (c : Char) : Bool := c.isAlphanum || c == '_'

/-- The digits of a lane count. -/
def isLaneDigit (c : Char) : Bool := '1' ≤ c && c ≤ '9'

/-- A text that is not empty and has characters of one kind only. -/
def isWordOf (kind : Char → Bool) (s : List Char) : Bool := !s.isEmpty && s.all kind

/-- What follows the tag word. -/
def body? (raw : List Char) : Option (List Char) := do
  let (tag, body) ← Text.cut? ' ' (Text.trim raw)
  if isWordOf Char.isAlphanum tag && isWordOf (fun c => !Text.isBlank c) body then some body
  else none

/-- A body such as `FPA-1.2`. -/
def addOnBoardOf? (body : List Char) : Option Descriptor := do
  let (kind, id) ← Text.cut? '-' body
  if isWordOf (fun c => ['F', 'P', 'A'].contains c) kind && isWordOf isIdChar id then
    some (.addOnBoard ⟨String.ofList id⟩)
  else none

/-- A body such as `imx900-P0-4Lane`. -/
def sensorLaneOf? (body : List Char) : Option Descriptor := do
  let start ← Text.dropSuffix? ['L', 'a', 'n', 'e'] body
  match Text.fields '-' start with
  | [sensor, port, lanes] =>
    if isWordOf isSensorChar sensor && isWordOf Char.isAlphanum port
        && isWordOf isLaneDigit lanes && decimalValue lanes < laneBound then
      some (.sensorLane (String.ofList sensor) (String.ofList port) (decimalValue lanes))
    else none
  | _ => none

/-- A body such as `GMSL-P0`. What follows the port's digits is of no account. -/
def linkBoosterOf? (body : List Char) : Option Descriptor := do
  let (kind, rest) ← Text.cut? '-' body
  let letters := rest.takeWhile Char.isUpper
  let digits := (rest.dropWhile Char.isUpper).takeWhile Char.isDigit
  if isWordOf (fun c => ['G', 'M', 'S', 'L'].contains c) kind
      && !letters.isEmpty && !digits.isEmpty then
    some (.linkBooster (String.ofList (letters ++ digits)))
  else none

/-- Reads a descriptor. -/
def parse? (raw : String) : Option Descriptor := do
  let body ← body? raw.toList
  addOnBoardOf? body <|> sensorLaneOf? body <|> linkBoosterOf? body

/-- The descriptor's form with a given tag word. -/
def written (tag : String) : Descriptor → String
  | .addOnBoard id => s!"{tag} FPA-{id.text}"
  | .sensorLane sensor port lanes => s!"{tag} {sensor}-{port}-{lanes}Lane"
  | .linkBooster port => s!"{tag} GMSL-{port}"

end Descriptor

end CameraSetup
