import CameraSetup.DeviceTree.Token
import CameraSetup.Text.Quoted
import CameraSetup.Text.Utf8

/-! What a compiled overlay says about itself: the string properties of its root node. Properties of
other nodes and other properties of the root are of no account. -/

namespace CameraSetup

/-- The strings of an overlay's root node that matter here. -/
structure OverlayIdentity where
  overlayName : Option String
  headerName : Option String
  compatible : List String
  deriving DecidableEq, Repr

namespace DeviceTree

/-- A number as `0x` and at least `width` hexadecimal digits. -/
def hexNumber (width n : Nat) : String :=
  let digits := Text.hex n
  "0x" ++ String.ofList (List.replicate (width - digits.length) '0' ++ digits)

/-- How the operator is told. -/
def FormatError.message : FormatError → String
  | .shorterThanHeader => "blob shorter than header"
  | .badMagic magic => s!"bad magic {hexNumber 8 magic}"
  | .truncatedBlob claimed actual =>
    s!"truncated blob: header says {claimed} bytes, got {actual}"
  | .stringsOutOfRange => "strings block out of range"
  | .truncatedAt offset => s!"truncated at offset {offset}"
  | .unterminatedNodeName => "unterminated node name"
  | .unbalancedEndNode => "unbalanced END_NODE token"
  | .nameOutOfRange => "property name out of range"
  | .unterminatedName => "unterminated property name"
  | .nameNotUtf8 => "property name is not UTF-8"
  | .unknownToken token offset => s!"unknown token {hexNumber 1 token} at offset {offset}"

/-- The octets between zero octets. -/
def splitAtZero : List UInt8 → List (List UInt8)
  | [] => [[]]
  | b :: bs =>
    if b = 0 then [] :: splitAtZero bs
    else match splitAtZero bs with
      | [] => [[b]]
      | s :: ss => (b :: s) :: ss

/-- The strings of a value: what stands between zero octets, without the empty ones. -/
def stringsIn (value : List UInt8) : List String :=
  ((splitAtZero value).filter (!·.isEmpty)).map fun s => String.ofList (Text.decodeLenient s)

/-- The name at an offset of the strings block. -/
def nameAt (strings : List UInt8) (offset : Nat) : Except FormatError String := do
  if strings.length < offset then throw .nameOutOfRange
  let tail := strings.drop offset
  if !tail.contains 0 then throw .unterminatedName
  match Text.decodeUtf8? (tail.takeWhile (· ≠ 0)) with
  | none => throw .nameNotUtf8
  | some name => pure name

/-- The offsets that the header of a device tree gives. -/
structure Header where
  structureOffset : Nat
  stringsOffset : Nat
  deriving DecidableEq, Repr

/-- What every device tree starts with. -/
def magicNumber : Nat := 0xd00dfeed

/-- The octets that a header takes at least. -/
def headerLength : Nat := 40

/-- Reads the header. The blob may be longer than it says, not shorter. -/
def header (blob : List UInt8) : Except FormatError Header := do
  if blob.length < headerLength then throw .shorterThanHeader
  let (magic, r) ← (Reader.startingAt blob 0).number
  if magic ≠ magicNumber then throw (.badMagic magic)
  let (size, r) ← r.number
  if blob.length < size then throw (.truncatedBlob size blob.length)
  let (structureOffset, r) ← r.number
  let (stringsOffset, _) ← r.number
  pure ⟨structureOffset, stringsOffset⟩

end DeviceTree

namespace OverlayIdentity

open DeviceTree

/-- What an overlay says that has no property of account. -/
def empty : OverlayIdentity := ⟨none, none, []⟩

/-- Takes in a property of the root node. -/
def withProperty (info : OverlayIdentity) (name : String) (value : List UInt8) : OverlayIdentity :=
  if name = "overlay-name" then { info with overlayName := (stringsIn value).head? }
  else if name = "jetson-header-name" then { info with headerName := (stringsIn value).head? }
  else if name = "compatible" then { info with compatible := stringsIn value }
  else info

/-- The number of open nodes and what has been found so far. -/
structure Reading where
  depth : Nat
  info : OverlayIdentity
  deriving DecidableEq, Repr

/-- Takes in a token. Only the properties in one open node belong to the root. -/
def Reading.step (strings : List UInt8) (r : Reading) : Token → Except FormatError Reading
  | .beginNode => .ok { r with depth := r.depth + 1 }
  | .endNode =>
    if r.depth = 0 then .error .unbalancedEndNode else .ok { r with depth := r.depth - 1 }
  | .property nameOffset value =>
    if r.depth = 1 then
      (nameAt strings nameOffset).map fun name =>
        { r with info := r.info.withProperty name value }
    else .ok r
  | .nop | .finish => .ok r

/-- Reads what a compiled overlay says about itself. -/
def decode (blob : List UInt8) : Except FormatError OverlayIdentity := do
  let header ← header blob
  if blob.length < header.stringsOffset then throw .stringsOutOfRange
  let strings := blob.drop header.stringsOffset
  let (tokens, ending) := (Reader.startingAt blob header.structureOffset).tokens
  let reading ← tokens.foldlM (Reading.step strings) ⟨0, .empty⟩
  ending
  pure reading.info

/-- Whether the overlay is made for a board with these compatible strings. -/
def isMadeFor (info : OverlayIdentity) (board : List String) : Bool :=
  info.compatible.any board.contains

end OverlayIdentity

end CameraSetup
