import CameraSetup.Text.Cluster.Table
import CameraSetup.Text.Columns.Table

/-! The number of columns that a text takes on a terminal. Most characters take one and East Asian
ones two; marks and the signs that only guide how others are drawn take none. A picture can be asked
for in color or as text by the character after it, and pictures that are joined are drawn as one, so
a text is measured from its end. -/

namespace CameraSetup.Text

/-- Whether a character changes the skin of the person before it. -/
def isModifier (c : Char) : Bool := 0x1f3fb ≤ c.toNat && c.toNat ≤ 0x1f3ff

/-- Whether a character takes no column. Most marks take none. -/
def isColumnless (c : Char) : Bool :=
  columnlessClass.contains c ||
    extenderClass.contains c && !isModifier c && !standingMarkClass.contains c

/-- The columns of a character, whatever is around it. -/
def charColumns (c : Char) : Nat :=
  if c < '\u007f' then 1
  else if isColumnless c then 0
  else if c = '\u17d8' then 3
  else if wideClass.contains c || c = '\u17a4' then 2
  else 1

/-- Whether a picture looks like text where nothing asks for it in color. -/
def looksLikeText (c : Char) : Bool :=
  !wideClass.contains c || [0x3030, 0x303d, 0x3297, 0x3299, 0x1f202, 0x1f237].contains c.toNat

/-- What a character has to know about those after it. -/
inductive Following
  | ordinary
  | lineFeed
  /-- A sign that asks for a picture as text. -/
  | textStyle
  /-- A sign that asks for a picture in color, which may be joined to another. -/
  | emojiStyle (joined : Bool)
  /-- A picture in color. -/
  | emoji
  /-- A joiner with a picture in color. -/
  | joined
  /-- A modifier, which may be joined to a picture. -/
  | modifier (joined : Bool)
  deriving DecidableEq, Repr

/-- A text that is measured: its columns, and what it means for a character before it. -/
structure Measured where
  columns : Nat
  following : Following
  deriving DecidableEq, Repr

namespace Measured

/-- Nothing is measured. -/
def empty : Measured := ⟨0, .ordinary⟩

/-- Whether what is measured starts with something that is joined to what comes before. -/
def isJoined (m : Measured) : Bool :=
  m.following = .joined || m.following = .emojiStyle true || m.following = .modifier true

/-- Measures a picture in color before what is measured. One that is joined to the next shares its
columns. -/
def addEmoji (m : Measured) : Measured := ⟨m.columns + (if m.isJoined then 0 else 2), .emoji⟩

/-- Measures a character before what is measured that has nothing to do with what follows. -/
def addOrdinary (m : Measured) (c : Char) : Measured := ⟨m.columns + charColumns c, .ordinary⟩

/-- Measures a picture in its usual form before what is measured. -/
def addUsual (m : Measured) (c : Char) : Measured :=
  if looksLikeText c then m.addOrdinary c else m.addEmoji

/-- Measures a character that can be a picture before what is measured. -/
def addPicture (m : Measured) (c : Char) : Measured :=
  match m.following with
  | .emojiStyle _ => m.addEmoji
  | .modifier _ => if modifiedClass.contains c then ⟨m.columns, .emoji⟩ else m.addUsual c
  | .textStyle => if textStyledClass.contains c then ⟨m.columns + 1, .ordinary⟩ else m.addUsual c
  | _ => m.addUsual c

/-- Measures one more character, before those that are measured. -/
def add (c : Char) (m : Measured) : Measured :=
  if c = '\n' then ⟨m.columns + 1, .lineFeed⟩
  else if c = '\r' then ⟨m.columns + (if m.following = .lineFeed then 0 else 1), .ordinary⟩
  else if c = '\u200d' then ⟨m.columns, if m.following = .emoji then .joined else .ordinary⟩
  else if c = '\ufe0e' then ⟨m.columns, .textStyle⟩
  else if c = '\ufe0f' then ⟨m.columns, .emojiStyle m.isJoined⟩
  else if isModifier c then ⟨m.columns + (if m.isJoined then 0 else 2), .modifier m.isJoined⟩
  else if emojiClass.contains c then m.addPicture c
  else m.addOrdinary c

end Measured

/-- The number of columns that a text takes. -/
def columns (text : List Char) : Nat := (text.foldr Measured.add .empty).columns

end CameraSetup.Text
