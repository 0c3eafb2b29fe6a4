import CameraSetup.Screen.Glyph

/-! Text in rows of a limited width. A row ends before a word that does not fit, and a word that is
wider than a row is cut where the row is full. White space stays where it is, but for that at the
end of a row that is full. -/

namespace CameraSetup.Screen

/-- A text as far as it is laid out: the rows that are finished, and of the row after them what is
settled, the white space that follows and the word after that. The word, with the white space,
can still move to a row of its own. -/
structure Wrapping where
  rows : List (List Glyph)
  settled : List Glyph
  gap : List Glyph
  word : List Glyph
  /-- Whether the glyph that came last belongs to a word. -/
  inWord : Bool
  deriving DecidableEq

namespace Wrapping

/-- Nothing is laid out. -/
def empty : Wrapping := ⟨[], [], [], [], false⟩

/-- What stands in the row that is not finished. -/
def openRow (w : Wrapping) : List Glyph := w.settled ++ w.gap ++ w.word

/-- The columns of the row that is not finished. -/
def openColumns (w : Wrapping) : Nat :=
  Glyph.totalColumns w.settled + Glyph.totalColumns w.gap + Glyph.totalColumns w.word

/-- The white space and the word stay in their row. -/
def settle (w : Wrapping) : Wrapping := { w with settled := w.openRow, gap := [], word := [] }

/-- Finishes a row after what is settled. The white space that the row still has room for is left
out, and the word goes to the next row. -/
def finishRow (width : Nat) (w : Wrapping) : Wrapping :=
  { w with
    rows := w.rows ++ [w.settled]
    settled := []
    gap := Glyph.overflowing (width - Glyph.totalColumns w.settled) w.gap }

/-- Adds a glyph to the white space or to the word. -/
def add (w : Wrapping) (glyph : Glyph) : Wrapping :=
  if glyph.isSeparator then { w with gap := w.gap ++ [glyph], inWord := false }
  else { w with word := w.word ++ [glyph], inWord := true }

/-- Whether white space and word stay in their row now that a glyph follows: the glyph ends the
word, or they fill a row of their own. -/
def settles (width : Nat) (w : Wrapping) (glyph : Glyph) : Bool :=
  w.inWord && glyph.isSeparator ||
    w.settled.isEmpty && width < w.openColumns + glyph.columns

/-- Whether a row has no room for a glyph. The last column is enough for one that is wider. -/
def isFull (width : Nat) (w : Wrapping) (glyph : Glyph) : Bool :=
  width ≤ Glyph.totalColumns w.settled || 0 < glyph.columns && width ≤ w.openColumns

/-- Lays out one more glyph. White space at which a row ends is left out, and so is a glyph that is
wider than a row. -/
def place (width : Nat) (w : Wrapping) (glyph : Glyph) : Wrapping :=
  if width < glyph.columns then w
  else
    let w := if w.settles width glyph then w.settle else w
    if w.isFull width glyph then
      let w := w.finishRow width
      if glyph.isSeparator && w.gap.isEmpty then w else w.add glyph
    else w.add glyph

/-- The rows when no glyph follows. White space that nothing precedes in its row stands below an
empty row. -/
def finish (w : Wrapping) : List (List Glyph) :=
  let onlyGap := w.settled.isEmpty && w.word.isEmpty && !w.gap.isEmpty
  let rows := w.rows ++ (if onlyGap then [[]] else [])
  let rows := if w.openRow.isEmpty then rows else rows ++ [w.openRow]
  if rows.isEmpty then [[]] else rows

theorem openColumns_eq (w : Wrapping) : w.openColumns = Glyph.totalColumns w.openRow := by
  simp [openColumns, openRow, Glyph.totalColumns_append, Nat.add_assoc]

theorem finish_ne_nil (w : Wrapping) : w.finish ≠ [] := by
  intro h
  simp only [finish] at h
  grind

end Wrapping

/-- The rows of a text in a width. -/
def wrapped (width : Nat) (glyphs : List Glyph) : List (List Glyph) :=
  (glyphs.foldl (Wrapping.place width) .empty).finish

theorem wrapped_ne_nil (width : Nat) (glyphs : List Glyph) : wrapped width glyphs ≠ [] :=
  Wrapping.finish_ne_nil _

end CameraSetup.Screen
