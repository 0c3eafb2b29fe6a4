import CameraSetup.Text.Blank
import CameraSetup.Text.Cluster
import CameraSetup.Text.Columns

/-! The glyphs of a text: what is drawn as one. Most glyphs take one column. A wide one takes more,
and one that only guides how others are drawn takes none. -/

namespace CameraSetup.Screen

/-- What is drawn as one, with the number of columns that it takes. -/
structure Glyph where
  text : List Char
  columns : Nat
  columns_eq : columns = Text.columns text
  deriving DecidableEq

namespace Glyph

/-- The glyph of a cluster of characters. -/
def ofCluster (text : List Char) : Glyph := ⟨text, Text.columns text, rfl⟩

/-- The glyphs of a text. A line feed alone is not drawn. -/
def ofText (text : List Char) : List Glyph :=
  ((Text.clusters text).filter (· ≠ ['\n'])).map ofCluster

/-- Whether a glyph separates words. White space does, except for the space that keeps words
together; so does the space without a width. -/
def isSeparator (glyph : Glyph) : Bool :=
  glyph.text = ['\u200b'] || glyph.text.all Text.isBlank && glyph.text ≠ ['\u00a0']

/-- The number of columns that glyphs take. -/
def totalColumns : List Glyph → Nat
  | [] => 0
  | glyph :: glyphs => glyph.columns + totalColumns glyphs

/-- The glyphs from the first on that fit into a number of columns. -/
def fitting : Nat → List Glyph → List Glyph
  | _, [] => []
  | room, glyph :: glyphs =>
    if glyph.columns ≤ room then glyph :: fitting (room - glyph.columns) glyphs else []

/-- The glyphs after those that fit into a number of columns. -/
def overflowing : Nat → List Glyph → List Glyph
  | _, [] => []
  | room, glyph :: glyphs =>
    if glyph.columns ≤ room then overflowing (room - glyph.columns) glyphs else glyph :: glyphs

theorem totalColumns_append (a b : List Glyph) :
    totalColumns (a ++ b) = totalColumns a + totalColumns b := by
  induction a with
  | nil => simp [totalColumns]
  | cons glyph glyphs ih => simp [totalColumns, ih, Nat.add_assoc]

theorem fitting_append_overflowing (room : Nat) (glyphs : List Glyph) :
    fitting room glyphs ++ overflowing room glyphs = glyphs := by
  induction glyphs generalizing room with
  | nil => rfl
  | cons glyph glyphs ih =>
    simp only [fitting, overflowing]
    split <;> simp [ih]

theorem totalColumns_fitting_le (room : Nat) (glyphs : List Glyph) :
    totalColumns (fitting room glyphs) ≤ room := by
  induction glyphs generalizing room with
  | nil => simp [fitting, totalColumns]
  | cons glyph glyphs ih =>
    simp only [fitting]
    split
    · next h =>
      have := ih (room - glyph.columns)
      simp only [totalColumns]
      omega
    · simp [totalColumns]

end Glyph

end CameraSetup.Screen
