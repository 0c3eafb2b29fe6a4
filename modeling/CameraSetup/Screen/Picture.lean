import CameraSetup.Screen.Glyph

/-! Pictures for a terminal: the cells of each row, and how texts and boxes are drawn on them. Main
statement: text that is written on cells keeps their number. -/

namespace CameraSetup.Screen

/-- A color of a terminal; `reset` is its own. -/
inductive Color
  | reset
  | black
  | white
  | gray
  | darkGray
  | cyan
  | yellow
  | rgb (red green blue : Nat)
  deriving DecidableEq, Repr

/-- How a text is drawn. -/
structure Style where
  foreground : Color
  background : Color
  bold : Bool
  deriving DecidableEq, Repr

/-- What stands in one row and column of the screen: most often one character. A text that is wider
than a column reaches into the columns after it. -/
structure Cell where
  text : String
  style : Style
  deriving DecidableEq, Repr

/-- A cell with one character. -/
def Cell.ofChar (style : Style) (c : Char) : Cell := ⟨String.singleton c, style⟩

/-- A cell without a text, on a ground. -/
def Cell.empty (ground : Style) : Cell := .ofChar ground ' '

/-- The cells of a screen, row by row. -/
abbrev Picture := List (List Cell)

/-- The style of an empty screen. -/
def plain : Style := ⟨.reset, .reset, false⟩

/-! ### Text -/

/-- Writes glyphs on cells, from the first on. Glyphs without a column are left out, and the cells
that a wide glyph reaches into keep what they have. -/
def written (style : Style) : List Glyph → List Cell → List Cell
  | [], cells => cells
  | _, [] => []
  | glyph :: glyphs, cell :: cells =>
    match glyph.columns with
    | 0 => written style glyphs (cell :: cells)
    | reach + 1 =>
      ⟨String.ofList glyph.text, style⟩ ::
        (cells.take reach ++ written style glyphs (cells.drop reach))

/-- A line of text on a ground of a width. Glyphs that are wider than the line are left out, and the
line ends before the first that has no room. -/
def textLine (width : Nat) (style : Style) (text : List Char) : List Cell :=
  let glyphs := (Glyph.ofText text).filter (·.columns ≤ width)
  written style (Glyph.fitting width glyphs) (List.replicate width (.empty style))

/-! ### Boxes -/

/-- The upper border of a box, with a title. -/
def topBorder (title : List Char) : Nat → List Char
  | 0 => []
  | 1 => ['┌']
  | inside + 2 => '┌' :: title.take inside ++ List.replicate (inside - title.length) '─' ++ ['┐']

/-- The lower border of a box. -/
def bottomBorder : Nat → List Char
  | 0 => []
  | 1 => ['└']
  | inside + 2 => '└' :: List.replicate inside '─' ++ ['┘']

/-- A row of a box of a width, between its borders. -/
def betweenBorders (style : Style) (width : Nat) (cells : List Cell) : List Cell :=
  match width with
  | 0 => []
  | 1 => [.ofChar style '│']
  | _ + 2 => .ofChar style '│' :: cells ++ [.ofChar style '│']

/-- A box of a width and a height, with a title in its border, and rows inside. -/
def box (title : List Char) (style : Style) (width height : Nat) (inside : Picture) : Picture :=
  let top := (topBorder title width).map (.ofChar style)
  match height with
  | 0 => []
  | 1 => [top]
  | _ + 2 =>
    top :: inside.map (betweenBorders style width) ++
      [(bottomBorder width).map (.ofChar style)]

/-! ### Over a picture -/

/-- Changes the rows of a picture from the first on, each with one of the values given. -/
def changedRows {α : Type} (change : α → List Cell → List Cell) : List α → Picture → Picture
  | value :: values, row :: rows => change value row :: changedRows change values rows
  | _, rows => rows

/-- A row with cells over those from a column on. -/
def covered (start : Nat) (cells row : List Cell) : List Cell :=
  row.take start ++ cells ++ row.drop (start + cells.length)

/-! ### What a terminal shows -/

/-- An empty screen. -/
def blank (width height : Nat) : Picture :=
  List.replicate height (List.replicate width (.empty plain))

/-- Whether a cell's text reaches into the cell after it. -/
def Cell.isWide (cell : Cell) : Bool := 1 < Text.columns cell.text.toList

/-- The cells of a row that can be seen, given whether a wide one stands before the row. The cell
right after a wide one is covered. -/
def visibleCells (afterWide : Bool) : List Cell → List (Option Cell)
  | [] => []
  | cell :: cells => (if afterWide then none else some cell) :: visibleCells cell.isWide cells

/-- The cells of rows that can be seen. The first cell of a row comes after the last one of the row
before. -/
def visibleRows (afterWide : Bool) : Picture → List (List (Option Cell))
  | [] => []
  | row :: rows =>
    visibleCells afterWide row :: visibleRows (row.getLast?.elim afterWide Cell.isWide) rows

/-- A picture as a terminal shows it. In place of a cell that is covered nothing is drawn. -/
def shown (picture : Picture) : Picture :=
  (visibleRows false picture).map (·.map (·.getD (.empty plain)))

theorem length_written (style : Style) (glyphs : List Glyph) (cells : List Cell) :
    (written style glyphs cells).length = cells.length := by
  fun_induction written style glyphs cells with
  | case4 glyph glyphs cell cells reach columns ih =>
    simp only [List.length_cons, List.length_append, List.length_take, ih, List.length_drop]
    omega
  | _ => simp_all

theorem length_textLine (width : Nat) (style : Style) (text : List Char) :
    (textLine width style text).length = width := by
  simp [textLine, length_written]

theorem length_box (title : List Char) (style : Style) (width height : Nat) {inside : Picture}
    (h : inside.length = height - 2) : (box title style width height inside).length = height := by
  unfold box
  split <;> simp_all

theorem length_visibleCells (afterWide : Bool) (cells : List Cell) :
    (visibleCells afterWide cells).length = cells.length := by
  induction cells generalizing afterWide with
  | nil => rfl
  | cons cell cells ih => simp [visibleCells, ih]

end CameraSetup.Screen
