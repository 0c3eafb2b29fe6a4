import CameraSetup.Screen.Picture

/-! The text that draws a picture on a terminal. A control sequence starts with the escape character
and a bracket; those that end in `m` choose the style of what follows. -/

namespace CameraSetup.Screen

/-- The start of a control sequence. -/
def introducer : String := "\x1b["

/-- The parameters that choose a color: a color of the palette counts from `base`, a bright one from
60 above, and 8 announces the parts of any other. -/
def colorParameters (base : Nat) : Color → String
  | .black => toString base
  | .yellow => toString (base + 3)
  | .cyan => toString (base + 6)
  | .gray => toString (base + 7)
  | .reset => toString (base + 9)
  | .darkGray => toString (base + 60)
  | .white => toString (base + 67)
  | .rgb red green blue => s!"{base + 8};2;{red};{green};{blue}"

/-- The sequence that chooses a style, whatever was chosen before. -/
def styleSequence (style : Style) : String :=
  let weight := if style.bold then "1;" else ""
  let foreground := colorParameters 30 style.foreground
  let background := colorParameters 40 style.background
  introducer ++ s!"0;{weight}{foreground};{background}m"

/-- The sequences that clear the screen and put the cursor into its first cell. -/
def clearSequence : String := introducer ++ "2J" ++ introducer ++ "H"

/-- The text of cells after a cell in a style; a style is chosen where it starts. -/
def cellsText (before : Option Style) : List Cell → String
  | [] => ""
  | cell :: cells =>
    let chosen := if before = some cell.style then "" else styleSequence cell.style
    chosen ++ cell.text ++ cellsText (some cell.style) cells

/-- The text of a row, after which the terminal's own style is back. Cells that a wide one covers
are left out. -/
def rowLine (cells : List (Option Cell)) : String :=
  cellsText none (cells.filterMap id) ++ styleSequence plain

/-- The text that draws a picture on a cleared screen. -/
def drawing (picture : Picture) : String :=
  clearSequence ++ String.intercalate "\r\n" ((visibleRows false picture).map rowLine)

end CameraSetup.Screen
