import CameraSetup.Screen.Picture
import CameraSetup.Screen.Wrapped
import CameraSetup.Text.Cut
import CameraSetup.Wizard.View

/-! The layout of the screen. The menu takes the whole screen: a block for the title, a box for the
rows, a line for the status, and a line of hints. A message is a box in the middle of the screen,
over what was there. Main statement: the rows of a menu fill the screen. -/

namespace CameraSetup.Screen

/-! ### Styles -/

/-- The background of boxes. -/
def panel : Color := .rgb 20 20 30

/-- The style of the title block. -/
def titleStyle : Style := ⟨.cyan, .reset, true⟩

/-- The style of the borders of boxes. -/
def borderStyle : Style := ⟨.cyan, panel, false⟩

/-- The inside of a box where no text stands. -/
def panelStyle : Style := ⟨.reset, panel, false⟩

/-- The row under the cursor. -/
def selectedStyle : Style := ⟨.black, .yellow, true⟩

/-- A row that can be selected. -/
def unselectedStyle : Style := ⟨.gray, panel, false⟩

/-- A row that only separates or captions others. -/
def mutedStyle : Style := ⟨.darkGray, panel, false⟩

/-- The style of the line for the status. -/
def statusStyle : Style := ⟨.yellow, .reset, false⟩

/-- The style of the line of hints. -/
def hintStyle : Style := ⟨.darkGray, .reset, false⟩

/-- The text of a message. -/
def messageStyle : Style := ⟨.white, panel, false⟩

/-! ### Fixed texts -/

/-- What stands in the border of the title block. -/
def windowTitle : String := " Camera Configuration "

/-- What the keys do. -/
def navigationHints : String := "↑/↓ move  ←/→ page  Enter/Space select  Esc back  Ctrl-C quit"

/-- What stands below a message. -/
def dismissHint : String := "Press any key to continue"

/-! ### Text -/

/-- The text of one line; it ends where the next line starts. -/
def firstLine (text : String) : List Char := ((Text.lines text.toList).head?).getD []

/-- The column at which centred text starts. -/
def centredStart (width length : Nat) : Nat := width / 2 - min length width / 2

/-! ### The menu -/

/-- The rows of the title block. -/
def titleRows : Nat := 3

/-- The rows around the menu's rows: the title block, the borders of the box, the status and the
hints. -/
def framingRows : Nat := titleRows + 2 + 1 + 1

/-- The title block, with the name of the application in its border. -/
def titleBlock (width : Nat) (title : String) : Picture :=
  box windowTitle.toList titleStyle width titleRows
    [textLine (width - 2) titleStyle (firstLine title)]

/-- How a row is marked. -/
def marker (row : Wizard.ShownRow) : List Char :=
  if row.highlighted then ['>', ' '] else [' ', ' ']

/-- The style of a row of the menu. -/
def rowStyle (row : Wizard.ShownRow) : Style :=
  if row.highlighted then selectedStyle
  else if row.selectable then unselectedStyle
  else mutedStyle

/-- The style of what is drawn over the end of a wide glyph: the background of boxes does not show
there. -/
def overWide (style : Style) : Style :=
  if style.background = panel then { style with background := .reset } else style

/-- The cells of glyphs that stand in a row together: each has with it the glyphs without a column
that follow. The end of a wide glyph is empty. -/
def together (style : Style) : List Glyph → List Cell
  | [] => []
  | glyph :: glyphs =>
    let others := together style glyphs
    let followers := (glyphs.takeWhile (·.columns = 0)).flatMap (·.text)
    match glyph.columns with
    | 0 => others
    | 1 => ⟨String.ofList (glyph.text ++ followers), style⟩ :: others
    | reach + 2 =>
      let last : Cell :=
        if followers.isEmpty then .empty plain
        else ⟨String.ofList (' ' :: followers), overWide style⟩
      ⟨String.ofList glyph.text, style⟩ :: List.replicate reach (.empty plain) ++ last :: others

/-- A row of the menu in a width. -/
def menuRow (width : Nat) (row : Wizard.ShownRow) : List Cell :=
  let glyphs := Glyph.fitting width (Glyph.ofText (marker row ++ row.label.toList))
  let cells := together (rowStyle row) glyphs
  cells ++ List.replicate (width - cells.length) (.empty panelStyle)

/-- The box with the menu's rows. -/
def rowBox (width height : Nat) (rows : List Wizard.ShownRow) : Picture :=
  let shown := (rows.take (height - 2)).map (menuRow (width - 2))
  let space := List.replicate (width - 2) (Cell.empty panelStyle)
  box [] borderStyle width height (shown ++ List.replicate (height - 2 - shown.length) space)

/-- The line for the status. -/
def statusLine (width : Nat) (status : Option String) : List Cell :=
  match status with
  | some text => textLine width statusStyle (firstLine text)
  | none => List.replicate width (.empty plain)

/-- The line of hints. -/
def hintLine (width : Nat) : List Cell :=
  let start := centredStart width navigationHints.toList.length
  List.replicate start (.empty hintStyle) ++
    textLine (width - start) hintStyle navigationHints.toList

/-- The menu on a screen of a width and a height. A screen that is too low for all of it shows the
title first, and of the rest what is last. -/
def menu (width height : Nat) (view : Wizard.View) : Picture :=
  let belowTitle := rowBox width (height - titleRows - 2) view.rows ++
    [statusLine width view.status, hintLine width]
  (titleBlock width view.title).take height ++
    belowTitle.drop (belowTitle.length - (height - titleRows))

/-! ### Messages -/

/-- The lines in a message box, with their styles. -/
def messageLines (lines : List String) : List (String × Style) :=
  lines.map (·, messageStyle) ++ [("", panelStyle), (dismissHint, ⟨.darkGray, panel, false⟩)]

/-- The rows that the lines of a message take in a box whose inside has a width. -/
def messageRows (width : Nat) (lines : List String) : List (List Glyph × Style) :=
  (messageLines lines).flatMap fun (line, style) =>
    (wrapped width (Glyph.ofText line.toList)).map (·, style)

/-- A message over another picture. The box is as wide as the longest line and as high as there are
lines, as far as the screen allows; a line that has to be wrapped takes room from those below. -/
def message (width height : Nat) (lines : List String) (below : Picture) : Picture :=
  let longest := (lines.map (·.toList.length)).foldl max dismissHint.toList.length
  let boxWidth := min (longest + 4) width
  let boxHeight := min (lines.length + 4) height
  let top := (height - boxHeight) / 2
  let left := (width - boxWidth) / 2
  let space := List.replicate (boxWidth - 2) (Cell.empty panelStyle)
  let empty := box [] borderStyle boxWidth boxHeight (List.replicate (boxHeight - 2) space)
  let rows := (messageRows (boxWidth - 2) lines).take (boxHeight - 2)
  let write (text : List Glyph × Style) (row : List Cell) : List Cell :=
    row.take (left + 1) ++ written text.2 text.1 (row.drop (left + 1))
  let boxed := below.take top ++ changedRows (covered left) empty (below.drop top)
  boxed.take (top + 1) ++ changedRows write rows (boxed.drop (top + 1))

theorem length_together (style : Style) (glyphs : List Glyph) :
    (together style glyphs).length = Glyph.totalColumns glyphs := by
  induction glyphs with
  | nil => rfl
  | cons glyph glyphs ih =>
    simp only [together, Glyph.totalColumns]
    split <;> simp_all <;> omega

theorem length_menuRow (width : Nat) (row : Wizard.ShownRow) :
    (menuRow width row).length = width := by
  have := Glyph.totalColumns_fitting_le width (Glyph.ofText (marker row ++ row.label.toList))
  simp only [menuRow, List.length_append, List.length_replicate, length_together]
  omega

theorem length_rowBox (width height : Nat) (rows : List Wizard.ShownRow) :
    (rowBox width height rows).length = height := by
  refine length_box _ _ _ _ ?_
  simp only [List.length_append, List.length_map, List.length_take, List.length_replicate]
  omega

theorem length_titleBlock (width : Nat) (title : String) :
    (titleBlock width title).length = titleRows :=
  length_box _ _ _ _ rfl

theorem length_menu (width height : Nat) (view : Wizard.View) :
    (menu width height view).length = height := by
  simp only [menu, List.length_append, List.length_take, List.length_drop, length_titleBlock,
    length_rowBox, List.length_cons, List.length_nil, titleRows]
  omega

end CameraSetup.Screen
