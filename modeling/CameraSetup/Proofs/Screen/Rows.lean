import CameraSetup.Proofs.Text.Plain
import CameraSetup.Screen.Layout

/-! The rows of a menu on the screen. Where all rows fit between what stands above and below them,
and their labels are plain, each row stands on a line of its own in the box, with its mark and its
label, and a terminal shows the line as it is drawn. -/

namespace CameraSetup.Screen

open Text (IsPlain isPlain)
open Wizard (ShownRow View)

variable {width height : Nat} {view : View} {row : ShownRow} {style : Style}

/-! ### What is to be seen -/

/-- A row in the menu's box: between the borders, its mark, its label as far as there is room, and
the empty panel. -/
def framedRow (width : Nat) (mark : List Char) (style : Style) (label : String) : List Cell :=
  let text := label.toList.take (width - 4)
  .ofChar borderStyle '│' :: ((mark ++ text).map (.ofChar style) ++
    List.replicate (width - 4 - text.length) (.empty panelStyle)) ++ [.ofChar borderStyle '│']

/-- A row of a menu stands on a line of a picture. Only the row under the cursor has the mark and
the style of a selected one. -/
structure OnLine (picture : Picture) (width line : Nat) (row : ShownRow) : Prop where
  selected : row.highlighted = true →
    picture[line]? = some (framedRow width ['>', ' '] selectedStyle row.label)
  others : row.highlighted = false →
    picture[line]? = some (framedRow width [' ', ' ']
      (if row.selectable then unselectedStyle else mutedStyle) row.label)

/-- A screen has room for the rows of a view: each stands on the line of its number, counted from
line 4, the first one inside the box. Below them are the lower border of the box, the status and the
hints. -/
structure HasRoomFor (width height : Nat) (view : View) : Prop where
  rows : ∀ i row, view.rows[i]? = some row → 4 + i + 3 < height ∧
    OnLine (shown (menu width height view)) width (4 + i) row
  status : (menu width height view)[height - 2]? = some (statusLine width view.status)
  hints : (menu width height view)[height - 1]? = some (hintLine width)

/-! ### Plain text -/

section Plain
variable {text : List Char} (plain : ∀ c ∈ text, isPlain c = true)
include plain

theorem ofText_of_plain : Glyph.ofText text = text.map fun c => Glyph.ofCluster [c] := by
  have drawn : ∀ cluster ∈ text.map ([·]), decide (cluster ≠ ['\n']) = true := by
    intro cluster mem
    obtain ⟨c, inside, rfl⟩ := List.mem_map.mp mem
    refine decide_eq_true fun feed => ?_
    cases feed
    exact absurd (plain _ inside) (by decide)
  rw [Glyph.ofText, Text.clusters_of_isPlain plain, List.filter_eq_self.mpr drawn, List.map_map]
  rfl

theorem fitting_of_plain (room : Nat) :
    Glyph.fitting room (text.map fun c => Glyph.ofCluster [c]) =
      (text.take room).map fun c => Glyph.ofCluster [c] := by
  induction text generalizing room with
  | nil => simp [Glyph.fitting]
  | cons c text ih =>
    have one : (Glyph.ofCluster [c]).columns = 1 :=
      Text.columns_of_isPlain (plain c List.mem_cons_self)
    rw [List.map_cons, Glyph.fitting, one]
    cases room with
    | zero => rfl
    | succ room =>
      rw [if_pos (Nat.le_add_left 1 room), Nat.add_sub_cancel,
        ih fun d mem => plain d (List.mem_cons_of_mem c mem)]
      rfl

theorem together_of_plain (style : Style) :
    together style (text.map fun c => Glyph.ofCluster [c]) = text.map (.ofChar style) := by
  induction text with
  | nil => rfl
  | cons c text ih =>
    have one : (Glyph.ofCluster [c]).columns = 1 :=
      Text.columns_of_isPlain (plain c List.mem_cons_self)
    have others := fun d mem => plain d (List.mem_cons_of_mem c mem)
    have alone : (text.map fun c => Glyph.ofCluster [c]).takeWhile (·.columns = 0) = [] := by
      cases text with
      | nil => rfl
      | cons d text =>
        have next : (Glyph.ofCluster [d]).columns = 1 :=
          Text.columns_of_isPlain (others d List.mem_cons_self)
        simp [next]
    rw [List.map_cons, together, ih others, alone, one]
    rfl

end Plain

theorem isPlain_of_mem_marker (row : ShownRow) : ∀ c ∈ marker row, isPlain c = true := by
  unfold marker
  split <;> exact List.all_eq_true.mp (by decide)

/-- A row with a plain label, as it is drawn. -/
theorem menuRow_of_plain (plain : IsPlain row.label) (room : Nat) :
    menuRow (room + 2) row =
      (marker row ++ row.label.toList.take room).map (.ofChar (rowStyle row)) ++
        List.replicate (room - (row.label.toList.take room).length) (.empty panelStyle) := by
  have marked : ∀ c ∈ marker row ++ row.label.toList, isPlain c = true :=
    List.forall_mem_append.mpr ⟨isPlain_of_mem_marker row, plain⟩
  have length : (marker row).length = 2 := by
    unfold marker
    split <;> rfl
  have taken : (marker row ++ row.label.toList).take (room + 2) =
      marker row ++ row.label.toList.take room := by
    rw [List.take_append, length, Nat.add_sub_cancel, List.take_of_length_le (by omega)]
  have part : ∀ c ∈ (marker row ++ row.label.toList).take (room + 2), isPlain c = true :=
    fun c mem => marked c (List.mem_of_mem_take mem)
  rw [menuRow, ofText_of_plain marked, fitting_of_plain marked, together_of_plain part, taken,
    List.length_map, List.length_append, length]
  congr 2
  omega

/-! ### What a terminal shows -/

theorem visibleCells_of_not_isWide {cells : List Cell} (h : ∀ cell ∈ cells, cell.isWide = false) :
    visibleCells false cells = cells.map some := by
  induction cells with
  | nil => rfl
  | cons cell cells ih =>
    rw [visibleCells, h cell List.mem_cons_self,
      ih fun c mem => h c (List.mem_cons_of_mem cell mem)]
    rfl

theorem getElem?_visibleRows (afterWide : Bool) {picture : Picture} {n : Nat}
    {before line : List Cell} {last : Cell} (above : picture[n]? = some before)
    (ends : before.getLast? = some last) (narrow : last.isWide = false)
    (here : picture[n + 1]? = some line) (all : ∀ cell ∈ line, cell.isWide = false) :
    (visibleRows afterWide picture)[n + 1]? = some (line.map some) := by
  induction picture generalizing n afterWide with
  | nil => cases above
  | cons first picture ih =>
    rw [visibleRows, List.getElem?_cons_succ]
    rw [List.getElem?_cons_succ] at here
    cases n with
    | zero =>
      cases above
      obtain ⟨rest, rfl⟩ := List.head?_eq_some_iff.mp ((List.head?_eq_getElem? ..).trans here)
      rw [ends, Option.elim_some, narrow, visibleRows, List.getElem?_cons_zero,
        visibleCells_of_not_isWide all]
    | succ n => exact ih _ above here

/-- A line without wide glyphs, below one that ends with none, is shown as it is drawn. -/
theorem getElem?_shown {picture : Picture} {n : Nat} {before line : List Cell} {last : Cell}
    (above : picture[n]? = some before) (ends : before.getLast? = some last)
    (narrow : last.isWide = false) (here : picture[n + 1]? = some line)
    (all : ∀ cell ∈ line, cell.isWide = false) : (shown picture)[n + 1]? = some line := by
  rw [shown, List.getElem?_map, getElem?_visibleRows false above ends narrow here all,
    Option.map_some, List.map_map]
  exact congrArg some (List.map_id line)

theorem isWide_of_isPlain {c : Char} (h : isPlain c = true) :
    (Cell.ofChar style c).isWide = false := by
  rw [Cell.isWide, Cell.ofChar, String.toList_singleton, Text.columns_of_isPlain h]
  rfl

theorem isWide_of_mem_framedRow {mark : List Char} {label : String}
    (marked : ∀ c ∈ mark, isPlain c = true) (plain : IsPlain label) :
    ∀ cell ∈ framedRow width mark style label, cell.isWide = false := by
  have border : (Cell.ofChar borderStyle '│').isWide = false := by decide +kernel
  have text : ∀ c ∈ mark ++ label.toList.take (width - 4), isPlain c = true :=
    List.forall_mem_append.mpr ⟨marked, fun c mem => plain c (List.mem_of_mem_take mem)⟩
  intro cell mem
  simp only [framedRow, List.cons_append, List.mem_cons, List.mem_append, List.not_mem_nil,
    or_false] at mem
  rcases mem with rfl | (written | empty) | rfl
  · exact border
  · obtain ⟨c, inside, rfl⟩ := List.mem_map.mp written
    exact isWide_of_isPlain (text c inside)
  · rw [List.eq_of_mem_replicate empty]
    exact isWide_of_isPlain (by decide)
  · exact border

/-! ### The lines of the screen -/

/-- On a screen that is high enough for everything around the rows, nothing is cut. -/
theorem menu_eq (high : framingRows ≤ height) :
    menu width height view = titleBlock width view.title ++
      (rowBox width (height - titleRows - 2) view.rows ++
        [statusLine width view.status, hintLine width]) := by
  have above : titleRows ≤ height := Nat.le_trans (by decide) high
  have all : (rowBox width (height - titleRows - 2) view.rows ++
      [statusLine width view.status, hintLine width]).length = height - titleRows := by
    rw [List.length_append, length_rowBox]
    simp only [framingRows, titleRows, List.length_cons, List.length_nil] at *
    omega
  rw [menu, List.take_of_length_le (by rw [length_titleBlock]; exact above), all,
    Nat.sub_self, List.drop_zero]

theorem isWide_borders : ∀ c ∈ ['┐', '│', '┘'], (Cell.ofChar style c).isWide = false := by
  have one : ['┐', '│', '┘'].all (fun c => Text.columns [c] = 1) = true := by decide +kernel
  intro c mem
  rw [Cell.isWide, Cell.ofChar, String.toList_singleton,
    of_decide_eq_true (List.all_eq_true.mp one c mem)]
  rfl

/-- Every line of a box ends with a border. -/
theorem getLast?_of_mem_box {title : List Char} (wide : 2 ≤ width) {inside : Picture}
    {line : List Cell} (mem : line ∈ box title style width height inside) :
    ∃ last, line.getLast? = some last ∧ last.isWide = false := by
  obtain ⟨width, rfl⟩ : ∃ n, width = n + 2 := ⟨width - 2, by omega⟩
  have top : ((topBorder title (width + 2)).map (Cell.ofChar style)).getLast? =
      some (.ofChar style '┐') := by
    rw [topBorder, List.map_append]
    exact List.getLast?_concat
  unfold box at mem
  split at mem
  · cases mem
  · rw [List.mem_singleton.mp mem]
    exact ⟨_, top, isWide_borders _ (by simp)⟩
  · simp only [List.cons_append, List.mem_cons, List.mem_append, List.mem_map, List.not_mem_nil,
      or_false] at mem
    rcases mem with rfl | ⟨cells, -, rfl⟩ | rfl
    · exact ⟨_, top, isWide_borders _ (by simp)⟩
    · exact ⟨.ofChar style '│', List.getLast?_concat, isWide_borders _ (by simp)⟩
    · rw [bottomBorder, List.map_append]
      exact ⟨.ofChar style '┘', List.getLast?_concat, isWide_borders _ (by simp)⟩

/-- The lines of the box, where there is room for all rows. -/
theorem getElem?_rowBox {rows : List ShownRow} {inside i : Nat} (room : rows.length ≤ inside)
    (here : rows[i]? = some row) :
    (rowBox width (inside + 2) rows)[i + 1]? =
      some (betweenBorders borderStyle width (menuRow (width - 2) row)) := by
  obtain ⟨small, -⟩ := List.getElem?_eq_some_iff.mp here
  have first : i < (rows.map (menuRow (width - 2))).length := by simpa using small
  rw [rowBox, Nat.add_sub_cancel, List.take_of_length_le room]
  simp only [box, List.cons_append, List.getElem?_cons_succ]
  rw [List.getElem?_append_left (by simp; omega), List.getElem?_map,
    List.getElem?_append_left first, List.getElem?_map, here]
  rfl

/-- A row's line in the box, with a plain label, is the row framed. -/
theorem betweenBorders_menuRow (wide : 4 ≤ width) (plain : IsPlain row.label) :
    betweenBorders borderStyle width (menuRow (width - 2) row) =
      framedRow width (marker row) (rowStyle row) row.label := by
  obtain ⟨room, rfl⟩ : ∃ n, width = n + 4 := ⟨width - 4, by omega⟩
  rw [show room + 4 - 2 = room + 2 by omega, menuRow_of_plain plain]
  rfl

/-- The lines of the box stand below the title. -/
theorem getElem?_menu_box {inside k : Nat} (inBox : k < inside + 2) :
    (menu width (inside + framingRows) view)[titleRows + k]? =
      (rowBox width (inside + 2) view.rows)[k]? := by
  have high : inside + framingRows - titleRows - 2 = inside + 2 := by
    simp only [framingRows, titleRows]
    omega
  rw [menu_eq (Nat.le_add_left _ _), high, List.getElem?_append_right, length_titleBlock,
    Nat.add_sub_cancel_left, List.getElem?_append_left]
  · rwa [length_rowBox]
  · rw [length_titleBlock]
    exact Nat.le_add_right _ _

/-- Where all rows fit, each is shown, framed, on its line. -/
theorem getElem?_shown_menu (wide : 4 ≤ width) (room : view.rows.length + framingRows ≤ height)
    {i : Nat} (here : view.rows[i]? = some row) (plain : IsPlain row.label) :
    (shown (menu width height view))[4 + i]? =
      some (framedRow width (marker row) (rowStyle row) row.label) := by
  obtain ⟨small, -⟩ := List.getElem?_eq_some_iff.mp here
  obtain ⟨inside, rfl⟩ : ∃ n, height = n + framingRows := ⟨height - framingRows, by omega⟩
  have line : (rowBox width (inside + 2) view.rows)[i + 1]? =
      some (framedRow width (marker row) (rowStyle row) row.label) := by
    rw [getElem?_rowBox (by omega) here, betweenBorders_menuRow wide plain]
  -- What the line before ends with counts too, since a wide glyph there would cover the border.
  obtain ⟨before, above⟩ : ∃ before, (rowBox width (inside + 2) view.rows)[i]? = some before :=
    ⟨_, List.getElem?_eq_getElem (by rw [length_rowBox]; omega)⟩
  have mem := List.mem_of_getElem? above
  rw [rowBox] at mem
  obtain ⟨last, ends, narrow⟩ := getLast?_of_mem_box (by omega) mem
  rw [show 4 + i = titleRows + i + 1 by simp only [titleRows]; omega]
  exact getElem?_shown ((getElem?_menu_box (by omega)).trans above) ends narrow
    ((getElem?_menu_box (by omega)).trans line)
    (isWide_of_mem_framedRow (isPlain_of_mem_marker row) plain)

theorem getElem?_menu_below (high : framingRows ≤ height) (k : Nat) :
    (menu width height view)[height - 2 + k]? =
      [statusLine width view.status, hintLine width][k]? := by
  have above : (titleBlock width view.title ++
      rowBox width (height - titleRows - 2) view.rows).length = height - 2 := by
    rw [List.length_append, length_titleBlock, length_rowBox]
    simp only [framingRows] at high
    omega
  rw [menu_eq high, ← List.append_assoc, List.getElem?_append_right (by omega), above,
    Nat.add_sub_cancel_left]

/-- A screen has room for the rows of a view that fit between what is above and below them. -/
theorem hasRoomFor (wide : 4 ≤ width) (room : view.rows.length + framingRows ≤ height)
    (plain : ∀ row ∈ view.rows, IsPlain row.label) : HasRoomFor width height view := by
  have high : framingRows ≤ height := Nat.le_of_add_left_le room
  refine ⟨fun i row here => ?_, getElem?_menu_below high 0, ?_⟩
  · obtain ⟨small, -⟩ := List.getElem?_eq_some_iff.mp here
    have line := getElem?_shown_menu wide room here (plain row (List.mem_of_getElem? here))
    have inside : 4 + i + 3 < height := by
      simp only [framingRows, titleRows] at room
      omega
    refine ⟨inside, fun selected => ?_, fun other => ?_⟩
    · rw [line, marker, rowStyle, if_pos selected, if_pos selected]
    · rw [line, marker, rowStyle, if_neg (by simp [other]), if_neg (by simp [other])]
  · rw [show height - 1 = height - 2 + 1 by simp only [framingRows, titleRows] at high; omega]
    exact getElem?_menu_below high 1

end CameraSetup.Screen
