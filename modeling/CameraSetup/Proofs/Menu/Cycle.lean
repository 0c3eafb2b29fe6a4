import CameraSetup.Proofs.Menu.Movement
import Mathlib.Data.List.Range

/-! The selectable rows of a page as a cycle. In either direction the cursor comes to each of them
once before it returns, and one direction undoes the other. From any other row it comes to a
selectable one, if the page has any. -/

namespace CameraSetup.Menu

/-- The direction that leads back. -/
def Direction.opposite : Direction → Direction
  | .up => .down
  | .down => .up

/-- Rows given from the top, in the order in which a direction comes to them. -/
def Direction.ordered : Direction → List Nat → List Nat
  | .down, rows => rows
  | .up, rows => rows.reverse

namespace Direction

theorem ordered_opposite (direction : Direction) (rows : List Nat) :
    direction.opposite.ordered rows = (direction.ordered rows).reverse := by
  cases direction
  · exact (List.reverse_reverse rows).symm
  · rfl

theorem filter_ordered (direction : Direction) (p : Nat → Bool) (rows : List Nat) :
    (direction.ordered rows).filter p = direction.ordered (rows.filter p) := by
  cases direction
  · exact List.filter_reverse
  · rfl

theorem mem_ordered (direction : Direction) {rows : List Nat} {row : Nat} :
    row ∈ direction.ordered rows ↔ row ∈ rows := by
  cases direction
  · exact List.mem_reverse
  · rfl

theorem nodup_ordered (direction : Direction) {rows : List Nat} (h : rows.Nodup) :
    (direction.ordered rows).Nodup := by
  cases direction
  · exact List.pairwise_reverse.mpr (h.imp Ne.symm)
  · exact h

end Direction

namespace Paged

variable {α : Type} {list : Paged α} {page row height : Nat} {direction : Direction}

/-- The rows of a page that can be selected, from the top. -/
def choiceRows (list : Paged α) (page : Nat) : List Nat :=
  (List.range (list.page page).length).filter (list.isSelectable page)

/-- The rows that the cursor comes to in a number of moves. -/
def visits (list : Paged α) (page : Nat) (direction : Direction) : Nat → Nat → List Nat
  | 0, _ => []
  | moves + 1, row =>
    match list.nextChoice? page row direction with
    | none => []
    | some next => next :: visits list page direction moves next

theorem mem_choiceRows : row ∈ list.choiceRows page ↔ list.isSelectable page row = true := by
  rw [choiceRows, List.mem_filter, List.mem_range]
  exact ⟨fun h => h.2, fun h => ⟨lt_height_of_isSelectable h, h⟩⟩

theorem pairwise_choiceRows (list : Paged α) (page : Nat) :
    (list.choiceRows page).Pairwise (· < ·) :=
  List.pairwise_lt_range.filter _

/-! ### All rows of a page -/

/-- The rows that a search looks at, one after the other. -/
def searched (direction : Direction) (height row : Nat) : List Nat :=
  (List.range height).map fun k => stepFrom direction height row (k + 1)

theorem nextChoice?_eq_head? (list : Paged α) (page row : Nat) (direction : Direction) :
    list.nextChoice? page row direction =
      ((searched direction (list.page page).length row).filter (list.isSelectable page)).head? := by
  rw [List.head?_filter]
  rfl

/-- A row past the end counts as the one that it comes to round the end. -/
theorem searched_mod (direction : Direction) (height row : Nat) :
    searched direction height (row % height) = searched direction height row := by
  refine List.map_congr_left fun k mem => ?_
  have pos : 0 < height := Nat.zero_lt_of_lt (List.mem_range.mp mem)
  have back := Nat.mod_lt (k + 1) pos
  cases direction with
  | down => exact Nat.mod_add_mod row height (k + 1)
  | up =>
    simp only [stepFrom]
    rw [Nat.add_sub_assoc (Nat.le_of_lt back), Nat.add_sub_assoc (Nat.le_of_lt back),
      Nat.mod_add_mod]

theorem stepFrom_up {offset : Nat} (inside : row < height) (hoffset : offset ≤ height) :
    stepFrom .up height row offset =
      if offset ≤ row then row - offset else row + height - offset := by
  rw [stepFrom]
  rcases Nat.lt_or_eq_of_le hoffset with less | rfl
  · rw [Nat.mod_eq_of_lt less]
    split
    · next before =>
      have same : row + height - offset = row - offset + height := by omega
      rw [same, Nat.add_mod_right, Nat.mod_eq_of_lt (by omega)]
    · exact Nat.mod_eq_of_lt (by omega)
  · rw [Nat.mod_self, Nat.sub_zero, Nat.add_mod_right, Nat.mod_eq_of_lt inside,
      if_neg (Nat.not_le_of_lt inside), Nat.add_sub_cancel]

theorem range_eq_append_cons (inside : row < height) :
    List.range height = List.range row ++ row :: List.range' (row + 1) (height - (row + 1)) := by
  have rest : height - row = height - (row + 1) + 1 := by omega
  have joined := @List.range'_append_1 0 row (height - row)
  rw [Nat.zero_add, rest, List.range'_succ, ← rest, Nat.add_sub_cancel' (Nat.le_of_lt inside),
    ← List.range_eq_range', ← List.range_eq_range'] at joined
  exact joined.symm

/-- A search looks at the rows after its start, then at those before, and at the start last. -/
theorem searched_eq (inside : row < height) (direction : Direction) : ∃ front back,
    direction.ordered (List.range height) = front ++ row :: back ∧
      searched direction height row = back ++ front ++ [row] := by
  cases direction with
  | down =>
    refine ⟨_, _, range_eq_append_cons inside, List.ext_getElem ?_ fun k h _ => ?_⟩
    · simp only [searched, List.length_map, List.length_range, List.length_append,
        List.length_range', List.length_singleton]
      omega
    · have hk : k < height := by simpa [searched] using h
      simp only [searched, List.getElem_map, List.getElem_range,
        stepFrom_down inside (Nat.succ_le_of_lt hk), List.getElem_append, List.getElem_range',
        List.length_append, List.length_range, List.length_range', List.getElem_singleton]
      repeat' split
      all_goals omega
  | up =>
    refine ⟨(List.range' (row + 1) (height - (row + 1))).reverse, (List.range row).reverse, ?_,
      List.ext_getElem ?_ fun k h _ => ?_⟩
    · rw [Direction.ordered, range_eq_append_cons inside, List.reverse_append, List.reverse_cons,
        List.append_assoc]
      rfl
    · simp only [searched, List.length_map, List.length_range, List.length_append,
        List.length_range', List.length_singleton, List.length_reverse]
      omega
    · have hk : k < height := by simpa [searched] using h
      simp only [searched, List.getElem_map, List.getElem_range,
        stepFrom_up inside (Nat.succ_le_of_lt hk), List.getElem_append, List.getElem_reverse,
        List.getElem_range', List.length_append, List.length_reverse, List.length_range,
        List.length_range', List.getElem_singleton]
      repeat' split
      all_goals omega

theorem mem_searched (pos : 0 < height) {target : Nat} :
    target ∈ searched direction height row ↔ target < height := by
  obtain ⟨front, back, rows, looks⟩ := searched_eq (Nat.mod_lt row pos) direction
  rw [← searched_mod, looks, ← List.mem_range,
    ← @Direction.mem_ordered direction (List.range height), rows]
  simp only [List.mem_append, List.mem_cons, List.not_mem_nil, or_false]
  tauto

/-! ### The rows that can be selected -/

/-- A search finds nothing only where nothing can be selected. -/
theorem nextChoice?_eq_none_iff :
    list.nextChoice? page row direction = none ↔
      ∀ target, list.isSelectable page target = false := by
  rw [nextChoice?_eq_head?, List.head?_eq_none_iff, List.filter_eq_nil_iff]
  constructor
  · intro nothing target
    refine Bool.eq_false_iff.mpr fun selectable => ?_
    have inside := lt_height_of_isSelectable selectable
    exact nothing target ((mem_searched (Nat.zero_lt_of_lt inside)).mpr inside) selectable
  · intro nothing target _
    rw [nothing target]
    exact Bool.false_ne_true

/-- From a selectable row, a search finds the first of those after it, or of those before when
there is none, or else the row itself. -/
theorem nextChoice?_of_ordered {before after : List Nat}
    (rows : direction.ordered (list.choiceRows page) = before ++ row :: after) :
    list.nextChoice? page row direction = (after ++ before ++ [row]).head? := by
  have mem : row ∈ list.choiceRows page :=
    direction.mem_ordered.mp (rows ▸ List.mem_append_right _ List.mem_cons_self)
  have selectable := mem_choiceRows.mp mem
  have inside := lt_height_of_isSelectable selectable
  obtain ⟨front, back, all, looks⟩ := searched_eq inside direction
  have once := direction.nodup_ordered (List.nodup_range (n := (list.page page).length))
  have split : before ++ row :: after = front.filter (list.isSelectable page) ++
      row :: back.filter (list.isSelectable page) := by
    rw [← rows, choiceRows, ← Direction.filter_ordered, all, List.filter_append,
      List.filter_cons_of_pos selectable]
  rw [all] at once
  have outside : row ∉ front.filter (list.isSelectable page) ∧
      row ∉ back.filter (list.isSelectable page) := by
    have apart := List.perm_middle.nodup_iff.mp once
    rw [List.nodup_cons, List.mem_append, not_or] at apart
    exact ⟨fun mem => apart.1.1 (List.mem_of_mem_filter mem),
      fun mem => apart.1.2 (List.mem_of_mem_filter mem)⟩
  obtain ⟨rfl, -, rfl⟩ := (List.append_cons_inj_of_notMem outside.1 outside.2).mp split.symm
  rw [nextChoice?_eq_head?, looks, List.filter_append, List.filter_append,
    List.filter_cons_of_pos selectable, List.filter_nil]

/-- After one move the row that the cursor left is the last to come to, and the other direction
leads back to it. -/
theorem exists_ordered_next {before after : List Nat}
    (rows : direction.ordered (list.choiceRows page) = before ++ row :: after) :
    ∃ next before' after', list.nextChoice? page row direction = some next ∧
      direction.ordered (list.choiceRows page) = before' ++ next :: after' ∧
      after ++ before ++ [row] = next :: (after' ++ before') ∧
      list.nextChoice? page next direction.opposite = some row := by
  have found := nextChoice?_of_ordered rows
  have back : ∀ next before' after',
      direction.ordered (list.choiceRows page) = before' ++ next :: after' →
      list.nextChoice? page next direction.opposite =
        (before'.reverse ++ after'.reverse ++ [next]).head? := by
    intro next before' after' rows
    have turned : direction.opposite.ordered (list.choiceRows page) =
        after'.reverse ++ next :: before'.reverse := by
      rw [Direction.ordered_opposite, rows, List.reverse_append, List.reverse_cons,
        List.append_assoc]
      rfl
    exact nextChoice?_of_ordered turned
  cases after with
  | cons next after =>
    have moved : direction.ordered (list.choiceRows page) = (before ++ [row]) ++ next :: after := by
      rw [rows, List.append_assoc]
      rfl
    refine ⟨next, before ++ [row], after, found, moved, by simp, ?_⟩
    rw [back _ _ _ moved]
    simp
  | nil =>
    cases before with
    | cons next before =>
      have moved : direction.ordered (list.choiceRows page) =
          [] ++ next :: (before ++ [row]) := rows
      refine ⟨next, [], before ++ [row], found, moved, by simp, ?_⟩
      rw [back _ _ _ moved]
      simp
    | nil =>
      have same : direction.ordered (list.choiceRows page) = [] ++ row :: [] := rows
      exact ⟨row, [], [], found, same, rfl, back _ _ _ same⟩

/-- The rows after the one that the cursor starts from come first, then those before, and then the
row itself. -/
theorem visits_eq_take {before after : List Nat}
    (rows : direction.ordered (list.choiceRows page) = before ++ row :: after) {moves : Nat}
    (atMost : moves ≤ (before ++ row :: after).length) :
    list.visits page direction moves row = (after ++ before ++ [row]).take moves := by
  induction moves generalizing row before after with
  | zero => rfl
  | succ moves ih =>
    obtain ⟨next, before', after', found, rows', ahead, -⟩ := exists_ordered_next rows
    have moved : before ++ row :: after = before' ++ next :: after' := rows.symm.trans rows'
    have length : moves ≤ (after' ++ before').length := by
      have whole := congrArg List.length moved
      simp only [List.length_append, List.length_cons] at *
      omega
    rw [visits, found, ahead, List.take_succ_cons]
    dsimp only
    rw [ih rows' (by rw [← moved]; omega), List.take_append_of_le_length length]

/-! ### The cycle -/

/-- The selectable rows of a page, from the top, are visited one after the other by moving down from
one of them, those above it after those below, and in the reverse order by moving up; a move one way
and then the other returns. From any row number, selectable or not or past the end, a move leads to
a selectable row of the page, and to none exactly when the page has none or is past the last. -/
theorem moves_cyclically (list : Paged α) (page : Nat) :
    (list.choiceRows page).Pairwise (· < ·) ∧
    (∀ row, row ∈ list.choiceRows page ↔ list.isSelectable page row = true) ∧
    (∀ row, list.isSelectable page row = true →
      (∀ direction, (list.nextChoice? page row direction).bind
        (list.nextChoice? page · direction.opposite) = some row) ∧
      ∃ above below, list.choiceRows page = above ++ row :: below ∧
        list.visits page .down (list.choiceRows page).length row = below ++ above ++ [row] ∧
        list.visits page .up (list.choiceRows page).length row =
          (below ++ above).reverse ++ [row]) ∧
    ∀ row direction,
      (∀ next, list.nextChoice? page row direction = some next →
        next < (list.page page).length ∧ list.isSelectable page next = true) ∧
      (list.nextChoice? page row direction = none ↔
        list.count ≤ page ∨ ∀ target, list.isSelectable page target = false) := by
  refine ⟨pairwise_choiceRows list page, fun row => mem_choiceRows, fun row selectable => ?_,
    fun row direction => ⟨fun next found => ?_, ?_⟩⟩
  · obtain ⟨above, below, rows⟩ := List.append_of_mem (mem_choiceRows.mpr selectable)
    have downwards : Direction.down.ordered (list.choiceRows page) = above ++ row :: below := rows
    have upwards : Direction.up.ordered (list.choiceRows page) =
        below.reverse ++ row :: above.reverse := by
      rw [Direction.ordered, rows, List.reverse_append, List.reverse_cons, List.append_assoc]
      rfl
    have all : ∀ before after : List Nat, (before ++ row :: after).length =
        (after ++ before ++ [row]).length := by
      intro before after
      simp only [List.length_append, List.length_cons, List.length_nil]
      omega
    refine ⟨fun direction => ?_, above, below, rows, ?_, ?_⟩
    · have mem := direction.mem_ordered.mpr (mem_choiceRows.mpr selectable)
      obtain ⟨before, after, ordered⟩ := List.append_of_mem mem
      obtain ⟨next, -, -, found, -, -, back⟩ := exists_ordered_next ordered
      rw [found]
      exact back
    · rw [rows, visits_eq_take downwards (Nat.le_refl _), all, List.take_length]
    · have length : (list.choiceRows page).length =
          (below.reverse ++ row :: above.reverse).length := by
        rw [← upwards, Direction.ordered, List.length_reverse]
      rw [length, visits_eq_take upwards (Nat.le_refl _), all, List.take_length,
        List.reverse_append]
  · have selectable := isSelectable_of_nextChoice? found
    exact ⟨lt_height_of_isSelectable selectable, selectable⟩
  · rw [nextChoice?_eq_none_iff]
    refine ⟨.inr, fun none => none.elim (fun past target => ?_) id⟩
    rw [isSelectable, entry?, Paged.page, List.getElem?_eq_none past]
    rfl

/-- Between spacers and captions the cursor moves from the fourth row down to the sixth, round to
the second and back to the fourth. From past the end it comes to a row of the page too, and on a
page past the last to none. -/
theorem moves_cyclically_past_spacers :
    let list : Paged Nat := ⟨[[.spacer, .ofAction "a" 1, .caption "b", .ofAction "c" 2, .spacer,
      .ofAction "d" 3, .spacer]]⟩
    list.isSelectable 0 3 = true ∧ list.visits 0 .down 3 3 = [5, 1, 3] ∧
      list.visits 0 .up 3 3 = [1, 5, 3] ∧
      (list.nextChoice? 0 3 .down).bind (list.nextChoice? 0 · .up) = some 3 ∧
      (∃ next, list.nextChoice? 0 8 .up = some next ∧ list.isSelectable 0 next = true) ∧
      list.nextChoice? 1 0 .up = none := by
  intro list
  have rows : list.choiceRows 0 = [1] ++ 3 :: [5] := by decide
  obtain ⟨-, -, cycle, moves⟩ := moves_cyclically list 0
  obtain ⟨back, above, below, split, down, up⟩ := cycle 3 (by decide)
  have outside : 3 ∉ [1] ∧ 3 ∉ [5] := by decide
  obtain ⟨rfl, -, rfl⟩ :=
    (List.append_cons_inj_of_notMem outside.1 outside.2).mp (rows.symm.trans split)
  rw [rows] at down up
  have some : list.nextChoice? 0 8 .up ≠ none := fun none =>
    ((moves 8 .up).2.mp none).elim (by decide) fun nothing => absurd (nothing 3) (by decide)
  obtain ⟨next, found⟩ := Option.ne_none_iff_exists'.mp some
  exact ⟨by decide, down, up, back .down, ⟨next, found, ((moves 8 .up).1 next found).2⟩,
    ((moves_cyclically list 1).2.2.2 0 .up).2.mpr (.inl (by decide))⟩

end Paged

end CameraSetup.Menu
