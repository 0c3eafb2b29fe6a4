import CameraSetup.Proofs.Menu.Layout
import Mathlib.Logic.Relation

/-! Moving through a page. The cursor goes from one selectable row to the next, round the end of the
page, so it comes to every selectable row. -/

namespace CameraSetup.Menu.Paged

variable {α : Type} {list : Paged α} {page row target : Nat}

theorem lt_height_of_isSelectable (h : list.isSelectable page row = true) :
    row < (list.page page).length := by
  refine Nat.lt_of_not_le fun outside => ?_
  rw [isSelectable, entry?, List.getElem?_eq_none outside] at h
  cases h

theorem exists_firstChoice? (h : list.isSelectable page row = true) :
    ∃ first, list.firstChoice? page = some first ∧ list.isSelectable page first = true := by
  have inside := lt_height_of_isSelectable h
  rw [isSelectable, entry?, List.getElem?_eq_getElem inside, Option.any_some] at h
  have found : (list.firstChoice? page).isSome = true := by
    rw [firstChoice?, List.findIdx?_isSome]
    exact List.any_eq_true.mpr ⟨_, List.getElem_mem inside, h⟩
  obtain ⟨first, hfirst⟩ := Option.isSome_iff_exists.mp found
  obtain ⟨within, selectable, -⟩ := List.findIdx?_eq_some_iff_getElem.mp hfirst
  refine ⟨first, hfirst, ?_⟩
  rw [isSelectable, entry?, List.getElem?_eq_getElem within, Option.any_some]
  exact selectable

theorem firstChoice?_eq_zero (h : list.isSelectable page 0 = true) :
    list.firstChoice? page = some 0 := by
  obtain ⟨e, es, rows⟩ := List.exists_cons_of_length_pos (lt_height_of_isSelectable h)
  rw [isSelectable, entry?, rows] at h
  rw [firstChoice?, rows, List.findIdx?_cons]
  exact if_pos h

/-! ### Downwards -/

/-- How many rows down a row lies, round the end of the page. -/
def rowsAhead (height row target : Nat) : Nat :=
  if row ≤ target then target - row else target + height - row

theorem stepFrom_down {height offset : Nat} (hrow : row < height) (hoffset : offset ≤ height) :
    stepFrom .down height row offset =
      if row + offset < height then row + offset else row + offset - height := by
  rw [stepFrom]
  split
  · next h => exact Nat.mod_eq_of_lt h
  · next h =>
    rw [Nat.mod_eq_sub_mod (Nat.le_of_not_lt h)]
    exact Nat.mod_eq_of_lt (by omega)

/-- The next choice downwards does not go past a selectable row. -/
theorem nextChoice?_down (hrow : row < (list.page page).length)
    (htarget : list.isSelectable page target = true) (other : row ≠ target) :
    ∃ next, list.nextChoice? page row .down = some next ∧ next < (list.page page).length ∧
      rowsAhead (list.page page).length next target <
        rowsAhead (list.page page).length row target := by
  have inside := lt_height_of_isSelectable htarget
  generalize hheight : (list.page page).length = height at *
  have ahead : 0 < rowsAhead height row target ∧ rowsAhead height row target ≤ height := by
    unfold rowsAhead
    split <;> omega
  have reached : stepFrom .down height row (rowsAhead height row target) = target := by
    rw [stepFrom_down hrow ahead.2]
    unfold rowsAhead
    split <;> split <;> omega
  simp only [nextChoice?, hheight, List.find?_map]
  cases found : (List.range height).find?
      (list.isSelectable page ∘ fun k => stepFrom .down height row (k + 1)) with
  | none =>
    have here := List.find?_eq_none.mp found (rowsAhead height row target - 1)
      (List.mem_range.mpr (by omega))
    rw [Function.comp_apply, Nat.sub_add_cancel ahead.1, reached] at here
    exact absurd htarget here
  | some k =>
    obtain ⟨-, hk, before⟩ := List.find?_range_eq_some.mp found
    have hk := List.mem_range.mp hk
    have near : k + 1 ≤ rowsAhead height row target := by
      refine Nat.le_of_not_lt fun far => ?_
      have here := before (rowsAhead height row target - 1) (by omega)
      rw [Function.comp_apply, Nat.sub_add_cancel ahead.1, reached, htarget] at here
      cases here
    refine ⟨stepFrom .down height row (k + 1), rfl, ?_⟩
    rw [stepFrom_down hrow (by omega)]
    unfold rowsAhead at near ⊢
    split at near <;> split <;> split <;> omega

/-- Downwards the cursor comes to every selectable row. -/
theorem reaches_down (hrow : row < (list.page page).length)
    (htarget : list.isSelectable page target = true) :
    Relation.ReflTransGen (fun a b => list.nextChoice? page a .down = some b) row target := by
  induction hd : rowsAhead (list.page page).length row target using Nat.strongRecOn
    generalizing row with
  | ind distance ih =>
    by_cases here : row = target
    · rw [here]
    · obtain ⟨next, found, inside, nearer⟩ := nextChoice?_down hrow htarget here
      exact .head found (ih _ (hd ▸ nearer) inside rfl)

theorem isSelectable_of_nextChoice? {direction : Direction} {next : Nat}
    (h : list.nextChoice? page row direction = some next) :
    list.isSelectable page next = true :=
  List.find?_some h

end CameraSetup.Menu.Paged
