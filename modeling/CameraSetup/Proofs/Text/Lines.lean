import CameraSetup.Text.Cut
import Mathlib.Data.List.Forall2

/-! Reading lines back: a text made of lines that each end in a line feed has those lines, and so
has one whose last line does not end in one, unless that line is empty. A carriage return at the end
of a line that is written is read as part of the line end. -/

namespace CameraSetup.Text

/-- A text that can stand between two line ends. -/
def IsLine (l : List Char) : Prop := '\n' ∉ l ∧ l.getLast? ≠ some '\r'

theorem IsLine.tail {c : Char} {l : List Char} (h : IsLine (c :: l)) : IsLine l := by
  refine ⟨fun m => h.1 (List.mem_cons_of_mem c m), fun last => h.2 ?_⟩
  rw [List.getLast?_cons, last]
  rfl

theorem lines_cons_of_ne {c : Char} {cs l : List Char} {ls : List (List Char)} (feed : c ≠ '\n')
    (ending : c = '\r' → cs.head? ≠ some '\n') (h : lines cs = l :: ls) :
    lines (c :: cs) = (c :: l) :: ls := by
  rw [lines.eq_def]
  split
  · next h => cases h
  · next h =>
    cases h
    exact absurd rfl feed
  · next h =>
    cases h
    exact absurd rfl (ending rfl)
  · next same =>
    cases same
    rw [h]

/-- A line is read up to its line end. -/
theorem lines_append {l : List Char} (h : IsLine l) (rest : List Char) :
    lines (l ++ '\n' :: rest) = l :: lines rest := by
  induction l with
  | nil => rw [List.nil_append, lines]
  | cons c l ih =>
    refine lines_cons_of_ne (fun feed => h.1 (by simp [feed])) ?_ (ih h.tail)
    rintro rfl
    cases l with
    | nil => exact absurd rfl h.2
    | cons d l =>
      have : d ≠ '\n' := fun feed => h.1 (by simp [feed])
      simpa using this

theorem lines_unterminated {l : List Char} (h : '\n' ∉ l) (nonempty : l ≠ []) : lines l = [l] := by
  induction l with
  | nil => exact absurd rfl nonempty
  | cons c l ih =>
    have hc : c ≠ '\n' := fun feed => h (by simp [feed])
    have hl : '\n' ∉ l := fun m => h (List.mem_cons_of_mem c m)
    cases l with
    | nil =>
      rw [lines.eq_def]
      split <;> simp_all [lines]
    | cons d l =>
      refine lines_cons_of_ne hc ?_ (ih hl (by simp))
      have : d ≠ '\n' := fun feed => hl (by simp [feed])
      simpa using fun _ => this

/-! ### Carriage returns -/

/-- What a line is read as when a line feed follows it: without a carriage return at its end. -/
def IsReadAs (l l' : List Char) : Prop := l' = l ∨ l = l' ++ ['\r']

theorem lines_append_return {l : List Char} (h : '\n' ∉ l) (rest : List Char) :
    lines (l ++ '\r' :: '\n' :: rest) = l :: lines rest := by
  induction l with
  | nil => rw [List.nil_append, lines]
  | cons c l ih =>
    refine lines_cons_of_ne (fun feed => h (by simp [feed])) (fun _ => ?_)
      (ih fun m => h (List.mem_cons_of_mem c m))
    cases l with
    | nil => simp
    | cons d l =>
      have : d ≠ '\n' := fun feed => h (by simp [feed])
      simpa using this

/-- The line without a carriage return at its end. -/
def withoutReturn (l : List Char) : List Char :=
  if l.getLast? = some '\r' then l.dropLast else l

theorem isReadAs_withoutReturn (l : List Char) : IsReadAs l (withoutReturn l) := by
  unfold withoutReturn
  split
  · next last =>
    obtain ⟨front, rfl⟩ := List.getLast?_eq_some_iff.mp last
    rw [List.dropLast_concat]
    exact .inr rfl
  · exact .inl rfl

theorem withoutReturn_eq_self_iff {l : List Char} :
    withoutReturn l = l ↔ l.getLast? ≠ some '\r' := by
  unfold withoutReturn
  split
  · next last =>
    obtain ⟨front, rfl⟩ := List.getLast?_eq_some_iff.mp last
    simp
  · next last => exact ⟨fun _ => last, fun _ => rfl⟩

theorem lines_append_feed {l : List Char} (h : '\n' ∉ l) (rest : List Char) :
    lines (l ++ '\n' :: rest) = withoutReturn l :: lines rest := by
  unfold withoutReturn
  split
  · next last =>
    obtain ⟨front, rfl⟩ := List.getLast?_eq_some_iff.mp last
    rw [List.append_assoc, List.dropLast_concat]
    exact lines_append_return (fun mem => h (List.mem_append_left _ mem)) rest
  · next last => exact lines_append ⟨h, last⟩ rest

/-- The text in which a line feed ends each of the lines. -/
def terminated (ls : List (List Char)) : List Char := ls.flatMap (· ++ ['\n'])

theorem lines_terminated {ls : List (List Char)} (h : ∀ l ∈ ls, '\n' ∉ l) (rest : List Char) :
    lines (terminated ls ++ rest) = ls.map withoutReturn ++ lines rest := by
  induction ls with
  | nil => rfl
  | cons l ls ih =>
    have first := lines_append_feed (h l List.mem_cons_self) (terminated ls ++ rest)
    rw [ih fun m mem => h m (List.mem_cons_of_mem l mem)] at first
    rw [terminated, List.flatMap_cons, List.append_assoc, List.append_assoc, List.singleton_append]
    exact first

/-! ### What is read -/

theorem lines_ne_nil {s : List Char} (h : s ≠ []) : lines s ≠ [] := by
  fun_cases lines s <;> simp_all

theorem feed_not_mem_of_mem_lines {s l : List Char} (h : l ∈ lines s) : '\n' ∉ l := by
  fun_induction lines s generalizing l with
  | case1 => simp at h
  | case2 cs ih | case3 cs ih =>
    rcases List.mem_cons.mp h with rfl | h
    · simp
    · exact ih h
  | case4 c cs feed ending none ih =>
    have : '\n' ≠ c := fun same => feed same.symm
    simp_all
  | case5 c cs feed ending first others found ih =>
    have : c ≠ '\n' := feed
    rcases List.mem_cons.mp h with rfl | h
    · have := ih (found ▸ List.mem_cons_self)
      simp [*, eq_comm]
    · exact ih (found ▸ List.mem_cons_of_mem first h)

/-- The last line is not empty, unless a line feed ends it. -/
theorem getLast?_lines {s : List Char} (h : s.getLast? ≠ some '\n') :
    (lines s).getLast? ≠ some [] := by
  fun_induction lines s with
  | case1 => simp
  | case2 cs ih | case3 cs ih =>
    have nonempty : cs ≠ [] := by
      rintro rfl
      simp at h
    rw [List.getLast?_cons_of_ne_nil (lines_ne_nil nonempty)]
    refine ih ?_
    simpa [List.getLast?_cons_of_ne_nil nonempty] using h
  | case4 c cs feed ending none ih => simp
  | case5 c cs feed ending first others found ih =>
    cases others with
    | nil => simp
    | cons l ls =>
      rw [found] at ih
      rw [List.getLast?_cons_cons] at ih ⊢
      refine ih ?_
      have nonempty : cs ≠ [] := by
        rintro rfl
        cases found
      simpa [List.getLast?_cons_of_ne_nil nonempty] using h

end CameraSetup.Text
