/-! Cutting text at a separator: at its first occurrence, at its last, at every one, or into
lines. -/

namespace CameraSetup.Text

/-- The parts before and after the first `sep`. -/
def cut? (sep : Char) : List Char → Option (List Char × List Char)
  | [] => none
  | c :: cs => if c = sep then some ([], cs) else (cut? sep cs).map fun (a, b) => (c :: a, b)

/-- The parts before and after the last `sep`. -/
def cutLast? (sep : Char) (s : List Char) : Option (List Char × List Char) :=
  (cut? sep s.reverse).map fun (a, b) => (b.reverse, a.reverse)

/-- The parts between the occurrences of `sep`; there is one more of them than of `sep`. -/
def fields (sep : Char) : List Char → List (List Char)
  | [] => [[]]
  | c :: cs =>
    if c = sep then [] :: fields sep cs
    else match fields sep cs with
      | [] => [[c]]
      | f :: fs => (c :: f) :: fs

/-- The text before `suffix`, when it ends so. -/
def dropSuffix? (suffix s : List Char) : Option (List Char) :=
  if suffix.isSuffixOf s then some (s.take (s.length - suffix.length)) else none

/-- The lines of a text. A line feed ends a line, a carriage return directly before it belongs to
the line end, and what follows the last line feed is a line unless it is empty. -/
def lines : List Char → List (List Char)
  | [] => []
  | '\n' :: cs => [] :: lines cs
  | '\r' :: '\n' :: cs => [] :: lines cs
  | c :: cs =>
    match lines cs with
    | [] => [[c]]
    | l :: ls => (c :: l) :: ls

/-- The text `part` occurs somewhere in `s`. -/
def occursIn (part : List Char) : List Char → Bool
  | [] => part.isEmpty
  | c :: cs => part.isPrefixOf (c :: cs) || occursIn part cs

/-- Text made of `parts` with `sep` between each two. -/
def joinWith (sep : List Char) : List (List Char) → List Char
  | [] => []
  | [p] => p
  | p :: q :: ps => p ++ sep ++ joinWith sep (q :: ps)

theorem cut?_eq_some_iff {sep : Char} {s a b : List Char} :
    cut? sep s = some (a, b) ↔ s = a ++ sep :: b ∧ sep ∉ a := by
  induction s generalizing a with
  | nil => simp [cut?]
  | cons c cs ih =>
    by_cases hc : c = sep
    · subst hc
      cases a with
      | nil => simp [cut?, eq_comm]
      | cons x xs => simp [cut?]; grind
    · cases a with
      | nil => simp [cut?, hc]
      | cons x xs => simp [cut?, hc, ih]; grind

theorem fields_ne_nil (sep : Char) (s : List Char) : fields sep s ≠ [] := by
  cases s with
  | nil => simp [fields]
  | cons c cs => simp only [fields]; split <;> (try split) <;> simp

theorem joinWith_fields (sep : Char) (s : List Char) : joinWith [sep] (fields sep s) = s := by
  induction s with
  | nil => rfl
  | cons c cs ih =>
    simp only [fields]
    split
    · next hc =>
      match h : fields sep cs with
      | [] => exact absurd h (fields_ne_nil sep cs)
      | f :: fs => rw [h] at ih; simp [joinWith, ih, hc]
    · match h : fields sep cs with
      | [] => exact absurd h (fields_ne_nil sep cs)
      | [f] => rw [h] at ih; simpa [joinWith] using ih
      | f :: g :: fs => rw [h] at ih; simpa [joinWith] using ih

end CameraSetup.Text
