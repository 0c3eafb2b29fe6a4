import CameraSetup.BootConfig
import CameraSetup.Proofs.Text.Fields
import CameraSetup.Proofs.Text.Lines

/-! The lines that an edit writes: their keywords, their indentation, and that they are lines when
the paths in them hold no line end. -/

namespace CameraSetup

namespace Text

theorem indentation_append {i s : List Char} {c : Char} (blank : ∀ b ∈ i, isBlank b = true)
    (hc : isBlank c = false) : indentation (i ++ c :: s) = i := by
  rw [indentation, List.takeWhile_append_of_pos blank, List.takeWhile_cons_of_neg (by simp [hc]),
    List.append_nil]

theorem trimStart_append {i s : List Char} {c : Char} (blank : ∀ b ∈ i, isBlank b = true)
    (hc : isBlank c = false) : trimStart (i ++ c :: s) = c :: s := by
  rw [trimStart, List.dropWhile_append_of_pos blank, List.dropWhile_cons_of_neg (by simp [hc])]

/-- The first word of an indented text that starts with a word and a blank, or ends there. -/
theorem firstWord_append {i w s : List Char} (blank : ∀ b ∈ i, isBlank b = true)
    (nonempty : w ≠ []) (word : ∀ c ∈ w, isBlank c = false)
    (rest : ∀ c, s.head? = some c → isBlank c = true) : firstWord (i ++ w ++ s) = w := by
  obtain ⟨c, w', rfl⟩ := List.exists_cons_of_ne_nil nonempty
  have hc : isBlank c = false := word c List.mem_cons_self
  rw [firstWord, List.append_assoc, List.cons_append, trimStart_append blank hc,
    ← List.cons_append, List.takeWhile_append_of_pos (by simpa using word)]
  cases s with
  | nil => simp
  | cons d s => simp [rest d rfl]

/-- A blank at its end plays no part in a text's first word. -/
theorem firstWord_concat {b : Char} (blank : isBlank b = true) (s : List Char) :
    firstWord (s ++ [b]) = firstWord s := by
  have alone : [b].dropWhile isBlank = [] := by simp [blank]
  rw [firstWord, firstWord, trimStart, trimStart, List.dropWhile_append, alone]
  split
  · next none => rw [List.isEmpty_iff.mp none]
  · rw [List.takeWhile_append]
    split
    · next whole =>
      rw [List.takeWhile_cons_of_neg (by simp [blank]), List.append_nil]
      exact ((List.takeWhile_prefix _).eq_of_length whole).symm
    · rfl

end Text

/-- A text without line ends. -/
def IsInline (s : String) : Prop := '\n' ∉ s.toList ∧ '\r' ∉ s.toList

instance (s : String) : Decidable (IsInline s) := inferInstanceAs (Decidable (_ ∧ _))

theorem IsInline.isLine {s : String} (h : IsInline s) : Text.IsLine s.toList :=
  ⟨h.1, fun last => h.2 (List.mem_of_getLast? last)⟩

theorem IsInline.append {s s' : String} (h : IsInline s) (h' : IsInline s') :
    IsInline (s ++ s') := by
  simp only [IsInline, String.toList_append, List.mem_append, not_or]
  exact ⟨⟨h.1, h'.1⟩, ⟨h.2, h'.2⟩⟩

theorem isInline_intercalate {sep : String} {parts : List String} (hsep : IsInline sep)
    (h : ∀ part ∈ parts, IsInline part) : IsInline (String.intercalate sep parts) := by
  constructor
  · intro mem
    rcases Text.mem_of_mem_intercalate mem with mem | ⟨part, hpart, mem⟩
    · exact hsep.1 mem
    · exact (h part hpart).1 mem
  · intro mem
    rcases Text.mem_of_mem_intercalate mem with mem | ⟨part, hpart, mem⟩
    · exact hsep.2 mem
    · exact (h part hpart).2 mem

namespace BootConfig

/-! ### The line of the base device tree -/

theorem hasKeyword_iff {keyword line : String} (nonempty : keyword.toList ≠ [])
    (uncommented : keyword.toList.head? ≠ some '#') :
    hasKeyword keyword line = true ↔ Text.firstWord line.toList = keyword.toList := by
  unfold hasKeyword
  split
  · next none =>
    rw [none]
    exact ⟨fun h => absurd h Bool.false_ne_true, fun h => absurd h.symm nonempty⟩
  · next c word found =>
    rw [found, Bool.and_eq_true, beq_iff_eq]
    refine ⟨fun h => h.2, fun h => ⟨?_, h⟩⟩
    rw [← h] at uncommented
    simpa using uncommented

theorem deviceTreeLine_eq (path : String) :
    deviceTreeLine path = addedIndent ++ baseKeyword ++ " " ++ path := rfl

theorem hasKeyword_deviceTreeLine (path : String) :
    hasKeyword baseKeyword (deviceTreeLine path) = true := by
  rw [hasKeyword_iff (by decide) (by decide)]
  have : (deviceTreeLine path).toList =
      addedIndent.toList ++ baseKeyword.toList ++ (' ' :: path.toList) := by
    simp [deviceTreeLine_eq]
  rw [this]
  exact Text.firstWord_append (by simp [addedIndent]; decide) (by decide)
    (by simp [baseKeyword]; decide) (by simp; decide)

theorem isInline_deviceTreeLine {path : String} (h : IsInline path) :
    IsInline (deviceTreeLine path) := by
  have start : IsInline (addedIndent ++ baseKeyword ++ " ") := by decide +kernel
  exact start.append h

theorem deviceTreeLine_ne_empty (path : String) : deviceTreeLine path ≠ "" := by
  intro empty
  have := congrArg String.toList empty
  simp [deviceTreeLine_eq, baseKeyword] at this

/-! ### The lines of overlays -/

theorem hasKeyword_added : hasKeyword overlaysKeyword (addedIndent ++ overlaysKeyword) = true := by
  decide +kernel

theorem toList_overlaysLine (paths : List String) (line : String) :
    (overlaysLine paths line).toList = Text.indentation line.toList ++ overlaysKeyword.toList ++
      (' ' :: (String.intercalate "," paths).toList) := by
  simp [overlaysLine]

theorem hasKeyword_overlaysLine (paths : List String) (line : String) :
    hasKeyword overlaysKeyword (overlaysLine paths line) = true := by
  rw [hasKeyword_iff (by decide) (by decide), toList_overlaysLine]
  exact Text.firstWord_append (fun _ => Text.isBlank_of_mem_indentation) (by decide)
    (by simp [overlaysKeyword]; decide) (by simp; decide)

theorem overlaysLine_overlaysLine (paths paths' : List String) (line : String) :
    overlaysLine paths (overlaysLine paths' line) = overlaysLine paths line := by
  have : Text.indentation (overlaysLine paths' line).toList = Text.indentation line.toList := by
    rw [toList_overlaysLine, List.append_assoc]
    exact Text.indentation_append (fun _ => Text.isBlank_of_mem_indentation) (by decide)
  rw [overlaysLine, this, overlaysLine]

theorem overlaysLine_ne_empty (paths : List String) (line : String) :
    overlaysLine paths line ≠ "" := by
  intro empty
  have := congrArg String.toList empty
  rw [toList_overlaysLine] at this
  simp at this

theorem isLine_overlaysLine {paths : List String} {line : String}
    (h : ∀ path ∈ paths, IsInline path) (hline : '\n' ∉ line.toList) :
    Text.IsLine (overlaysLine paths line).toList := by
  have written : IsInline (overlaysKeyword ++ " " ++ String.intercalate "," paths) :=
    IsInline.append (by decide +kernel) (isInline_intercalate (by decide +kernel) h)
  have whole : (overlaysLine paths line).toList = Text.indentation line.toList ++
      (overlaysKeyword ++ " " ++ String.intercalate "," paths).toList := by
    rw [toList_overlaysLine]
    simp
  rw [whole]
  constructor
  · intro feed
    rcases List.mem_append.mp feed with feed | feed
    · exact hline ((List.takeWhile_sublist _).mem feed)
    · exact written.1 feed
  · -- The indentation may hold a carriage return, but it is not the end of the line.
    intro last
    rw [List.getLast?_append, Option.or_eq_some_iff] at last
    rcases last with last | ⟨empty, -⟩
    · exact written.isLine.2 last
    · simp [overlaysKeyword] at empty

theorem hasKeyword_unique {keyword other line : String} (h : hasKeyword keyword line = true)
    (h' : hasKeyword other line = true) : keyword = other := by
  unfold hasKeyword at h h'
  split at h
  · cases h
  · next c word found =>
    rw [found] at h'
    simp only [Bool.and_eq_true, beq_iff_eq] at h h'
    exact String.toList_injective (h.2.symm.trans h'.2)

theorem hasKeyword_base_of_overlays {line : String} (h : hasKeyword overlaysKeyword line = true) :
    hasKeyword baseKeyword line = false := by
  refine Bool.eq_false_iff.mpr fun base => ?_
  exact absurd (hasKeyword_unique base h) (by decide)

end BootConfig

end CameraSetup
