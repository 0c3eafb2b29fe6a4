import CameraSetup.Proofs.Text.Fields
import CameraSetup.Text.Blank
import Mathlib.Data.List.Basic

/-! White space around a text: what trimming takes away, and what it leaves. -/

namespace CameraSetup.Text

variable {s t front back : List Char}

/-- A text that begins and ends with something else than white space. -/
structure IsTrimmed (t : List Char) : Prop where
  ne_nil : t ≠ []
  first : ∀ c, t.head? = some c → isBlank c = false
  last : ∀ c, t.getLast? = some c → isBlank c = false

theorem exists_append_trim (s : List Char) : ∃ front back, s = front ++ (trim s ++ back) ∧
    (∀ c ∈ front, isBlank c = true) ∧ ∀ c ∈ back, isBlank c = true := by
  refine ⟨indentation s, (indentation (trimStart s).reverse).reverse, ?_,
    fun c => isBlank_of_mem_indentation, fun c mem => ?_⟩
  · rw [trim, ← List.reverse_append, indentation_append_trimStart, List.reverse_reverse,
      indentation_append_trimStart]
  · exact isBlank_of_mem_indentation (List.mem_reverse.mp mem)

theorem trim_append (h : IsTrimmed t) (hfront : ∀ c ∈ front, isBlank c = true)
    (hback : ∀ c ∈ back, isBlank c = true) : trim (front ++ (t ++ back)) = t := by
  have start : trimStart (front ++ (t ++ back)) = t ++ back := by
    refine (takeWhile_append_word hfront fun c first => h.first c ?_).2
    rwa [List.head?_append_of_ne_nil _ h.ne_nil] at first
  have ending : trimStart (back.reverse ++ t.reverse) = t.reverse := by
    refine (takeWhile_append_word (fun c mem => hback c (List.mem_reverse.mp mem))
      fun c last => h.last c ?_).2
    rwa [List.head?_reverse] at last
  rw [trim, start, List.reverse_append, ending, List.reverse_reverse]

theorem not_mem_of_blank {c : Char} (solid : isBlank c = false)
    (blank : ∀ b ∈ s, isBlank b = true) : c ∉ s := by
  intro mem
  rw [blank c mem] at solid
  cases solid

/-- The last character of a text is that of the trimmed text unless it is white space. -/
theorem getLast?_trim {c : Char} (ends : s.getLast? = some c) (solid : isBlank c = false) :
    (trim s).getLast? = some c := by
  obtain ⟨front, back, whole, hfront, hback⟩ := exists_append_trim s
  rw [whole, List.getLast?_append, List.getLast?_append, Option.or_eq_some_iff,
    Option.or_eq_some_iff] at ends
  rcases ends with (last | ⟨-, last⟩) | ⟨-, last⟩
  · exact absurd (List.mem_of_getLast? last) (not_mem_of_blank solid hback)
  · exact last
  · exact absurd (List.mem_of_getLast? last) (not_mem_of_blank solid hfront)

theorem count_trim {c : Char} (solid : isBlank c = false) (s : List Char) :
    (trim s).count c = s.count c := by
  obtain ⟨front, back, whole, hfront, hback⟩ := exists_append_trim s
  have counts := congrArg (List.count c) whole
  rw [List.count_append, List.count_append, List.count_eq_zero.mpr (not_mem_of_blank solid hfront),
    List.count_eq_zero.mpr (not_mem_of_blank solid hback)] at counts
  omega

/-- Whether a text has no white space at its end. -/
def endsSolid (s : List Char) : Bool := s.getLast?.all fun c => !isBlank c

theorem eq_nil_of_endsSolid (solid : endsSolid (s ++ back) = true)
    (hback : ∀ c ∈ back, isBlank c = true) : back = [] := by
  by_contra some
  rw [endsSolid, List.getLast?_append, List.getLast?_eq_some_getLast some, Option.some_or,
    Option.all_some, hback _ (List.getLast_mem some)] at solid
  cases solid

/-- Words that something of another kind follows are the same in the same text. -/
theorem eq_of_append_word {kind : Char → Bool} {word word' rest rest' : List Char}
    (inside : ∀ c ∈ word, kind c = true) (inside' : ∀ c ∈ word', kind c = true)
    (stop : ∀ c, rest.head? = some c → kind c = false)
    (stop' : ∀ c, rest'.head? = some c → kind c = false) (same : word ++ rest = word' ++ rest') :
    word = word' ∧ rest = rest' := by
  obtain ⟨front, behind⟩ := takeWhile_append_word inside stop
  obtain ⟨front', behind'⟩ := takeWhile_append_word inside' stop'
  rw [same] at front behind
  exact ⟨front.symm.trans front', behind.symm.trans behind'⟩

end CameraSetup.Text
