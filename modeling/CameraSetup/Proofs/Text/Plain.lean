import CameraSetup.Proofs.Overlay.Distinct
import CameraSetup.Text.Cluster
import CameraSetup.Text.Columns

/-! Plain texts, those of the characters from the space to the tilde. Among others of its kind, such
a character is a cluster of its own, and it takes one column of a terminal. -/

namespace CameraSetup.Text

/-- Whether a character is between the space and the tilde. -/
def isPlain (c : Char) : Bool := ' ' ≤ c && c ≤ '~'

/-- A text of such characters only. -/
def IsPlain (s : String) : Prop := ∀ c ∈ s.toList, isPlain c = true

variable {c : Char} {s s' : String} {text : List Char}

/-! ### What is plain -/

theorem toNat_lt_of_isPlain (h : isPlain c = true) : c.toNat < 128 := by
  have last : c.toNat ≤ '~'.toNat := of_decide_eq_true (Bool.and_eq_true_iff.mp h).2
  exact Nat.lt_of_le_of_lt last (by decide)

theorem isPlain_of_isAlphanum (h : c.isAlphanum = true) : isPlain c = true := by
  have all := of_ascii (fun c => !c.isAlphanum || isPlain c) (by decide)
    (toNat_lt_of_isAlphanum h)
  simpa [h] using all

theorem isPlain_of_isSensorChar (h : Descriptor.isSensorChar c = true) :
    isPlain c = true := by
  rcases Bool.or_eq_true_iff.mp h with letter | rest
  · exact isPlain_of_isAlphanum letter
  · rw [beq_iff_eq.mp rest]
    decide

theorem isPlain_of_isIdChar (h : Descriptor.isIdChar c = true) : isPlain c = true := by
  simp only [Descriptor.isIdChar, Bool.or_eq_true, beq_iff_eq] at h
  rcases h with (letter | rfl) | rfl
  · exact isPlain_of_isAlphanum letter
  · decide
  · decide

theorem isPlain_append : IsPlain (s ++ s') ↔ IsPlain s ∧ IsPlain s' := by
  simp only [IsPlain, String.toList_append, List.forall_mem_append]

theorem isPlain_of_all (h : s.toList.all isPlain = true) : IsPlain s :=
  List.all_eq_true.mp h

theorem isPlain_toString (n : Nat) : IsPlain (toString n) := by
  intro c mem
  have digit := isDigit_of_mem_toString mem
  exact isPlain_of_isAlphanum (by simp [Char.isAlphanum, digit])

/-! ### Clusters and columns -/

theorem columns_of_isPlain (h : isPlain c = true) : columns [c] = 1 := by
  have all := of_ascii (fun c => !isPlain c || columns [c] == 1) (by decide +kernel)
    (toNat_lt_of_isPlain h)
  simpa [h] using all

/-- Where a plain character starts a cluster, each plain character after it does so too. -/
theorem closed_foldl_add (plain : ∀ c ∈ text, isPlain c = true) {d : Division}
    (starts : ClusterPart.goesOn d.parts .ordinary = false) :
    (text.foldl Division.add d).closed.reverse = d.closed.reverse ++ text.map ([·]) := by
  induction text generalizing d with
  | nil => simp
  | cons c text ih =>
    have ordinary : ClusterPart.ofChar c = .ordinary := if_pos (plain c List.mem_cons_self)
    have added : d.add c = ⟨d.closed, [c], [.ordinary]⟩ := by
      rw [Division.add, ordinary, if_neg (Bool.eq_false_iff.mp starts)]
    rw [List.foldl_cons, added, ih (fun c mem => plain c (List.mem_cons_of_mem _ mem)) rfl]
    simp [Division.closed]

theorem clusters_of_isPlain (plain : ∀ c ∈ text, isPlain c = true) :
    clusters text = text.map ([·]) :=
  closed_foldl_add plain rfl

end CameraSetup.Text
