import CameraSetup.Text.Cut

/-! The parts of a text: what fields are made of, and what a text that is joined from parts is made
of. -/

namespace CameraSetup.Text

theorem cutLast?_eq_some_iff {sep : Char} {s a b : List Char} :
    cutLast? sep s = some (a, b) ↔ s = a ++ sep :: b ∧ sep ∉ b := by
  rw [cutLast?, Option.map_eq_some_iff]
  constructor
  · rintro ⟨⟨x, y⟩, cut, same⟩
    cases same
    obtain ⟨split, free⟩ := cut?_eq_some_iff.mp cut
    refine ⟨?_, fun mem => free (List.mem_reverse.mp mem)⟩
    have whole := congrArg List.reverse split
    rw [List.reverse_reverse, List.reverse_append, List.reverse_cons, List.append_assoc] at whole
    exact whole
  · rintro ⟨rfl, free⟩
    refine ⟨(b.reverse, a.reverse), cut?_eq_some_iff.mpr ⟨?_, ?_⟩, ?_⟩
    · simp
    · exact fun mem => free (List.mem_reverse.mp mem)
    · simp

/-- A word that something of another kind follows is what the text has of its kind in front. -/
theorem takeWhile_append_word {kind : Char → Bool} {word rest : List Char}
    (inside : ∀ c ∈ word, kind c = true)
    (stop : ∀ c, rest.head? = some c → kind c = false) :
    (word ++ rest).takeWhile kind = word ∧ (word ++ rest).dropWhile kind = rest := by
  have ends : rest.takeWhile kind = [] ∧ rest.dropWhile kind = rest := by
    cases rest with
    | nil => exact ⟨rfl, rfl⟩
    | cons c rest =>
      have other : ¬ kind c = true := by
        rw [stop c rfl]
        decide
      exact ⟨List.takeWhile_cons_of_neg other, List.dropWhile_cons_of_neg other⟩
  rw [List.takeWhile_append_of_pos inside, List.dropWhile_append_of_pos inside, ends.1, ends.2,
    List.append_nil]
  exact ⟨rfl, rfl⟩

/-- What stands before and after the first separator is determined by the text. -/
theorem eq_of_append_cons {sep : Char} {a a' b b' : List Char} (free : sep ∉ a) (free' : sep ∉ a')
    (same : a ++ sep :: b = a' ++ sep :: b') : a = a' ∧ b = b' := by
  have cut := cut?_eq_some_iff.mpr ⟨same, free'⟩
  rw [cut?_eq_some_iff.mpr ⟨rfl, free⟩] at cut
  exact Prod.mk.inj (Option.some.inj cut)

theorem dropSuffix?_eq_some_iff {suffix s start : List Char} :
    dropSuffix? suffix s = some start ↔ start ++ suffix = s := by
  unfold dropSuffix?
  constructor
  · intro h
    split at h
    · next ends =>
      cases h
      obtain ⟨front, rfl⟩ := List.isSuffixOf_iff_suffix.mp ends
      rw [List.length_append, Nat.add_sub_cancel, List.take_left]
    · cases h
  · rintro rfl
    have ends : suffix.isSuffixOf (start ++ suffix) = true :=
      List.isSuffixOf_iff_suffix.mpr (List.suffix_append start suffix)
    rw [if_pos ends, List.length_append, Nat.add_sub_cancel, List.take_left]

theorem fields_cons_self (sep : Char) (s : List Char) :
    fields sep (sep :: s) = [] :: fields sep s := by
  simp [fields]

theorem fields_cons_of_ne {sep c : Char} (h : c ≠ sep) (s : List Char) :
    ∃ f fs, fields sep s = f :: fs ∧ fields sep (c :: s) = (c :: f) :: fs := by
  rw [fields, if_neg h]
  cases hs : fields sep s with
  | nil => exact absurd hs (fields_ne_nil sep s)
  | cons f fs => exact ⟨f, fs, rfl, rfl⟩

theorem fields_of_not_mem {sep : Char} {f : List Char} (free : sep ∉ f) : fields sep f = [f] := by
  induction f with
  | nil => rfl
  | cons c f ih =>
    have hc : c ≠ sep := fun hc => free (by simp [hc])
    obtain ⟨g, gs, hf, hcf⟩ := fields_cons_of_ne hc f
    rw [ih fun m => free (List.mem_cons_of_mem c m)] at hf
    cases hf
    exact hcf

theorem fields_append_cons (sep : Char) (s t : List Char) :
    fields sep (s ++ sep :: t) = fields sep s ++ fields sep t := by
  induction s with
  | nil => exact fields_cons_self sep t
  | cons c s ih =>
    by_cases hc : c = sep
    · rw [hc, List.cons_append, fields_cons_self, fields_cons_self, ih, List.cons_append]
    · obtain ⟨f, fs, hs, hcs⟩ := fields_cons_of_ne hc s
      obtain ⟨g, gs, hst, hcst⟩ := fields_cons_of_ne hc (s ++ sep :: t)
      rw [ih, hs, List.cons_append] at hst
      cases hst
      rw [List.cons_append, hcst, hcs, List.cons_append]

theorem fields_append {sep : Char} {f : List Char} (free : sep ∉ f) (s : List Char) :
    fields sep (f ++ sep :: s) = f :: fields sep s := by
  rw [fields_append_cons, fields_of_not_mem free, List.singleton_append]

theorem fields_intercalate {sep : Char} {mark : String} (single : mark.toList = [sep])
    {parts : List String} (some : parts ≠ []) (free : ∀ part ∈ parts, sep ∉ part.toList) :
    fields sep (String.intercalate mark parts).toList = parts.map String.toList := by
  induction parts with
  | nil => exact absurd rfl some
  | cons p ps ih =>
    have first := free p List.mem_cons_self
    cases ps with
    | nil => rw [String.intercalate_singleton, fields_of_not_mem first, List.map_singleton]
    | cons q qs =>
      have rest := ih (List.cons_ne_nil q qs) fun part mem => free part (List.mem_cons_of_mem p mem)
      have whole : (String.intercalate mark (p :: q :: qs)).toList =
          p.toList ++ sep :: (String.intercalate mark (q :: qs)).toList := by
        simp [String.intercalate_cons_cons, single]
      rw [whole, fields_append first, rest]
      rfl

/-- A field is made of characters of the text other than the separator. -/
theorem mem_of_mem_fields {sep : Char} {s f : List Char} (h : f ∈ fields sep s) :
    ∀ c ∈ f, c ∈ s ∧ c ≠ sep := by
  induction s generalizing f with
  | nil => simp_all [fields]
  | cons d s ih =>
    by_cases hd : d = sep
    · rw [hd, fields_cons_self] at h
      rcases List.mem_cons.mp h with rfl | h
      · simp
      · exact fun c hc => ⟨List.mem_cons_of_mem d (ih h c hc).1, (ih h c hc).2⟩
    · obtain ⟨g, gs, hs, hds⟩ := fields_cons_of_ne hd s
      rw [hds] at h
      intro c hc
      rcases List.mem_cons.mp h with rfl | h
      · rcases List.mem_cons.mp hc with rfl | hc
        · exact ⟨List.mem_cons_self, hd⟩
        · have := ih (hs ▸ List.mem_cons_self) c hc
          exact ⟨List.mem_cons_of_mem d this.1, this.2⟩
      · have := ih (hs ▸ List.mem_cons_of_mem g h) c hc
        exact ⟨List.mem_cons_of_mem d this.1, this.2⟩

theorem mem_of_mem_intercalate {c : Char} {sep : String} {parts : List String}
    (h : c ∈ (String.intercalate sep parts).toList) :
    c ∈ sep.toList ∨ ∃ part ∈ parts, c ∈ part.toList := by
  induction parts with
  | nil => simp at h
  | cons p ps ih =>
    cases ps with
    | nil => exact .inr ⟨p, by simp, by simpa using h⟩
    | cons q qs =>
      rw [String.intercalate_cons_cons] at h
      simp only [String.toList_append, List.mem_append] at h
      rcases h with (h | h) | h
      · exact .inr ⟨p, by simp, h⟩
      · exact .inl h
      · rcases ih h with h | ⟨part, hpart, h⟩
        · exact .inl h
        · exact .inr ⟨part, by simp [hpart], h⟩

end CameraSetup.Text
