import CameraSetup.Proofs.BootConfig.Listing

/-! An entry of a boot configuration, with what stands before and after it. An entry starts with its
`LABEL` line and goes up to the next one. A line that is put in lands in one of the three parts, and
the entry stays an entry. -/

namespace CameraSetup.BootConfig

/-- The keyword of a line that starts an entry. -/
def entryKeyword : String := "LABEL"

/-- The lines of a configuration in three parts. -/
structure Sections where
  before : List String
  entry : List String
  after : List String

namespace Sections

/-- All lines. -/
def lines (s : Sections) : List String := s.before ++ s.entry ++ s.after

/-- The middle part starts with a `LABEL` line and goes up to the next one or to the end. -/
structure IsEntry (s : Sections) : Prop where
  starts : ∃ first rest, s.entry = first :: rest ∧ hasKeyword entryKeyword first = true ∧
    ∀ line ∈ rest, hasKeyword entryKeyword line = false
  stops : ∀ line, s.after.head? = some line → hasKeyword entryKeyword line = true

variable {s s' : Sections} {line : String} {front back : List String}

/-! ### A line put in -/

/-- Where a line lands that is put in after some lines: on the border of two parts it joins the
one before. -/
inductive Put (line : String) (s : Sections) : List String → Sections → Prop
  | before {front back : List String} (cut : s.before = front ++ back) :
      Put line s front { s with before := front ++ line :: back }
  | entry {front back : List String} (some : front ≠ []) (cut : s.entry = front ++ back) :
      Put line s (s.before ++ front) { s with entry := front ++ line :: back }
  | after {front back : List String} (some : front ≠ []) (cut : s.after = front ++ back) :
      Put line s (s.before ++ s.entry ++ front) { s with after := front ++ line :: back }

theorem exists_put (line : String) (cut : s.lines = front ++ back) :
    ∃ s', s.Put line front s' ∧ s'.lines = front ++ line :: back := by
  rw [lines, List.append_assoc] at cut
  rcases List.append_eq_append_iff.mp cut with ⟨front', rfl, rest⟩ | ⟨back', here, rfl⟩
  · by_cases border : front' = []
    · subst border
      rw [List.nil_append] at rest
      rw [List.append_nil]
      exact ⟨_, .before (List.append_nil _).symm, by simp [lines, ← rest]⟩
    · rcases List.append_eq_append_iff.mp rest with ⟨front'', rfl, last⟩ | ⟨back', here, rfl⟩
      · by_cases border' : front'' = []
        · subst border'
          rw [List.append_nil] at border ⊢
          rw [List.nil_append] at last
          exact ⟨_, .entry border (List.append_nil _).symm, by simp [lines, ← last]⟩
        · rw [← List.append_assoc]
          exact ⟨_, .after border' last, by simp [lines]⟩
      · exact ⟨_, .entry border here, by simp [lines]⟩
  · exact ⟨_, .before here, by simp [lines]⟩

theorem Put.isEntry (h : s.Put line front s') (entry : s.IsEntry)
    (other : hasKeyword entryKeyword line = false) : s'.IsEntry := by
  obtain ⟨⟨first, rest, whole, label, others⟩, stops⟩ := entry
  cases h with
  | before cut => exact ⟨⟨first, rest, whole, label, others⟩, stops⟩
  | @entry front back some cut =>
    obtain ⟨first', front', rfl⟩ := List.exists_cons_of_ne_nil some
    rw [whole, List.cons_append] at cut
    obtain ⟨rfl, rfl⟩ := List.cons.inj cut
    refine ⟨⟨first, front' ++ line :: back, rfl, label, fun l mem => ?_⟩, stops⟩
    rcases List.mem_append.mp mem with mem | mem
    · exact others l (List.mem_append_left back mem)
    · rcases List.mem_cons.mp mem with rfl | mem
      · exact other
      · exact others l (List.mem_append_right front' mem)
  | @after front back some cut =>
    refine ⟨⟨first, rest, whole, label, others⟩, fun l head => stops l ?_⟩
    obtain ⟨first', front', rfl⟩ := List.exists_cons_of_ne_nil some
    rw [cut]
    exact head

/-- The parts have their lines, and maybe others among them. -/
structure Extends (s s' : Sections) : Prop where
  before : s.before.Sublist s'.before
  entry : s.entry.Sublist s'.entry
  after : s.after.Sublist s'.after

theorem Extends.refl (s : Sections) : s.Extends s := ⟨.refl _, .refl _, .refl _⟩

theorem Extends.trans {s'' : Sections} (h : s.Extends s') (h' : s'.Extends s'') : s.Extends s'' :=
  ⟨h.before.trans h'.before, h.entry.trans h'.entry, h.after.trans h'.after⟩

theorem Put.extends_ (h : s.Put line front s') : s.Extends s' := by
  have put : ∀ front back : List String, (front ++ back).Sublist (front ++ line :: back) :=
    fun front back => (List.Sublist.refl front).append (List.sublist_cons_self line back)
  cases h with
  | @before front back cut => exact ⟨cut ▸ put front back, .refl _, .refl _⟩
  | @entry front back some cut => exact ⟨.refl _, cut ▸ put front back, .refl _⟩
  | @after front back some cut => exact ⟨.refl _, .refl _, cut ▸ put front back⟩

theorem Put.any_eq (h : s.Put line front s') {p : String → Bool} (lacks : p line = false) :
    s'.before.any p = s.before.any p ∧ s'.entry.any p = s.entry.any p := by
  cases h with
  | before cut => exact ⟨by simp [cut, lacks], rfl⟩
  | entry some cut => exact ⟨rfl, by simp [cut, lacks]⟩
  | after => exact ⟨rfl, rfl⟩

theorem Put.of_length (h : s.Put line front s') (beyond : s.before.length < front.length)
    (within : front.length ≤ s.before.length + s.entry.length ∨ s.after = []) :
    line ∈ s'.entry ∧ s'.before = s.before := by
  cases h with
  | before cut =>
    have := congrArg List.length cut
    rw [List.length_append] at this
    omega
  | entry some cut => exact ⟨by simp, rfl⟩
  | @after front back some cut =>
    have := List.length_pos_iff.mpr some
    rcases within with short | none
    · simp only [List.length_append] at short
      omega
    · rw [none] at cut
      exact absurd (List.append_eq_nil_iff.mp cut.symm).1 some

/-- A line put in directly after the first line of some kind is in the part where that line is. -/
theorem Put.after_first {p q : String → Bool} {first : String}
    (h : s.Put line (front ++ [first]) s') (earlier : front.any p = false) (kind : p first = true)
    (here : q line = true) (nowhere : s.lines.any q = false) :
    s'.entry.any q = true ↔ s.before.any p = false ∧ s.entry.any p = true := by
  simp only [lines, List.any_append, Bool.or_eq_false_iff] at nowhere
  obtain ⟨⟨-, notEntry⟩, -⟩ := nowhere
  generalize hf : front ++ [first] = front' at h
  cases h with
  | @before front'' back cut =>
    have inside : s.before.any p = true := by
      rw [cut, ← hf]
      simp [kind]
    simp [inside, notEntry]
  | @entry front'' back some cut =>
    obtain ⟨body, last, rfl⟩ := (List.eq_nil_or_concat front'').resolve_left some
    rw [List.concat_eq_append, ← List.append_assoc] at hf
    obtain ⟨rfl, same⟩ := List.append_inj' hf rfl
    cases same
    simp only [List.any_append, Bool.or_eq_false_iff] at earlier
    simp [cut, kind, here, earlier.1]
  | @after front'' back some cut =>
    obtain ⟨body, last, rfl⟩ := (List.eq_nil_or_concat front'').resolve_left some
    rw [List.concat_eq_append, ← List.append_assoc] at hf
    obtain ⟨rfl, -⟩ := List.append_inj' hf rfl
    simp only [List.any_append, Bool.or_eq_false_iff] at earlier
    simp [notEntry, earlier.1.2]

/-! ### Lines that become others -/

theorem exists_append_of_forall₂ {R : String → String → Prop} {l m ls : List String}
    (h : List.Forall₂ R (l ++ m) ls) :
    ∃ l' m', ls = l' ++ m' ∧ List.Forall₂ R l l' ∧ List.Forall₂ R m m' := by
  have front := List.forall₂_take l.length h
  have back := List.forall₂_drop l.length h
  rw [List.take_left] at front
  rw [List.drop_left] at back
  exact ⟨_, _, (List.take_append_drop l.length ls).symm, front, back⟩

theorem sublistForall₂_of_sublist {R : String → String → Prop} {l m m' : List String}
    (part : l.Sublist m) (h : List.Forall₂ R m m') : List.SublistForall₂ R l m' := by
  induction h generalizing l with
  | nil =>
    rw [List.sublist_nil.mp part]
    exact .nil
  | cons first _ ih =>
    cases part with
    | cons _ rest => exact .cons_right (ih rest)
    | cons_cons _ rest => exact .cons first (ih rest)

/-- The parts become others one by one. -/
structure Becomes (R : String → String → Prop) (s s' : Sections) : Prop where
  before : List.Forall₂ R s.before s'.before
  entry : List.Forall₂ R s.entry s'.entry
  after : List.Forall₂ R s.after s'.after

theorem exists_becomes {R : String → String → Prop} {ls : List String}
    (h : List.Forall₂ R s.lines ls) : ∃ s', s'.lines = ls ∧ s.Becomes R s' := by
  obtain ⟨front, after, rfl, hfront, hafter⟩ := exists_append_of_forall₂ h
  obtain ⟨before, entry, rfl, hbefore, hentry⟩ := exists_append_of_forall₂ hfront
  exact ⟨⟨before, entry, after⟩, rfl, hbefore, hentry, hafter⟩

theorem Becomes.isEntry {R : String → String → Prop} (h : s.Becomes R s') (entry : s.IsEntry)
    (keeps : ∀ l l', R l l' → hasKeyword entryKeyword l' = hasKeyword entryKeyword l) :
    s'.IsEntry := by
  obtain ⟨⟨first, rest, whole, label, others⟩, stops⟩ := entry
  have parts := h.entry
  rw [whole] at parts
  obtain ⟨first', rest', hfirst, hrest, whole'⟩ := List.forall₂_cons_left_iff.mp parts
  refine ⟨⟨first', rest', whole', (keeps _ _ hfirst).trans label, fun l mem => ?_⟩,
    fun l head => ?_⟩
  · have none : rest'.any (hasKeyword entryKeyword) = false := by
      rw [any_eq_of_forall₂ keeps hrest, List.any_eq_false]
      exact fun l mem => by simp [others l mem]
    exact Bool.eq_false_iff.mpr (List.any_eq_false.mp none l mem)
  · obtain ⟨rest, whole⟩ := List.head?_eq_some_iff.mp head
    have parts := h.after
    rw [whole] at parts
    obtain ⟨l0, rest0, same, -, whole0⟩ := List.forall₂_cons_right_iff.mp parts
    rw [keeps _ _ same]
    exact stops l0 (by rw [whole0]; rfl)

end Sections

end CameraSetup.BootConfig
