import CameraSetup.Proofs.BootConfig.Sections

/-! What an edit makes of one entry. The lines that it adds are looked for in the whole text, not in
the primary kernel entry: an `FDT` line anywhere keeps another one from being added, and so does an
`OVERLAYS` line, while one that is added stands after the first `FDT` line, in whatever entry that
is. Main statement: `entry_of_edit` says when the entry of the label gets them. -/

namespace CameraSetup.BootConfig

variable {ε : Type} {base : Except ε String} {paths : List String} {text result : String}
  {c based complete : BootConfig} {added : Bool} {path line : String} {s s' : Sections}

/-- Whether a line is a comment. -/
def isComment (line : String) : Bool := (Text.firstWord line.toList).head? == some '#'

/-- Whether a line that is no comment holds the label of the primary kernel entry. -/
def isLabelLine (line : String) : Bool := isPrimaryLabel line && !isComment line

/-! ### Where lines are added -/

theorem exists_of_findIdx? {p : String → Bool} {ls : List String} {i : Nat}
    (h : ls.findIdx? p = some i) :
    ∃ first, ls.take (i + 1) = ls.take i ++ [first] ∧ (ls.take i).any p = false ∧
      p first = true := by
  obtain ⟨inside, kind, earlier⟩ := List.findIdx?_eq_some_iff_getElem.mp h
  refine ⟨ls[i], List.take_succ_eq_append_getElem inside, ?_, kind⟩
  rw [List.any_eq_false]
  intro l mem
  obtain ⟨j, before, rfl⟩ := List.getElem_of_mem mem
  rw [List.length_take] at before
  rw [List.getElem_take]
  exact earlier j (by omega)

theorem findIdx?_append_cons {α : Type} {p : α → Bool} {front : List α} {a : α}
    (none : ∀ l ∈ front, p l = false) (here : p a = true) (back : List α) :
    (front ++ a :: back).findIdx? p = some front.length := by
  have skipped : front.findIdx? p = Option.none := List.findIdx?_eq_none_iff.mpr none
  rw [List.findIdx?_append, skipped, List.findIdx?_cons, if_pos here]
  simp

/-- An `FDT` line is there already, or it is added behind the first label. -/
theorem withBase_cases (h : withBase base c = .ok (based, added)) :
    (c.mentions baseKeyword = true ∧ based = c) ∨
    (c.mentions baseKeyword = false ∧ ∃ path label,
      c.lines.findIdx? isPrimaryLabel = some label ∧
      based = c.withLineAt (label + primaryTail + 1) (deviceTreeLine path)) := by
  unfold withBase needsBase at h
  cases has : c.mentions baseKeyword with
  | true =>
    rw [if_neg (by simp [has])] at h
    cases h
    exact .inl ⟨rfl, rfl⟩
  | false =>
    rw [if_pos (by simp [has])] at h
    split at h
    · cases h
    · next path =>
      have put := mapError_eq_ok.mp h
      unfold withBaseLine at put
      rw [if_neg (by simp [has])] at put
      split at put
      · cases put
      · next label found =>
        cases put
        exact .inr ⟨rfl, path, label, found, rfl⟩

/-- An `OVERLAYS` line is there already, or it is added directly behind the first `FDT` line. -/
theorem withOverlayLine_cases (h : c.withOverlayLine = .ok (complete, added)) :
    (c.mentions overlaysKeyword = true ∧ complete = c) ∨
    (c.mentions overlaysKeyword = false ∧ ∃ first,
      c.lines.findIdx? (hasKeyword baseKeyword) = some first ∧
      complete = c.withLineAt (first + 1) (addedIndent ++ overlaysKeyword)) := by
  unfold withOverlayLine at h
  cases has : c.mentions overlaysKeyword with
  | true =>
    rw [if_pos has] at h
    cases h
    exact .inl ⟨rfl, rfl⟩
  | false =>
    rw [if_neg (by simp [has])] at h
    split at h
    · cases h
    · next first found =>
      cases h
      exact .inr ⟨rfl, first, found, rfl⟩

theorem exists_put_withLineAt (whole : s.lines = c.lines) (position : Nat) (line : String) :
    ∃ s', s.Put line (c.lines.take position) s' ∧
      s'.lines = (c.withLineAt position line).lines := by
  rw [lines_withLineAt]
  exact Sections.exists_put line (whole.trans (List.take_append_drop position c.lines).symm)

theorem hasKeyword_deviceTreeLine_of_ne {keyword : String} (other : keyword ≠ baseKeyword) :
    hasKeyword keyword (deviceTreeLine path) = false :=
  Bool.eq_false_iff.mpr fun here => other (hasKeyword_unique here (hasKeyword_deviceTreeLine path))

theorem hasKeyword_added_of_ne {keyword : String} (other : keyword ≠ overlaysKeyword) :
    hasKeyword keyword (addedIndent ++ overlaysKeyword) = false :=
  Bool.eq_false_iff.mpr fun here => other (hasKeyword_unique here hasKeyword_added)

/-- The label stands in the entry, no line before it holds it, and there is room for the line that
is added behind it. -/
def Sections.Labelled (s : Sections) : Prop :=
  ∃ front label back, s.entry = front ++ label :: back ∧ isPrimaryLabel label = true ∧
    (∀ l ∈ s.before ++ front, isPrimaryLabel l = false) ∧
    (primaryTail ≤ back.length ∨ s.after = [])

theorem exists_withBase (entry : s.IsEntry) (whole : s.lines = c.lines)
    (h : withBase base c = .ok (based, added)) :
    ∃ s' : Sections, s'.lines = based.lines ∧ s'.IsEntry ∧ s.Extends s' ∧
      (s'.before.any (hasKeyword overlaysKeyword) = s.before.any (hasKeyword overlaysKeyword) ∧
        s'.entry.any (hasKeyword overlaysKeyword) = s.entry.any (hasKeyword overlaysKeyword)) ∧
      based.mentions overlaysKeyword = c.mentions overlaysKeyword ∧
      (c.mentions baseKeyword = true → s' = s) ∧
      (c.mentions baseKeyword = false → s.Labelled →
        s'.before = s.before ∧ s'.entry.any (hasKeyword baseKeyword) = true) := by
  rcases withBase_cases h with ⟨has, rfl⟩ | ⟨lacks, path, found, first, rfl⟩
  · exact ⟨s, whole, entry, .refl s, ⟨rfl, rfl⟩, rfl, fun _ => rfl,
      fun lacks => by simp [has] at lacks⟩
  · obtain ⟨s', put, lines⟩ :=
      exists_put_withLineAt whole (found + primaryTail + 1) (deviceTreeLine path)
    refine ⟨s', lines, put.isEntry entry (hasKeyword_deviceTreeLine_of_ne (by decide)),
      put.extends_, put.any_eq (hasKeyword_deviceTreeLine_of_ne (by decide)), ?_,
      fun has => by simp [has] at lacks, fun _ labelled => ?_⟩
    · rw [mentions_withLineAt, hasKeyword_deviceTreeLine_of_ne (by decide), Bool.false_or]
    obtain ⟨front, label, back, cut, here, earlier, room⟩ := labelled
    have cuts : c.lines = (s.before ++ front) ++ label :: (back ++ s.after) := by
      rw [← whole, Sections.lines, cut]
      simp
    -- So the first label is this one, and the line lands behind it in its entry.
    rw [cuts, findIdx?_append_cons earlier here] at first
    cases first
    have length := congrArg List.length cuts
    have size := congrArg List.length cut
    simp only [List.length_append, List.length_cons] at length size
    have landed := put.of_length
    simp only [List.length_take, List.length_append, primaryTail] at landed room
    have after : s.after = [] → s.after.length = 0 := fun none => by rw [none]; rfl
    obtain ⟨mem, same⟩ := landed (by omega) (room.imp_left fun long => by omega)
    exact ⟨same, List.any_eq_true.mpr ⟨_, mem, hasKeyword_deviceTreeLine path⟩⟩

theorem exists_withOverlayLine (entry : s.IsEntry) (whole : s.lines = c.lines)
    (h : c.withOverlayLine = .ok (complete, added)) :
    ∃ s' : Sections, s'.lines = complete.lines ∧ s'.IsEntry ∧ s.Extends s' ∧
      (s'.before.any (hasKeyword baseKeyword) = s.before.any (hasKeyword baseKeyword) ∧
        s'.entry.any (hasKeyword baseKeyword) = s.entry.any (hasKeyword baseKeyword)) ∧
      (c.mentions overlaysKeyword = true → s' = s) ∧
      (c.mentions overlaysKeyword = false → (s'.entry.any (hasKeyword overlaysKeyword) = true ↔
        s.before.any (hasKeyword baseKeyword) = false ∧
          s.entry.any (hasKeyword baseKeyword) = true)) := by
  rcases withOverlayLine_cases h with ⟨has, rfl⟩ | ⟨lacks, found, first, rfl⟩
  · exact ⟨s, whole, entry, .refl s, ⟨rfl, rfl⟩, fun _ => rfl, fun lacks => by simp [has] at lacks⟩
  · obtain ⟨s', put, lines⟩ :=
      exists_put_withLineAt whole (found + 1) (addedIndent ++ overlaysKeyword)
    refine ⟨s', lines, put.isEntry entry (hasKeyword_added_of_ne (by decide)), put.extends_,
      put.any_eq (hasKeyword_added_of_ne (by decide)), fun has => by simp [has] at lacks,
      fun _ => ?_⟩
    obtain ⟨line, cut, earlier, here⟩ := exists_of_findIdx? first
    rw [cut] at put
    exact put.after_first earlier here hasKeyword_added (whole ▸ lacks)

/-! ### The entry after an edit -/

/-- What becomes of an entry and of what stands before and after it. No line is lost, and every list
is the one given. An `FDT` line is only added to a text that has none, and so is an `OVERLAYS` line,
which stands in the entry exactly when the first `FDT` line does. -/
structure EntryEdited (paths : List String) (s s' : Sections) : Prop where
  isEntry : s'.IsEntry
  before : List.SublistForall₂ (Relisted paths) s.before s'.before
  entry : List.SublistForall₂ (Relisted paths) s.entry s'.entry
  after : List.SublistForall₂ (Relisted paths) s.after s'.after
  lists : ∀ line ∈ s'.lines, hasKeyword overlaysKeyword line = true →
    line = overlaysLine paths line
  base_kept : s.lines.any (hasKeyword baseKeyword) = true →
    s'.before.any (hasKeyword baseKeyword) = s.before.any (hasKeyword baseKeyword) ∧
      s'.entry.any (hasKeyword baseKeyword) = s.entry.any (hasKeyword baseKeyword)
  base_added : s.lines.any (hasKeyword baseKeyword) = false → s.Labelled →
    s'.before.any (hasKeyword baseKeyword) = false ∧
      s'.entry.any (hasKeyword baseKeyword) = true
  lists_kept : s.lines.any (hasKeyword overlaysKeyword) = true →
    s'.entry.any (hasKeyword overlaysKeyword) = s.entry.any (hasKeyword overlaysKeyword)
  lists_added : s.lines.any (hasKeyword overlaysKeyword) = false →
    (s'.entry.any (hasKeyword overlaysKeyword) = true ↔
      s'.before.any (hasKeyword baseKeyword) = false ∧
        s'.entry.any (hasKeyword baseKeyword) = true)

theorem exists_entryEdited (entry : s.IsEntry) (whole : (parse text).lines = s.lines)
    (hbase : (parse text).needsBase = true → ∀ path, base = .ok path → IsInline path)
    (hpaths : ∀ path ∈ paths, IsInline path) (h : edit base paths text = .ok result) :
    ∃ s' : Sections, (parse result).lines = s'.lines ∧ EntryEdited paths s s' := by
  obtain ⟨c, hc, relisted⟩ := relisted_of_edit hbase hpaths h
  obtain ⟨based, _, _, first, second⟩ := completed_ok hc
  obtain ⟨s1, lines1, entry1, extends1, ⟨-, lists1⟩, mentions1, kept1, added1⟩ :=
    exists_withBase entry whole.symm first
  obtain ⟨s2, lines2, entry2, extends2, ⟨before2, bases2⟩, kept2, added2⟩ :=
    exists_withOverlayLine entry1 lines1 second
  rw [← lines2] at relisted
  obtain ⟨s', lines', becomes⟩ := Sections.exists_becomes relisted
  have keeps := fun keyword line line' (h : Relisted paths line line') => h.hasKeyword keyword
  have before' := fun keyword => any_eq_of_forall₂ (keeps keyword) becomes.before
  have entry' := fun keyword => any_eq_of_forall₂ (keeps keyword) becomes.entry
  have extends_ := extends1.trans extends2
  have mentions : ∀ keyword, (parse text).mentions keyword = s.lines.any (hasKeyword keyword) :=
    fun keyword => congrArg (List.any · (hasKeyword keyword)) whole
  rw [mentions] at kept1 added1
  rw [mentions1, mentions] at kept2 added2
  refine ⟨s', lines'.symm, ?_⟩
  refine
    { isEntry := becomes.isEntry entry2 (keeps entryKeyword)
      before := Sections.sublistForall₂_of_sublist extends_.before becomes.before
      entry := Sections.sublistForall₂_of_sublist extends_.entry becomes.entry
      after := Sections.sublistForall₂_of_sublist extends_.after becomes.after
      lists := ?_
      base_kept := fun has => ?_
      base_added := fun lacks labelled => ?_
      lists_kept := fun has => ?_
      lists_added := fun lacks => ?_ }
  · intro line mem lists
    obtain ⟨_, same⟩ := exists_of_mem_forall₂ relisted (lines' ▸ mem)
    exact same.eq_overlaysLine lists
  · rw [before', entry', before2, bases2, kept1 has]
    exact ⟨rfl, rfl⟩
  · obtain ⟨same, has⟩ := added1 lacks labelled
    rw [before', entry', before2, bases2, same]
    refine ⟨?_, has⟩
    simp only [Sections.lines, List.any_append, Bool.or_eq_false_iff] at lacks
    exact lacks.1.1
  · rw [entry', kept2 has, lists1]
  · rw [before', entry', entry', before2, bases2]
    exact added2 lacks

/-- The one line with the label is the first line that an edit takes for it, unless a comment before
it holds the label. -/
theorem Sections.labelled_of_countP {front back : List String} {label : String}
    (inside : s.entry = front ++ label :: back) (labels : isLabelLine label = true)
    (once : s.lines.countP isLabelLine = 1)
    (uncommented : ∀ line ∈ s.before ++ front, isComment line = true → isPrimaryLabel line = false)
    (room : primaryTail ≤ back.length ∨ s.after = []) : s.Labelled := by
  have whole : s.lines = (s.before ++ front) ++ label :: (back ++ s.after) := by
    simp [Sections.lines, inside]
  have none : (s.before ++ front).countP isLabelLine = 0 := by
    rw [whole, List.countP_append, List.countP_cons_of_pos labels] at once
    omega
  simp only [isLabelLine, Bool.and_eq_true, Bool.not_eq_true'] at labels
  refine ⟨front, label, back, inside, labels.1, fun line mem => ?_, room⟩
  cases comment : isComment line with
  | true => exact uncommented line mem comment
  | false => simpa [isLabelLine, comment] using List.countP_eq_zero.mp none line mem

theorem Sections.any_entry_of_lines {p : String → Bool}
    (outside : (s.before ++ s.after).any p = false) (some : s.lines.any p = true) :
    s.entry.any p = true := by
  simp only [List.any_append, Bool.or_eq_false_iff] at outside
  simpa [Sections.lines, outside.1, outside.2] using some

/-- The entry with the label gets both lines when no other part has any of them. -/
theorem EntryEdited.any_entry (h : EntryEdited paths s s') (labelled : s.Labelled)
    (noBase : (s.before ++ s.after).any (hasKeyword baseKeyword) = false)
    (noList : (s.before ++ s.after).any (hasKeyword overlaysKeyword) = false) :
    s'.entry.any (hasKeyword baseKeyword) = true ∧
      s'.entry.any (hasKeyword overlaysKeyword) = true := by
  have bases : s'.before.any (hasKeyword baseKeyword) = false ∧
      s'.entry.any (hasKeyword baseKeyword) = true := by
    cases some : s.lines.any (hasKeyword baseKeyword) with
    | true =>
      rw [(h.base_kept some).1, (h.base_kept some).2]
      refine ⟨?_, Sections.any_entry_of_lines noBase some⟩
      rw [List.any_append, Bool.or_eq_false_iff] at noBase
      exact noBase.1
    | false => exact h.base_added some labelled
  refine ⟨bases.2, ?_⟩
  cases some : s.lines.any (hasKeyword overlaysKeyword) with
  | true => rw [h.lists_kept some, Sections.any_entry_of_lines noList some]
  | false => exact (h.lists_added some).mpr bases

/-- Whatever entries a text has, an edit that succeeds gives its list to every `OVERLAYS` line, and
it adds an `FDT` line and an `OVERLAYS` line only where the whole text has none. So the entry with
the label of the primary kernel has both afterwards if no other part of the text has any of them,
provided that no comment before holds the label and that two lines follow it in its entry, or no
other entry. -/
theorem entry_of_edit {front back : List String} {label : String} (entry : s.IsEntry)
    (whole : (parse text).lines = s.lines) (inside : s.entry = front ++ label :: back)
    (labels : isLabelLine label = true) (once : s.lines.countP isLabelLine = 1)
    (hbase : (parse text).needsBase = true → ∀ path, base = .ok path → IsInline path)
    (hpaths : ∀ path ∈ paths, IsInline path) (h : edit base paths text = .ok result) :
    ∃ s' : Sections, (parse result).lines = s'.lines ∧ EntryEdited paths s s' ∧
      ((∀ line ∈ s.before ++ front, isComment line = true → isPrimaryLabel line = false) →
        primaryTail ≤ back.length ∨ s.after = [] →
        (s.lines.any (hasKeyword baseKeyword) = false →
          s'.entry.any (hasKeyword baseKeyword) = true) ∧
        ((s.before ++ s.after).any (hasKeyword baseKeyword) = false →
          (s.before ++ s.after).any (hasKeyword overlaysKeyword) = false →
          s'.entry.any (hasKeyword baseKeyword) = true ∧
            s'.entry.any (hasKeyword overlaysKeyword) = true)) := by
  obtain ⟨s', lines, edited⟩ := exists_entryEdited entry whole hbase hpaths h
  refine ⟨s', lines, edited, fun uncommented room => ?_⟩
  have labelled := Sections.labelled_of_countP inside labels once uncommented room
  exact ⟨fun lacks => (edited.base_added lacks labelled).2, edited.any_entry labelled⟩

/-- Neither of two entries has an `FDT` or an `OVERLAYS` line; the primary one gets both. -/
theorem entry_of_edit_second : ∃ (result : String) (s' : Sections),
    edit (.ok "/base.dtb" : Except Unit String) ["/o/a.dtbo", "/o/b.dtbo"]
      "LABEL old\nLABEL new\n MENU LABEL primary kernel\n LINUX /Image\n INITRD /initrd\n" =
      .ok result ∧
    (parse result).lines = s'.lines ∧
    EntryEdited ["/o/a.dtbo", "/o/b.dtbo"]
      ⟨["LABEL old"], ["LABEL new", " MENU LABEL primary kernel", " LINUX /Image",
        " INITRD /initrd"], []⟩ s' ∧
    s'.entry.any (hasKeyword baseKeyword) = true ∧
      s'.entry.any (hasKeyword overlaysKeyword) = true := by
  obtain ⟨result, edited⟩ : ∃ result,
      edit (.ok "/base.dtb" : Except Unit String) ["/o/a.dtbo", "/o/b.dtbo"]
        "LABEL old\nLABEL new\n MENU LABEL primary kernel\n LINUX /Image\n INITRD /initrd\n" =
        .ok result :=
    ⟨"LABEL old\nLABEL new\n MENU LABEL primary kernel\n LINUX /Image\n INITRD /initrd\n" ++
      "      FDT /base.dtb\n      OVERLAYS /o/a.dtbo,/o/b.dtbo\n", by decide +kernel⟩
  have hbase : ∀ path, (.ok "/base.dtb" : Except Unit String) = .ok path → IsInline path := by
    rintro path known
    cases known
    decide +kernel
  obtain ⟨s', lines, entry, gets⟩ := @entry_of_edit _ _ _ _ _
    ⟨["LABEL old"], ["LABEL new", " MENU LABEL primary kernel", " LINUX /Image",
      " INITRD /initrd"], []⟩
    ["LABEL new"] [" LINUX /Image", " INITRD /initrd"] " MENU LABEL primary kernel"
    ⟨⟨_, _, rfl, by decide +kernel, by decide +kernel⟩, nofun⟩ (by decide +kernel) rfl
    (by decide +kernel) (by decide +kernel) (fun _ => hbase) (by decide +kernel) edited
  have both := (gets (by decide +kernel) (.inr rfl)).2 (by decide +kernel) (by decide +kernel)
  exact ⟨result, s', edited, lines, entry, both⟩

/-- With an `FDT` line in another entry the primary entry gets neither line: the `OVERLAYS` line
goes to the other entry. -/
theorem entry_of_edit_elsewhere : ∃ (result : String) (s s' : Sections),
    edit (.ok "/base.dtb" : Except Unit String) ["/o/a.dtbo"]
      ("LABEL old\n FDT /old.dtb\nLABEL new\n MENU LABEL primary kernel\n LINUX /Image\n" ++
        " INITRD /initrd\n") = .ok result ∧
    (parse ("LABEL old\n FDT /old.dtb\nLABEL new\n MENU LABEL primary kernel\n LINUX /Image\n" ++
      " INITRD /initrd\n")).lines = s.lines ∧
    s.IsEntry ∧ s.lines.countP isLabelLine = 1 ∧ s.entry.any isLabelLine = true ∧
    (parse result).lines = s'.lines ∧ s'.IsEntry ∧ s'.entry.any isLabelLine = true ∧
    s'.entry.any (hasKeyword baseKeyword) = false ∧
      s'.entry.any (hasKeyword overlaysKeyword) = false :=
  ⟨"LABEL old\n FDT /old.dtb\n      OVERLAYS /o/a.dtbo\nLABEL new\n" ++
      " MENU LABEL primary kernel\n LINUX /Image\n INITRD /initrd\n",
    ⟨["LABEL old", " FDT /old.dtb"], ["LABEL new", " MENU LABEL primary kernel", " LINUX /Image",
      " INITRD /initrd"], []⟩,
    ⟨["LABEL old", " FDT /old.dtb", "      OVERLAYS /o/a.dtbo"], ["LABEL new",
      " MENU LABEL primary kernel", " LINUX /Image", " INITRD /initrd"], []⟩,
    by decide +kernel, by decide +kernel,
    ⟨⟨_, _, rfl, by decide +kernel, by decide +kernel⟩, nofun⟩, by decide +kernel,
    by decide +kernel, by decide +kernel,
    ⟨⟨_, _, rfl, by decide +kernel, by decide +kernel⟩, nofun⟩, by decide +kernel,
    by decide +kernel, by decide +kernel⟩

end CameraSetup.BootConfig
