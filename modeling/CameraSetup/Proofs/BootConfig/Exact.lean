import CameraSetup.Proofs.BootConfig.Entry

/-! The exact effect of an edit on lines. The base device tree is asked for exactly when no line
names one, and the edit fails exactly when it is then not known or there is no label to put its line
after. An edited text is made of the lines of the old one, in their order, and at most two more;
only `OVERLAYS` lines are written anew. -/

namespace CameraSetup.BootConfig

/-- A line of an edited text: one that was there, or one of the two that an edit adds. -/
inductive EditedLine
  | kept (line : String)
  | base (path : String)
  | list
  deriving DecidableEq, Repr

namespace EditedLine

/-- The line as it was before the edit, if it was there. -/
def old? : EditedLine → Option String
  | .kept line => some line
  | .base _ | .list => none

/-- The line without a list. -/
def plain : EditedLine → String
  | .kept line => line
  | .base path => "      FDT " ++ path
  | .list => "      OVERLAYS"

/-- The blanks that the line starts with. -/
def indent : EditedLine → String
  | .kept line => String.ofList (Text.indentation line.toList)
  | .base _ | .list => "      "

/-- The line as it is written: an `OVERLAYS` line with the list, any other as it is. -/
def text (paths : List String) (line : EditedLine) : String :=
  if hasKeyword overlaysKeyword line.plain then
    line.indent ++ "OVERLAYS " ++ String.intercalate "," paths
  else line.plain

variable {paths : List String}

theorem plain_base (path : String) : (base path).plain = deviceTreeLine path := rfl

theorem hasKeyword_plain_base (path : String) : hasKeyword baseKeyword (base path).plain = true :=
  plain_base path ▸ hasKeyword_deviceTreeLine path

theorem plain_list : list.plain = addedIndent ++ overlaysKeyword := rfl

theorem text_eq (paths : List String) (line : EditedLine) : line.text paths =
    if hasKeyword overlaysKeyword line.plain then overlaysLine paths line.plain
    else line.plain := by
  unfold text
  split
  · next lists =>
    have indent : line.indent = String.ofList (Text.indentation line.plain.toList) := by
      cases line with
      | kept => rfl
      | base path =>
        rw [plain_base, hasKeyword_deviceTreeLine_of_ne (by decide)] at lists
        cases lists
      | list => decide +kernel
    have keyword : "OVERLAYS " = overlaysKeyword ++ " " := rfl
    rw [overlaysLine, indent, keyword, ← String.append_assoc]
  · rfl

theorem hasKeyword_text (paths : List String) (line : EditedLine) (keyword : String) :
    hasKeyword keyword (line.text paths) = hasKeyword keyword line.plain := by
  have relisted : Relisted paths line.plain (line.text paths) := by
    unfold Relisted
    rw [text_eq]
    split
    · rfl
    · exact .inl rfl
  exact relisted.hasKeyword keyword

end EditedLine

variable {ε : Type} {base : Except ε String} {c based complete : BootConfig} {added : Bool}
  {paths lines : List String} {text result line : String} {edited : List EditedLine}

/-! ### When an edit fails -/

theorem mentions_eq_false_iff {keyword : String} : c.mentions keyword = false ↔
    ∀ line ∈ c.lines, hasKeyword keyword line = false := by
  simp [mentions]

theorem withBase_of_mentions (has : c.mentions baseKeyword = true) (base : Except ε String) :
    withBase base c = .ok (c, false) := by
  unfold withBase needsBase
  rw [has]
  rfl

theorem withBase_error (none : c.mentions baseKeyword = false) (cause : ε) :
    withBase (.error cause) c = .error (.base cause) := by
  unfold withBase needsBase
  rw [none]
  rfl

theorem withBase_of_no_label (none : c.mentions baseKeyword = false)
    (unlabelled : c.lines.findIdx? isPrimaryLabel = Option.none) (path : String) :
    withBase (.ok path : Except ε String) c = .error (.anchor .noPrimaryEntry) := by
  unfold withBase needsBase withBaseLine
  rw [none, unlabelled]
  rfl

theorem withBase_of_label (none : c.mentions baseKeyword = false) {label : Nat}
    (labelled : c.lines.findIdx? isPrimaryLabel = some label) (path : String) :
    withBase (.ok path : Except ε String) c =
      .ok (c.withLineAt (label + primaryTail + 1) (deviceTreeLine path), true) := by
  unfold withBase needsBase withBaseLine
  rw [none, labelled]
  rfl

/-- A configuration with an `FDT` line has a place for an `OVERLAYS` line. -/
theorem exists_withOverlayLine_of_mentions (has : c.mentions baseKeyword = true) :
    ∃ complete added, c.withOverlayLine = .ok (complete, added) := by
  unfold withOverlayLine
  split
  · exact ⟨_, _, rfl⟩
  · split
    · next nowhere =>
      obtain ⟨line, mem, here⟩ := List.any_eq_true.mp has
      rw [List.findIdx?_eq_none_iff.mp nowhere line mem] at here
      cases here
    · exact ⟨_, _, rfl⟩

/-- Only the step that adds the `FDT` line can fail. -/
theorem edit_eq_error_iff_withBase {e : EditError ε} :
    edit base paths text = .error e ↔ withBase base (parse text) = .error e := by
  rw [edit_eq, bind_eq_error]
  constructor
  · rintro (failed | ⟨_, -, failed⟩)
    · rcases bind_eq_error.mp failed with failed | ⟨⟨based, added⟩, first, failed⟩
      · exact failed
      · obtain ⟨_, _, listed⟩ := exists_withOverlayLine_of_mentions (withBase_ok first).1
        rcases bind_eq_error.mp failed with failed | ⟨_, -, failed⟩
        · obtain ⟨_, unlisted, -⟩ := mapError_eq_error.mp failed
          rw [listed] at unlisted
          cases unlisted
        · cases failed
    · cases failed
  · exact fun failed => .inl (bind_eq_error.mpr (.inl failed))

/-- Why an edit of lines fails: they name no base device tree, and either it is not known or they
have no label. -/
def Fails (base : Except ε String) (lines : List String) (e : EditError ε) : Prop :=
  (∀ line ∈ lines, hasKeyword baseKeyword line = false) ∧
    ((∃ cause, base = .error cause ∧ e = .base cause) ∨
      (∃ path, base = .ok path) ∧ (∀ line ∈ lines, isPrimaryLabel line = false) ∧
        e = .anchor .noPrimaryEntry)

theorem withBase_eq_error_iff {e : EditError ε} :
    withBase base c = .error e ↔ Fails base c.lines e := by
  unfold Fails
  rw [← mentions_eq_false_iff]
  cases has : c.mentions baseKeyword with
  | true =>
    rw [withBase_of_mentions has]
    exact ⟨nofun, fun failed => absurd failed.1 (by decide)⟩
  | false =>
    cases base with
    | error cause =>
      rw [withBase_error has, Except.error.injEq]
      constructor
      · rintro rfl
        exact ⟨rfl, .inl ⟨cause, rfl, rfl⟩⟩
      · rintro ⟨-, ⟨_, same, rfl⟩ | ⟨⟨_, other⟩, -⟩⟩
        · cases same
          rfl
        · cases other
    | ok path =>
      cases place : c.lines.findIdx? isPrimaryLabel with
      | none =>
        rw [withBase_of_no_label has place, Except.error.injEq]
        constructor
        · rintro rfl
          exact ⟨rfl, .inr ⟨⟨path, rfl⟩, List.findIdx?_eq_none_iff.mp place, rfl⟩⟩
        · rintro ⟨-, ⟨_, other, -⟩ | ⟨-, -, rfl⟩⟩
          · cases other
          · rfl
      | some label =>
        obtain ⟨inside, here, -⟩ := List.findIdx?_eq_some_iff_getElem.mp place
        rw [withBase_of_label has place]
        refine ⟨nofun, ?_⟩
        rintro ⟨-, ⟨_, other, -⟩ | ⟨-, nowhere, -⟩⟩
        · cases other
        · rw [nowhere _ (List.getElem_mem inside)] at here
          cases here

/-! ### What an edit makes of the lines -/

/-- An `FDT` line was added exactly when there was none, behind the first label and the two lines
that follow it. -/
def BaseAdded (base : Except ε String) (lines : List String) (edited : List EditedLine) : Prop :=
  ((∃ line ∈ lines, hasKeyword baseKeyword line = true) ∧ ∀ path, .base path ∉ edited) ∨
    (∀ line ∈ lines, hasKeyword baseKeyword line = false) ∧ ∃ path label back,
      base = .ok path ∧ lines.findIdx? isPrimaryLabel = some label ∧
      edited = (lines.take (label + 3)).map .kept ++ .base path :: back ∧
      ∀ path, .base path ∉ back

/-- An `OVERLAYS` line was added exactly when there was none, right behind the first `FDT` line. -/
def ListAdded (lines : List String) (edited : List EditedLine) : Prop :=
  ((∃ line ∈ lines, hasKeyword overlaysKeyword line = true) ∧ .list ∉ edited) ∨
    (∀ line ∈ lines, hasKeyword overlaysKeyword line = false) ∧ ∃ front first back,
      edited = front ++ first :: .list :: back ∧
      (∀ line ∈ front, hasKeyword baseKeyword line.plain = false) ∧
      hasKeyword baseKeyword first.plain = true ∧ .list ∉ front ++ first :: back

theorem mentions_iff {keyword : String} : c.mentions keyword = true ↔
    ∃ line ∈ c.lines, hasKeyword keyword line = true := List.any_eq_true

theorem map_plain_kept (lines : List String) :
    (lines.map EditedLine.kept).map EditedLine.plain = lines := by
  simp [Function.comp_def, EditedLine.plain]

theorem filterMap_old?_kept (lines : List String) :
    (lines.map EditedLine.kept).filterMap EditedLine.old? = lines := by
  simp [Function.comp_def, EditedLine.old?]

theorem exists_baseAdded (h : withBase base c = .ok (based, added)) :
    ∃ edited, edited.map EditedLine.plain = based.lines ∧
      edited.filterMap EditedLine.old? = c.lines ∧ .list ∉ edited ∧
      BaseAdded base c.lines edited := by
  cases has : c.mentions baseKeyword with
  | true =>
    rw [withBase_of_mentions has] at h
    cases h
    exact ⟨c.lines.map .kept, map_plain_kept _, filterMap_old?_kept _, by simp,
      .inl ⟨mentions_iff.mp has, by simp⟩⟩
  | false =>
    cases base with
    | error cause =>
      rw [withBase_error has] at h
      cases h
    | ok path =>
      cases place : c.lines.findIdx? isPrimaryLabel with
      | none =>
        rw [withBase_of_no_label has place] at h
        cases h
      | some label =>
        rw [withBase_of_label has place] at h
        cases h
        refine ⟨(c.lines.take (label + 3)).map .kept ++
          .base path :: (c.lines.drop (label + 3)).map .kept, ?_, ?_, ?_, .inr
          ⟨mentions_eq_false_iff.mp has, path, label, _, rfl, place, rfl, fun _ => by
            simp [-List.map_drop]⟩⟩
        · rw [List.map_append, List.map_cons, map_plain_kept, map_plain_kept, lines_withLineAt]
          rfl
        · rw [List.filterMap_append, List.filterMap_cons_none rfl, filterMap_old?_kept,
            filterMap_old?_kept, List.take_append_drop]
        · simp [-List.map_take, -List.map_drop]

/-- What is put in behind the first `FDT` line stands behind an added one. -/
theorem BaseAdded.put {front back : List EditedLine} {first : EditedLine}
    (h : BaseAdded base lines (front ++ first :: back))
    (earlier : ∀ line ∈ front, hasKeyword baseKeyword line.plain = false)
    (here : hasKeyword baseKeyword first.plain = true) :
    BaseAdded base lines (front ++ first :: .list :: back) := by
  rcases h with ⟨has, unadded⟩ | ⟨none, path, label, back', known, place, whole, once⟩
  · refine .inl ⟨has, fun path mem => unadded path ?_⟩
    simpa using mem
  · have before : ∀ line ∈ (lines.take (label + 3)).map EditedLine.kept,
        hasKeyword baseKeyword line.plain = false := by
      intro line mem
      obtain ⟨l, hl, rfl⟩ := List.mem_map.mp mem
      exact none l (List.mem_of_mem_take hl)
    -- The added line is the first `FDT` line, so both cuts of the lines are one.
    have same := findIdx?_append_cons (p := fun l : EditedLine => hasKeyword baseKeyword l.plain)
      earlier here back
    rw [whole, findIdx?_append_cons before (EditedLine.hasKeyword_plain_base path)] at same
    obtain ⟨rfl, rest⟩ := List.append_inj whole (Option.some.inj same).symm
    cases rest
    exact .inr ⟨none, path, label, .list :: back, known, place, rfl, by simpa using once⟩

/-- The lines of a completed configuration come from the old ones. -/
structure Completion (base : Except ε String) (lines : List String) (edited : List EditedLine) :
    Prop where
  old : edited.filterMap EditedLine.old? = lines
  base : BaseAdded base lines edited
  list : ListAdded lines edited

theorem exists_completion (h : completed base c = .ok complete) :
    ∃ edited, edited.map EditedLine.plain = complete.lines ∧ Completion base c.lines edited := by
  obtain ⟨based, added, added', first, second⟩ := completed_ok h
  obtain ⟨edited, plain, old, unlisted, baseAdded⟩ := exists_baseAdded first
  have lists : based.mentions overlaysKeyword = c.mentions overlaysKeyword := by
    rcases withBase_cases first with ⟨-, rfl⟩ | ⟨-, path, label, -, rfl⟩
    · rfl
    · rw [mentions_withLineAt, hasKeyword_deviceTreeLine_of_ne (by decide), Bool.false_or]
  rcases withOverlayLine_cases second with ⟨has, rfl⟩ | ⟨none, position, place, rfl⟩
  · exact ⟨edited, plain, old, baseAdded, .inl ⟨mentions_iff.mp (lists ▸ has), unlisted⟩⟩
  · obtain ⟨line, cut, earlier, here⟩ := exists_of_findIdx? place
    have whole : edited.map EditedLine.plain =
        based.lines.take position ++ line :: based.lines.drop (position + 1) := by
      have split := (List.take_append_drop (position + 1) based.lines).symm
      rw [cut, List.append_assoc] at split
      exact plain.trans split
    obtain ⟨front, rest, rfl, hfront, hrest⟩ := List.map_eq_append_iff.mp whole
    obtain ⟨first, back, rfl, rfl, hback⟩ := List.map_eq_cons_iff.mp hrest
    have before : ∀ l ∈ front, hasKeyword baseKeyword l.plain = false := by
      rw [← hfront, List.any_map] at earlier
      simpa using earlier
    refine ⟨front ++ first :: .list :: back, ?_, ?_, baseAdded.put before here,
      .inr ⟨mentions_eq_false_iff.mp (lists ▸ none), front, first, back, rfl, before, here,
        unlisted⟩⟩
    · rw [lines_withLineAt, cut, ← hfront, ← hback, ← EditedLine.plain_list]
      simp
    · rw [← old]
      simp only [List.filterMap_append, List.filterMap_cons, EditedLine.old?]

/-! ### How many lines have a keyword -/

theorem countP_withLineAt (c : BootConfig) (position : Nat) (line : String) (p : String → Bool) :
    (c.withLineAt position line).lines.countP p =
      c.lines.countP p + if p line = true then 1 else 0 := by
  have whole := congrArg (List.countP p) (List.take_append_drop position c.lines)
  rw [List.countP_append] at whole
  rw [lines_withLineAt, List.countP_append, List.countP_cons, ← whole]
  omega

theorem countP_of_mentions {keyword : String} (has : c.mentions keyword = true) :
    c.lines.countP (hasKeyword keyword) = max 1 (c.lines.countP (hasKeyword keyword)) := by
  have some : 0 < c.lines.countP (hasKeyword keyword) :=
    List.countP_pos_iff.mpr (mentions_iff.mp has)
  omega

theorem countP_of_not_mentions {keyword : String} (none : c.mentions keyword = false) :
    c.lines.countP (hasKeyword keyword) = 0 := by
  rw [List.countP_eq_zero]
  exact fun line mem here => absurd (mentions_eq_false_iff.mp none line mem ▸ here) (by decide)

theorem countP_withBase (h : withBase base c = .ok (based, added)) :
    based.lines.countP (hasKeyword baseKeyword) =
        max 1 (c.lines.countP (hasKeyword baseKeyword)) ∧
      based.lines.countP (hasKeyword overlaysKeyword) =
        c.lines.countP (hasKeyword overlaysKeyword) := by
  rcases withBase_cases h with ⟨has, rfl⟩ | ⟨none, path, label, -, rfl⟩
  · exact ⟨countP_of_mentions has, rfl⟩
  · rw [countP_withLineAt, countP_withLineAt, countP_of_not_mentions none,
      hasKeyword_deviceTreeLine, hasKeyword_deviceTreeLine_of_ne (by decide)]
    exact ⟨rfl, rfl⟩

theorem countP_withOverlayLine (h : c.withOverlayLine = .ok (complete, added)) :
    complete.lines.countP (hasKeyword baseKeyword) = c.lines.countP (hasKeyword baseKeyword) ∧
      complete.lines.countP (hasKeyword overlaysKeyword) =
        max 1 (c.lines.countP (hasKeyword overlaysKeyword)) := by
  rcases withOverlayLine_cases h with ⟨has, rfl⟩ | ⟨none, position, -, rfl⟩
  · exact ⟨rfl, countP_of_mentions has⟩
  · rw [countP_withLineAt, countP_withLineAt, countP_of_not_mentions none,
      hasKeyword_added_of_ne (by decide), hasKeyword_added]
    exact ⟨rfl, rfl⟩

theorem countP_of_completed (h : completed base c = .ok complete) :
    complete.lines.countP (hasKeyword baseKeyword) =
        max 1 (c.lines.countP (hasKeyword baseKeyword)) ∧
      complete.lines.countP (hasKeyword overlaysKeyword) =
        max 1 (c.lines.countP (hasKeyword overlaysKeyword)) := by
  obtain ⟨based, added, added', first, second⟩ := completed_ok h
  obtain ⟨bases, lists⟩ := countP_withBase first
  obtain ⟨bases', lists'⟩ := countP_withOverlayLine second
  rw [bases', lists', bases, lists]
  exact ⟨rfl, rfl⟩

theorem endsInNewline_of_completed (h : completed base c = .ok complete) :
    complete.endsInNewline = c.endsInNewline := by
  obtain ⟨based, added, added', first, second⟩ := completed_ok h
  have kept : complete.endsInNewline = based.endsInNewline := by
    rcases withOverlayLine_cases second with ⟨-, rfl⟩ | ⟨-, position, -, rfl⟩ <;> rfl
  rw [kept]
  rcases withBase_cases first with ⟨-, rfl⟩ | ⟨-, path, label, -, rfl⟩ <;> rfl

/-! ### The whole edit -/

/-- The number of lines with a keyword that are written. -/
def written (keyword : String) (paths : List String) (edited : List EditedLine) : Nat :=
  (edited.map (EditedLine.text paths)).countP (hasKeyword keyword)

theorem written_eq (keyword : String) (paths : List String) (edited : List EditedLine) :
    written keyword paths edited =
      (edited.map EditedLine.plain).countP (hasKeyword keyword) := by
  rw [written, List.countP_map, List.countP_map]
  exact List.countP_congr fun line _ => by
    simp only [Function.comp_apply, EditedLine.hasKeyword_text]

/-- A text is the rendering of edited lines, of which one or more have each keyword. -/
structure Effect (base : Except ε String) (paths : List String) (text result : String)
    (edited : List EditedLine) : Prop where
  lines : Completion base (parse text).lines edited
  bases : written baseKeyword paths edited =
    max 1 ((parse text).lines.countP (hasKeyword baseKeyword))
  lists : written overlaysKeyword paths edited =
    max 1 ((parse text).lines.countP (hasKeyword overlaysKeyword))
  rendered : result = String.intercalate "\n" (edited.map (EditedLine.text paths)) ++
    if text.toList.getLast? = some '\n' then "\n" else ""

theorem effect_of_completed (done : completed base (parse text) = .ok complete)
    (plain : edited.map EditedLine.plain = complete.lines)
    (completion : Completion base (parse text).lines edited) :
    Effect base paths text (complete.withOverlays paths).render edited := by
  obtain ⟨bases, lists⟩ := countP_of_completed done
  refine ⟨completion, ?_, ?_, ?_⟩
  · rw [written_eq, plain, bases]
  · rw [written_eq, plain, lists]
  · have texts : (complete.withOverlays paths).lines = edited.map (EditedLine.text paths) := by
      rw [withOverlays, ← plain, List.map_map]
      exact List.map_congr_left fun line _ => (EditedLine.text_eq paths line).symm
    have some : (complete.withOverlays paths).lines.isEmpty = false := by
      have has := (isComplete_of_completed done).1
      rw [mentions_iff] at has
      obtain ⟨line, mem, -⟩ := has
      simpa [withOverlays] using List.ne_nil_of_mem mem
    have ended : (complete.withOverlays paths).endsInNewline =
        (text.toList.getLast? == Option.some '\n') := endsInNewline_of_completed done
    rw [render, some, texts, ended]
    simp

theorem exists_effect (h : edit base paths text = .ok result) :
    ∃ edited, Effect base paths text result edited := by
  obtain ⟨complete, done, rfl⟩ := edit_eq_ok_iff.mp h
  obtain ⟨edited, plain, completion⟩ := exists_completion done
  exact ⟨edited, effect_of_completed done plain completion⟩

/-- The base device tree matters exactly when no line names one: only then does an edit that does
not know it fail for that, and otherwise all base device trees lead to one result. An edit fails
exactly as `Fails` says, so never for want of an `FDT` line; where it succeeds, its text has the
`Effect`. -/
theorem edit_exact (base : Except ε String) (paths : List String) (text : String) :
    (∀ cause : ε, edit (.error cause) paths text = .error (.base cause) ↔
      ∀ line ∈ (parse text).lines, hasKeyword baseKeyword line = false) ∧
    ((parse text).needsBase = true ↔
      ∀ line ∈ (parse text).lines, hasKeyword baseKeyword line = false) ∧
    ((∃ line ∈ (parse text).lines, hasKeyword baseKeyword line = true) →
      ∀ base' : Except ε String, edit base' paths text = edit base paths text) ∧
    (∀ e, edit base paths text = .error e ↔ Fails base (parse text).lines e) ∧
    edit base paths text ≠ .error (.anchor .noDeviceTreeLine) ∧
    ∀ result, edit base paths text = .ok result →
      ∃ edited, Effect base paths text result edited := by
  have fails : ∀ (base : Except ε String) (e : EditError ε),
      edit base paths text = .error e ↔ Fails base (parse text).lines e := fun base e =>
    edit_eq_error_iff_withBase.trans withBase_eq_error_iff
  refine ⟨fun cause => ?_, ?_, fun has base' => ?_, fails base, ?_, fun result => exists_effect⟩
  · rw [fails]
    exact ⟨fun failed => failed.1, fun none => ⟨none, .inl ⟨cause, rfl, rfl⟩⟩⟩
  · rw [needsBase, Bool.not_eq_true', mentions_eq_false_iff]
  · have based := withBase_of_mentions (ε := ε) (mentions_iff.mpr has)
    rw [edit_eq, edit_eq, completed, completed, based base, based base']
  · rw [ne_eq, fails]
    rintro ⟨-, ⟨_, -, other⟩ | ⟨-, -, other⟩⟩ <;> cases other

/-- The label is the last line, a comment and another word start like an `FDT` line, and the one
`OVERLAYS` line stands before the place where the `FDT` line is added. -/
theorem edit_exact_label_last : ∃ result edited,
    edit (.ok "/base.dtb" : Except Unit String) ["/a.dtbo", "/b.dtbo"]
      "# FDT\n FDTDIR /dtb\n\tOVERLAYS /old.dtbo\n MENU LABEL primary kernel" = .ok result ∧
    Effect (.ok "/base.dtb" : Except Unit String) ["/a.dtbo", "/b.dtbo"]
      "# FDT\n FDTDIR /dtb\n\tOVERLAYS /old.dtbo\n MENU LABEL primary kernel" result edited := by
  have done : ∃ result, edit (.ok "/base.dtb" : Except Unit String) ["/a.dtbo", "/b.dtbo"]
      "# FDT\n FDTDIR /dtb\n\tOVERLAYS /old.dtbo\n MENU LABEL primary kernel" = .ok result :=
    ⟨_, rfl⟩
  obtain ⟨result, done⟩ := done
  obtain ⟨edited, effect⟩ := (edit_exact _ _ _).2.2.2.2.2 result done
  exact ⟨result, edited, done, effect⟩

end CameraSetup.BootConfig
