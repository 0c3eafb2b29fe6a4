import CameraSetup.Proofs.BootConfig.Exact

/-! What comments do to an edit. No comment counts for a keyword, but a comment that holds the label
of the primary kernel entry counts for the label, so it can move the `FDT` line that an edit adds.
Main statement: `comments_inert_iff` says when two texts that differ in their comments alone are
edited alike. -/

namespace CameraSetup.BootConfig

variable {ε : Type} {base : Except ε String} {c c' d d' : BootConfig} {paths lines lines' : List String}
  {path line line' text text' : String}

/-! ### Lines with the same comments -/

/-- The lines are the same, or both are comments. -/
def SameLine (line line' : String) : Prop :=
  line = line' ∨ isComment line = true ∧ isComment line' = true

instance (line line' : String) : Decidable (SameLine line line') :=
  inferInstanceAs (Decidable (_ ∨ _))

theorem SameLine.refl (line : String) : SameLine line line := .inl rfl

theorem hasKeyword_of_isComment (comment : isComment line = true) (keyword : String) :
    hasKeyword keyword line = false := by
  unfold isComment at comment
  unfold hasKeyword
  split
  · rfl
  · next first word found =>
    rw [found, List.head?_cons, beq_iff_eq, Option.some.injEq] at comment
    simp [comment]

theorem SameLine.hasKeyword (h : SameLine line line') (keyword : String) :
    hasKeyword keyword line' = hasKeyword keyword line := by
  rcases h with rfl | ⟨comment, comment'⟩
  · rfl
  · rw [hasKeyword_of_isComment comment, hasKeyword_of_isComment comment']

theorem SameLine.eq_of_hasKeyword {keyword : String} (h : SameLine line line')
    (here : BootConfig.hasKeyword keyword line = true) : line' = line := by
  rcases h with rfl | ⟨comment, -⟩
  · rfl
  · rw [hasKeyword_of_isComment comment] at here
    cases here

theorem isComment_withoutReturn (line : String) :
    isComment (withoutReturn line) = isComment line := by
  have words : Text.firstWord (Text.withoutReturn line.toList) = Text.firstWord line.toList := by
    rcases Text.isReadAs_withoutReturn line.toList with same | ending
    · rw [same]
    · conv => rhs; rw [ending]
      rw [Text.firstWord_concat (by decide)]
  rw [isComment, isComment, withoutReturn, String.toList_ofList, words]

theorem SameLine.withoutReturn (h : SameLine line line') :
    SameLine (withoutReturn line) (withoutReturn line') := by
  rcases h with rfl | ⟨comment, comment'⟩
  · exact .refl _
  · exact .inr ⟨by rw [isComment_withoutReturn, comment], by rw [isComment_withoutReturn, comment']⟩

theorem findIdx?_eq_of_forall₂ {α : Type} {R : α → α → Prop} {p : α → Bool}
    (keeps : ∀ a a', R a a' → p a' = p a) {as as' : List α} (h : List.Forall₂ R as as') :
    as'.findIdx? p = as.findIdx? p := by
  induction h with
  | nil => rfl
  | cons first _ ih => rw [List.findIdx?_cons, List.findIdx?_cons, keeps _ _ first, ih]

theorem getLast?_of_forall₂ {α : Type} {R : α → α → Prop} {as as' : List α}
    (h : List.Forall₂ R as as') : List.Forall₂ R as.getLast?.toList as'.getLast?.toList := by
  induction h with
  | nil => exact .nil
  | cons first rest ih =>
    cases rest with
    | nil => exact .cons first .nil
    | cons _ _ =>
      rw [List.getLast?_cons_cons, List.getLast?_cons_cons]
      exact ih

/-! ### Configurations with the same comments -/

/-- The configurations have comments in the same places, and are the same in all others. -/
structure Alike (c c' : BootConfig) : Prop where
  lines : List.Forall₂ SameLine c.lines c'.lines
  ended : c'.endsInNewline = c.endsInNewline

namespace Alike

theorem mentions (h : Alike c c') (keyword : String) : c'.mentions keyword = c.mentions keyword :=
  any_eq_of_forall₂ (fun _ _ same => same.hasKeyword keyword) h.lines

theorem needsBase (h : Alike c c') : c'.needsBase = c.needsBase := by
  rw [BootConfig.needsBase, BootConfig.needsBase, h.mentions]

theorem withLineAt (h : Alike c c') (position : Nat) (line : String) :
    Alike (c.withLineAt position line) (c'.withLineAt position line) := by
  refine ⟨?_, h.ended⟩
  rw [lines_withLineAt, lines_withLineAt]
  exact List.rel_append (List.forall₂_take position h.lines)
    (.cons (.refl line) (List.forall₂_drop position h.lines))

theorem withOverlayLine (h : Alike c c') :
    SameOutcome (fun x y => Alike x.1 y.1) c.withOverlayLine c'.withOverlayLine := by
  unfold BootConfig.withOverlayLine
  rw [h.mentions, findIdx?_eq_of_forall₂ (fun _ _ same => same.hasKeyword _) h.lines]
  split
  · exact .ok h
  · generalize c.lines.findIdx? _ = first
    cases first with
    | none => exact .error _
    | some first => exact .ok (h.withLineAt _ _)

theorem withOverlays (h : Alike c c') (paths : List String) :
    Alike (c.withOverlays paths) (c'.withOverlays paths) := by
  refine ⟨?_, h.ended⟩
  rw [BootConfig.withOverlays, BootConfig.withOverlays, List.forall₂_map_left_iff,
    List.forall₂_map_right_iff]
  refine h.lines.imp fun line line' same => ?_
  rw [same.hasKeyword]
  split
  · next lists =>
    rw [same.eq_of_hasKeyword lists]
    exact .refl _
  · exact same

theorem parse_render (h : Alike c c') (writable : c.Writable) (writable' : c'.Writable) :
    Alike (parse c.render) (parse c'.render) := by
  have ended : List.Forall₂ SameLine c.endedLines c'.endedLines := by
    rw [endedLines, endedLines, h.ended]
    split
    · exact h.lines
    · rw [List.dropLast_eq_take, List.dropLast_eq_take, ← h.lines.length_eq]
      exact List.forall₂_take _ h.lines
  have last : List.Forall₂ SameLine c.openLine?.toList c'.openLine?.toList := by
    rw [openLine?, openLine?, h.ended]
    split
    · exact .nil
    · exact getLast?_of_forall₂ h.lines
  rw [parse_render_eq writable, parse_render_eq writable']
  refine ⟨List.rel_append ?_ last, h.ended⟩
  rw [List.forall₂_map_left_iff, List.forall₂_map_right_iff]
  exact ended.imp fun _ _ same => same.withoutReturn

end Alike

/-! ### Where the `FDT` line is put in -/

/-- The position behind the first line that is taken for the label and the lines of its entry that
follow. -/
def basePlace? (c : BootConfig) : Option Nat :=
  (c.lines.findIdx? isPrimaryLabel).map fun label => min (label + primaryTail + 1) c.lines.length

theorem withLineAt_min (c : BootConfig) (position : Nat) (line : String) :
    c.withLineAt (min position c.lines.length) line = c.withLineAt position line := by
  rw [withLineAt, withLineAt, Nat.min_assoc, Nat.min_self]

theorem withBase_eq_of_place (none : c.needsBase = true) (path : String) :
    withBase (.ok path : Except ε String) c = match c.basePlace? with
      | .none => .error (.anchor .noPrimaryEntry)
      | some position => .ok (c.withLineAt position (deviceTreeLine path), true) := by
  rw [needsBase, Bool.not_eq_true'] at none
  unfold basePlace?
  cases place : c.lines.findIdx? isPrimaryLabel with
  | none => exact withBase_of_no_label none place path
  | some label =>
    rw [withBase_of_label none place, Option.map_some]
    dsimp only
    rw [withLineAt_min]

/-- The place of the `FDT` line, if one is added, is the same. -/
def SamePlace (base : Except ε String) (c c' : BootConfig) : Prop :=
  c.needsBase = true → ∀ path, base = .ok path → c.basePlace? = c'.basePlace?

namespace Alike

theorem withBase (h : Alike c c') (same : SamePlace base c c') :
    SameOutcome (fun x y => Alike x.1 y.1) (withBase base c) (withBase base c') := by
  cases needs : c.needsBase with
  | false =>
    have needs' := h.needsBase.trans needs
    unfold BootConfig.withBase
    rw [needs, needs']
    exact .ok h
  | true =>
    have needs' := h.needsBase.trans needs
    cases base with
    | error cause =>
      unfold BootConfig.withBase
      rw [needs, needs']
      exact .error _
    | ok path =>
      rw [withBase_eq_of_place needs, withBase_eq_of_place needs', ← same needs path rfl]
      cases c.basePlace? with
      | none => exact .error _
      | some position => exact .ok (h.withLineAt position _)

theorem completed (h : Alike c c') (same : SamePlace base c c') :
    SameOutcome Alike (completed base c) (completed base c') := by
  refine (h.withBase same).bind fun x y based => ?_
  exact (based.withOverlayLine.mapError _).bind fun x y complete => .ok complete

end Alike

/-! ### Edited lines -/

/-- The lines come from lines that are the same or both comments, or both were added. -/
inductive SameEdited : EditedLine → EditedLine → Prop
  | kept {line line' : String} (same : SameLine line line') : SameEdited (.kept line) (.kept line')
  | base (path : String) : SameEdited (.base path) (.base path)
  | list : SameEdited .list .list

namespace Completion

variable {edited edited' : List EditedLine}

theorem keyword_of_base (h : Completion base lines edited) (mem : .base path ∈ edited) :
    lines.any (hasKeyword baseKeyword) = false := by
  rcases h.base with ⟨-, unadded⟩ | ⟨none, -⟩
  · exact absurd mem (unadded path)
  · simpa using none

theorem keyword_of_list (h : Completion base lines edited) (mem : .list ∈ edited) :
    lines.any (hasKeyword overlaysKeyword) = false := by
  rcases h.list with ⟨-, unadded⟩ | ⟨none, -⟩
  · exact absurd mem unadded
  · simpa using none

theorem keyword_of_kept {keyword : String} (h : Completion base lines edited)
    (mem : .kept line ∈ edited) (here : hasKeyword keyword line = true) :
    lines.any (hasKeyword keyword) = true := by
  have old : line ∈ lines := by
    rw [← h.old]
    exact List.mem_filterMap.mpr ⟨_, mem, rfl⟩
  exact List.any_eq_true.mpr ⟨line, old, here⟩

/-- No old line has the keyword of an added one, so that an added line can be told by it. -/
theorem sameEdited {line line' : EditedLine} (h : Completion base lines edited)
    (h' : Completion base lines' edited') (mem : line ∈ edited) (mem' : line' ∈ edited')
    (keeps : ∀ keyword, lines'.any (hasKeyword keyword) = lines.any (hasKeyword keyword))
    (same : SameLine line.plain line'.plain) : SameEdited line line' := by
  cases line with
  | kept old =>
    cases line' with
    | kept old' => exact .kept same
    | base path =>
      have here : hasKeyword baseKeyword old = true :=
        (same.hasKeyword baseKeyword).symm.trans (EditedLine.hasKeyword_plain_base path)
      have some := h.keyword_of_kept mem here
      rw [← keeps, h'.keyword_of_base mem'] at some
      cases some
    | list =>
      have here : hasKeyword overlaysKeyword old = true :=
        (same.hasKeyword overlaysKeyword).symm.trans hasKeyword_added
      have some := h.keyword_of_kept mem here
      rw [← keeps, h'.keyword_of_list mem'] at some
      cases some
  | base path =>
    have here := EditedLine.hasKeyword_plain_base path
    have equal := same.eq_of_hasKeyword here
    cases line' with
    | kept old' =>
      have some := h'.keyword_of_kept mem' ((same.hasKeyword baseKeyword).trans here)
      rw [keeps, h.keyword_of_base mem] at some
      cases some
    | base path' =>
      have paths : path' = path := by
        simpa [EditedLine.plain] using equal
      rw [paths]
      exact .base path
    | list =>
      have other := hasKeyword_unique here ((same.hasKeyword _).symm.trans hasKeyword_added)
      exact absurd other (by decide)
  | list =>
    cases line' with
    | kept old' =>
      have some := h'.keyword_of_kept mem' ((same.hasKeyword _).trans hasKeyword_added)
      rw [keeps, h.keyword_of_list mem] at some
      cases some
    | base path =>
      have here := (same.hasKeyword _).symm.trans (EditedLine.hasKeyword_plain_base path)
      exact absurd (hasKeyword_unique here hasKeyword_added) (by decide)
    | list => exact .list

theorem forall₂_sameEdited (h : Completion base lines edited)
    (h' : Completion base lines' edited') (alike : List.Forall₂ SameLine lines lines')
    (plain : List.Forall₂ SameLine (edited.map EditedLine.plain)
      (edited'.map EditedLine.plain)) : List.Forall₂ SameEdited edited edited' := by
  have keeps : ∀ keyword, lines'.any (hasKeyword keyword) = lines.any (hasKeyword keyword) :=
    fun keyword => any_eq_of_forall₂ (fun _ _ same => same.hasKeyword keyword) alike
  rw [List.forall₂_map_left_iff, List.forall₂_map_right_iff, List.forall₂_iff_zip] at plain
  obtain ⟨length, pairs⟩ := plain
  refine List.forall₂_iff_zip.mpr ⟨length, fun pair => ?_⟩
  obtain ⟨mem, mem'⟩ := List.of_mem_zip pair
  exact h.sameEdited h' mem mem' keeps (pairs pair)

end Completion

/-! ### The whole edit -/

/-- The new lines of two edits stand in the same places, and the texts are the same but for the
comments. -/
structure SameEdit (base : Except ε String) (paths : List String) (text text' result result' : String) :
    Prop where
  lines : ∃ edited edited', Effect base paths text result edited ∧
    Effect base paths text' result' edited' ∧ List.Forall₂ SameEdited edited edited'
  texts : Alike (parse result) (parse result')

theorem sameEdit_of_place (alike : Alike (parse text) (parse text'))
    (place : SamePlace base (parse text) (parse text'))
    (hbase : ∀ path, base = .ok path → IsInline path) (hpaths : ∀ path ∈ paths, IsInline path) :
    SameOutcome (SameEdit base paths text text') (edit base paths text)
      (edit base paths text') := by
  have run := alike.completed place
  rw [edit_eq, edit_eq]
  generalize done : completed base (parse text) = outcome at run ⊢
  generalize done' : completed base (parse text') = outcome' at run ⊢
  cases run with
  | error e => exact .error e
  | ok complete =>
    obtain ⟨edited, plain, completion⟩ := exists_completion done
    obtain ⟨edited', plain', completion'⟩ := exists_completion done'
    have writable := ((writable_parse text).completed (fun _ => hbase) done).withOverlays hpaths
    have writable' := ((writable_parse text').completed (fun _ => hbase) done').withOverlays hpaths
    have lines : List.Forall₂ SameEdited edited edited' := by
      refine completion.forall₂_sameEdited completion' alike.lines ?_
      rw [plain, plain']
      exact complete.lines
    exact .ok ⟨⟨edited, edited', effect_of_completed done plain completion,
      effect_of_completed done' plain' completion', lines⟩,
      (complete.withOverlays paths).parse_render writable writable'⟩

/-- The first line that was not there before is the `FDT` line, in its place. -/
theorem Effect.findIdx?_added {edited : List EditedLine} {result : String}
    (h : Effect base paths text result edited) (needs : (parse text).needsBase = true) :
    edited.findIdx? (fun line => line.old?.isNone) = (parse text).basePlace? := by
  rw [needsBase, Bool.not_eq_true', mentions_eq_false_iff] at needs
  rcases h.lines.base with ⟨⟨line, mem, here⟩, -⟩ | ⟨-, path, label, back, -, found, rfl, -⟩
  · rw [needs line mem] at here
    cases here
  · have kept : ∀ line ∈ ((parse text).lines.take (label + 3)).map EditedLine.kept,
        line.old?.isNone = false := by
      intro line mem
      obtain ⟨old, -, rfl⟩ := List.mem_map.mp mem
      rfl
    rw [findIdx?_append_cons kept rfl, basePlace?, found, List.length_map, List.length_take]
    rfl

theorem basePlace?_of_edit_error {e : EditError ε} (needs : (parse text).needsBase = true)
    (failed : edit (.ok path) paths text = .error e) : (parse text).basePlace? = none := by
  rw [edit_eq_error_iff_withBase, withBase_eq_of_place needs] at failed
  cases place : (parse text).basePlace? with
  | none => rfl
  | some position =>
    rw [place] at failed
    cases failed

theorem place_of_sameEdit
    (same : SameOutcome (SameEdit base paths text text') (edit base paths text)
      (edit base paths text')) (alike : Alike (parse text) (parse text')) :
    SamePlace base (parse text) (parse text') := by
  rintro needs path rfl
  have needs' := alike.needsBase.trans needs
  generalize run : edit (.ok path) paths text = outcome at same
  generalize run' : edit (.ok path) paths text' = outcome' at same
  cases same with
  | error e => rw [basePlace?_of_edit_error needs run, basePlace?_of_edit_error needs' run']
  | ok related =>
    obtain ⟨edited, edited', effect, effect', lines⟩ := related.lines
    rw [← effect.findIdx?_added needs, ← effect'.findIdx?_added needs']
    refine (findIdx?_eq_of_forall₂ (fun _ _ same => ?_) lines).symm
    cases same <;> rfl

/-- Comments without the label leave the first label where it is. -/
theorem Alike.basePlace?_eq (h : Alike c c')
    (unlabelled : ∀ line ∈ c.lines ++ c'.lines, isComment line = true →
      isPrimaryLabel line = false) : c.basePlace? = c'.basePlace? := by
  have keeps : List.Forall₂ (fun line line' => isPrimaryLabel line' = isPrimaryLabel line)
      c.lines c'.lines := by
    obtain ⟨length, pairs⟩ := List.forall₂_iff_zip.mp h.lines
    refine List.forall₂_iff_zip.mpr ⟨length, fun pair => ?_⟩
    obtain ⟨mem, mem'⟩ := List.of_mem_zip pair
    rcases pairs pair with rfl | ⟨comment, comment'⟩
    · rfl
    · rw [unlabelled _ (List.mem_append_left _ mem) comment,
        unlabelled _ (List.mem_append_right _ mem') comment']
  rw [basePlace?, basePlace?, findIdx?_eq_of_forall₂ (fun _ _ same => same) keeps,
    h.lines.length_eq]

/-- Two texts that are the same but for what their comments say need the base device tree alike, and
they are edited alike exactly if the `FDT` line, where one is added, has the same place in both. That
place depends on comments, for the line of the label is looked for among them too; if no comment
holds the label, the edits are alike. -/
theorem comments_inert_iff (alike : Alike (parse text) (parse text'))
    (hbase : ∀ path, base = .ok path → IsInline path) (hpaths : ∀ path ∈ paths, IsInline path) :
    (parse text').needsBase = (parse text).needsBase ∧
    (SameOutcome (SameEdit base paths text text') (edit base paths text) (edit base paths text') ↔
      ((parse text).needsBase = true → ∀ path, base = .ok path →
        (parse text).basePlace? = (parse text').basePlace?)) ∧
    ((∀ line ∈ (parse text).lines ++ (parse text').lines, isComment line = true →
        isPrimaryLabel line = false) →
      SameOutcome (SameEdit base paths text text') (edit base paths text)
        (edit base paths text')) := by
  refine ⟨alike.needsBase, ⟨fun same => place_of_sameEdit same alike,
    fun place => sameEdit_of_place alike place hbase hpaths⟩, fun unlabelled => ?_⟩
  have place := alike.basePlace?_eq unlabelled
  exact sameEdit_of_place alike (fun _ _ _ => place) hbase hpaths

/-- A boot configuration with a comment above its one entry, the primary kernel's. -/
def commented (comment : String) : String :=
  comment ++ "\nLABEL a\n MENU LABEL primary kernel\n LINUX /Image\n"

/-- The comments have the keywords of the two lines that are added. -/
theorem comments_inert_with_keywords : ∃ result result',
    edit (.ok "/base.dtb" : Except Unit String) ["/a.dtbo"] (commented "# FDT /old.dtb") =
      .ok result ∧
    edit (.ok "/base.dtb" : Except Unit String) ["/a.dtbo"] (commented "\t#OVERLAYS") =
      .ok result' ∧
    SameEdit (.ok "/base.dtb" : Except Unit String) ["/a.dtbo"] (commented "# FDT /old.dtb")
      (commented "\t#OVERLAYS") result result' := by
  have alike : Alike (parse (commented "# FDT /old.dtb")) (parse (commented "\t#OVERLAYS")) :=
    ⟨by decide +kernel, by decide +kernel⟩
  have hbase : ∀ path, (.ok "/base.dtb" : Except Unit String) = .ok path → IsInline path := by
    rintro path known
    cases known
    decide +kernel
  have hpaths : ∀ path ∈ ["/a.dtbo"], IsInline path := by decide +kernel
  have same := (comments_inert_iff alike hbase hpaths).2.2 (by decide +kernel)
  have done : ∃ result, edit (.ok "/base.dtb" : Except Unit String) ["/a.dtbo"]
      (commented "# FDT /old.dtb") = .ok result := ⟨_, rfl⟩
  obtain ⟨result, done⟩ := done
  rw [done] at same
  generalize edit _ _ (commented "\t#OVERLAYS") = outcome at same
  cases same with
  | ok related => exact ⟨result, _, done, rfl, related⟩

/-- The label in the comment moves the `FDT` line up, to a place that is counted from the comment. -/
theorem comment_moves_base_line :
    Alike (parse (commented "# MENU LABEL primary kernel")) (parse (commented "# boot options")) ∧
    IsInline "/base.dtb" ∧ IsInline "/a.dtbo" ∧
    edit (.ok "/base.dtb" : Except Unit String) ["/a.dtbo"]
        (commented "# MENU LABEL primary kernel") =
      .ok ("# MENU LABEL primary kernel\nLABEL a\n MENU LABEL primary kernel\n" ++
        "      FDT /base.dtb\n      OVERLAYS /a.dtbo\n LINUX /Image\n") ∧
    edit (.ok "/base.dtb" : Except Unit String) ["/a.dtbo"] (commented "# boot options") =
      .ok (commented "# boot options" ++ "      FDT /base.dtb\n      OVERLAYS /a.dtbo\n") ∧
    ¬ SameOutcome
      (SameEdit (.ok "/base.dtb" : Except Unit String) ["/a.dtbo"]
        (commented "# MENU LABEL primary kernel") (commented "# boot options"))
      (edit (.ok "/base.dtb" : Except Unit String) ["/a.dtbo"]
        (commented "# MENU LABEL primary kernel"))
      (edit (.ok "/base.dtb" : Except Unit String) ["/a.dtbo"] (commented "# boot options")) := by
  have alike : Alike (parse (commented "# MENU LABEL primary kernel"))
      (parse (commented "# boot options")) := ⟨by decide +kernel, by decide +kernel⟩
  refine ⟨alike, by decide +kernel, by decide +kernel, by decide +kernel, by decide +kernel,
    fun same => ?_⟩
  have place := place_of_sameEdit same alike (by decide +kernel) "/base.dtb" rfl
  revert place
  decide +kernel

end CameraSetup.BootConfig
