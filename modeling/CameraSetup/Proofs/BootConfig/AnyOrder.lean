import CameraSetup.Proofs.BootConfig.Exact

/-! The steps of an edit in any order, each as often as one likes, with those that fail. Whatever
they are, the configuration is read back from its text, its lines are those that were there, in
their order, with at most one `FDT` line and one `OVERLAYS` line more, and only lists are written
anew. -/

namespace CameraSetup.BootConfig

/-- A step of an edit, taken on its own. -/
inductive EditStep
  | addBase (path : String)
  | addList
  | setLists (paths : List String)
  deriving DecidableEq, Repr

/-- What a step comes to when it does not fail: whether it added a line, or how many lines it gave
the list. -/
inductive StepAnswer
  | added (done : Bool)
  | rewritten (count : Nat)
  deriving DecidableEq, Repr

/-- The keyword of the line that a step can add. -/
def EditStep.keyword? : EditStep → Option String
  | .addBase _ => some baseKeyword
  | .addList => some overlaysKeyword
  | .setLists _ => none

/-- The paths that a step writes. -/
def EditStep.paths : EditStep → List String
  | .addBase path => [path]
  | .addList => []
  | .setLists paths => paths

/-- What is left of a configuration, and the answer, when a line was to be added. One to which no
line can be added is left as it is. -/
def settled (c : BootConfig) (result : Except AnchorError (BootConfig × Bool)) :
    BootConfig × Except AnchorError StepAnswer :=
  match result with
  | .ok (next, added) => (next, .ok (.added added))
  | .error cause => (c, .error cause)

/-- What a step leaves, and what it answers. -/
def stepped (c : BootConfig) : EditStep → BootConfig × Except AnchorError StepAnswer
  | .addBase path => c.settled (c.withBaseLine path)
  | .addList => c.settled c.withOverlayLine
  | .setLists paths => (c.withOverlays paths, .ok (.rewritten c.overlayLineCount))

/-- What steps leave, one after the other. -/
def afterSteps (c : BootConfig) (steps : List EditStep) : BootConfig :=
  steps.foldl (fun c step => (c.stepped step).1) c

/-- How many of the steps add a line with a keyword. -/
def additions (keyword : String) (c : BootConfig) : List EditStep → Nat
  | [] => 0
  | step :: steps =>
    (if step.keyword? = some keyword ∧ (c.stepped step).2 = .ok (.added true) then 1 else 0) +
      additions keyword (c.stepped step).1 steps

variable {c c' first : BootConfig} {edited : List EditedLine} {step : EditStep} {line : String}

/-! ### One step -/

/-- What can come of a step. -/
inductive Stepped (c : BootConfig) :
    EditStep → BootConfig × Except AnchorError StepAnswer → Prop
  | noPrimaryEntry (path : String) (none : c.mentions baseKeyword = false)
      (unlabelled : c.lines.findIdx? isPrimaryLabel = .none) :
      Stepped c (.addBase path) (c, .error .noPrimaryEntry)
  | hasBase (path : String) (some : c.mentions baseKeyword = true) :
      Stepped c (.addBase path) (c, .ok (.added false))
  | addsBase (path : String) (none : c.mentions baseKeyword = false) (position : Nat) :
      Stepped c (.addBase path)
        (c.withLineAt position (EditedLine.base path).plain, .ok (.added true))
  | noDeviceTreeLine (none : c.mentions overlaysKeyword = false)
      (unbased : c.mentions baseKeyword = false) :
      Stepped c .addList (c, .error .noDeviceTreeLine)
  | hasList (some : c.mentions overlaysKeyword = true) :
      Stepped c .addList (c, .ok (.added false))
  | addsList (none : c.mentions overlaysKeyword = false) (position : Nat) :
      Stepped c .addList (c.withLineAt position EditedLine.list.plain, .ok (.added true))
  | setsLists (paths : List String) :
      Stepped c (.setLists paths) (c.withOverlays paths, .ok (.rewritten c.overlayLineCount))

theorem stepped_spec (c : BootConfig) (step : EditStep) : Stepped c step (c.stepped step) := by
  cases step with
  | addBase path =>
    cases has : c.mentions baseKeyword with
    | true =>
      rw [stepped, withBaseLine, if_pos has]
      exact .hasBase path has
    | false =>
      rw [stepped, withBaseLine, if_neg (by simp [has])]
      cases place : c.lines.findIdx? isPrimaryLabel with
      | none => exact .noPrimaryEntry path has place
      | some label => exact .addsBase path has _
  | addList =>
    cases has : c.mentions overlaysKeyword with
    | true =>
      rw [stepped, withOverlayLine, if_pos has]
      exact .hasList has
    | false =>
      rw [stepped, withOverlayLine, if_neg (by simp [has])]
      cases place : c.lines.findIdx? (hasKeyword baseKeyword) with
      | none =>
        refine .noDeviceTreeLine has (mentions_eq_false_iff.mpr ?_)
        exact List.findIdx?_eq_none_iff.mp place
      | some base => exact .addsList has _
  | setLists paths => exact .setsLists paths

theorem Readable.stepped (h : c.Readable) (inline : ∀ path ∈ step.paths, IsInline path) :
    (c.stepped step).1.Readable := by
  generalize hr : c.stepped step = result
  cases hr ▸ c.stepped_spec step with
  | noPrimaryEntry | hasBase | noDeviceTreeLine | hasList => exact h
  | addsBase path none position =>
    have written := isInline_deviceTreeLine (inline path List.mem_cons_self)
    exact h.withLineAt position (deviceTreeLine_ne_empty path) written.isLine
  | addsList none position =>
    have written : IsInline EditedLine.list.plain := by decide +kernel
    exact h.withLineAt position (by decide +kernel) written.isLine
  | setsLists paths => exact h.withOverlays inline

theorem Readable.afterSteps {steps : List EditStep} (h : c.Readable)
    (inline : ∀ step ∈ steps, ∀ path ∈ step.paths, IsInline path) :
    (c.afterSteps steps).Readable := by
  induction steps generalizing c with
  | nil => exact h
  | cons step steps ih =>
    exact ih (h.stepped (inline step List.mem_cons_self)) fun later mem =>
      inline later (List.mem_cons_of_mem step mem)

/-! ### Where the lines come from -/

/-- What a line can be after some steps: an `OVERLAYS` line can have a list. -/
def Becomes (line line' : String) : Prop :=
  line' = line ∨ ∃ paths, hasKeyword overlaysKeyword line = true ∧ line' = overlaysLine paths line

theorem Becomes.keyword_eq {line' : String} (h : Becomes line line') (keyword : String) :
    hasKeyword keyword line' = hasKeyword keyword line := by
  rcases h with rfl | ⟨paths, lists, rfl⟩
  · rfl
  · have relisted : Relisted paths line (overlaysLine paths line) := by
      rw [Relisted, if_pos lists]
    exact relisted.hasKeyword keyword

theorem Becomes.withList {line' : String} (h : Becomes line line') (paths : List String) :
    Becomes line
      (if hasKeyword overlaysKeyword line' then overlaysLine paths line' else line') := by
  split
  · next lists =>
    refine .inr ⟨paths, h.keyword_eq _ ▸ lists, ?_⟩
    rcases h with rfl | ⟨paths', -, rfl⟩
    · rfl
    · exact overlaysLine_overlaysLine paths paths' line
  · exact h

/-- The keyword of a line that was added. -/
def EditedLine.addedKeyword? : EditedLine → Option String
  | .kept _ => none
  | .base _ => some baseKeyword
  | .list => some overlaysKeyword

theorem EditedLine.hasKeyword_of_added {new : EditedLine} {keyword : String}
    (h : new.addedKeyword? = some keyword) : hasKeyword keyword new.plain = true := by
  cases new with
  | kept => cases h
  | base path =>
    cases h
    exact hasKeyword_plain_base path
  | list =>
    cases h
    exact hasKeyword_added

/-- How many lines with a keyword were added. -/
def addedCount (keyword : String) (edited : List EditedLine) : Nat :=
  edited.countP fun line => line.addedKeyword? = some keyword

/-- The lines of a later configuration are those of an earlier one in their order, with lists
written anew, and with at most one line more for a keyword that no line had. -/
structure Account (first c : BootConfig) (edited : List EditedLine) : Prop where
  kept : edited.filterMap EditedLine.old? = first.lines
  lines : List.Forall₂ Becomes (edited.map EditedLine.plain) c.lines
  once : ∀ keyword, addedCount keyword edited ≤ 1
  lacking : ∀ keyword, first.mentions keyword = true → addedCount keyword edited = 0

theorem addedCount_kept (keyword : String) (lines : List String) :
    addedCount keyword (lines.map .kept) = 0 := by
  rw [addedCount, List.countP_map, List.countP_eq_zero]
  intro line _
  simp [EditedLine.addedKeyword?]

theorem Account.refl (c : BootConfig) : Account c c (c.lines.map .kept) := by
  refine ⟨filterMap_old?_kept c.lines, ?_, fun keyword => ?_, fun keyword _ =>
    addedCount_kept keyword c.lines⟩
  · rw [map_plain_kept]
    exact List.forall₂_same.mpr fun line _ => .inl rfl
  · rw [addedCount_kept]
    exact Nat.zero_le 1

theorem Account.mentions_eq (h : Account first c edited) (keyword : String) :
    c.mentions keyword = (edited.map EditedLine.plain).any (hasKeyword keyword) :=
  any_eq_of_forall₂ (fun _ _ becomes => becomes.keyword_eq keyword) h.lines

/-- A keyword that no line has was in none of the earlier lines, and no line with it was added. -/
theorem Account.of_mentions_eq_false (h : Account first c edited) {keyword : String}
    (none : c.mentions keyword = false) :
    first.mentions keyword = false ∧ addedCount keyword edited = 0 := by
  rw [h.mentions_eq, List.any_map, List.any_eq_false] at none
  constructor
  · rw [mentions_eq_false_iff, ← h.kept]
    intro line mem
    obtain ⟨old, mem, same⟩ := List.mem_filterMap.mp mem
    cases old with
    | kept =>
      cases same
      exact Bool.eq_false_iff.mpr (none _ mem)
    | base | list => cases same
  · rw [addedCount, List.countP_eq_zero]
    intro new mem added
    exact none new mem (EditedLine.hasKeyword_of_added (by simpa using added))

/-- One more line, for a keyword that no line has. -/
theorem Account.put (h : Account first c edited) (new : EditedLine) {keyword : String}
    (added : new.addedKeyword? = some keyword) (none : c.mentions keyword = false)
    (position : Nat) :
    ∃ edited', Account first (c.withLineAt position new.plain) edited' ∧
      ∀ other, addedCount other edited' =
        (if keyword = other then 1 else 0) + addedCount other edited := by
  have unkept : new.old? = .none := by
    cases new with
    | kept => cases added
    | base | list => rfl
  have count : ∀ other, addedCount other (edited.take position ++ new :: edited.drop position) =
      (if keyword = other then 1 else 0) + addedCount other edited := by
    intro other
    have whole := congrArg (addedCount other) (List.take_append_drop position edited)
    simp only [addedCount, List.countP_append, List.countP_cons, added, Option.some.injEq,
      decide_eq_true_eq] at whole ⊢
    omega
  obtain ⟨lacked, unadded⟩ := h.of_mentions_eq_false none
  refine ⟨_, ⟨?_, ?_, fun other => ?_, fun other has => ?_⟩, count⟩
  · rw [List.filterMap_append, List.filterMap_cons_none unkept, ← List.filterMap_append,
      List.take_append_drop, h.kept]
  · rw [lines_withLineAt, List.map_append, List.map_cons, List.map_take, List.map_drop]
    exact List.rel_append (List.forall₂_take position h.lines)
      (.cons (.inl rfl) (List.forall₂_drop position h.lines))
  · have once := h.once other
    rw [count]
    split
    · next same => exact Nat.le_of_eq (by rw [← same, unadded])
    · rwa [Nat.zero_add]
  · rw [count, h.lacking other has, if_neg]
    rintro rfl
    rw [lacked] at has
    cases has

theorem Account.withOverlays (h : Account first c edited) (paths : List String) :
    Account first (c.withOverlays paths) edited := by
  refine ⟨h.kept, ?_, h.once, h.lacking⟩
  rw [BootConfig.withOverlays, List.forall₂_map_right_iff]
  exact h.lines.imp fun _ _ becomes => becomes.withList paths

theorem Account.stepped (h : Account first c edited) (step : EditStep) :
    ∃ edited', Account first (c.stepped step).1 edited' ∧ ∀ keyword, addedCount keyword edited' =
      (if step.keyword? = some keyword ∧ (c.stepped step).2 = .ok (.added true) then 1 else 0) +
        addedCount keyword edited := by
  generalize hr : c.stepped step = result
  cases hr ▸ c.stepped_spec step with
  | noPrimaryEntry | hasBase | noDeviceTreeLine | hasList => exact ⟨edited, h, by simp⟩
  | addsBase path none position =>
    simpa [EditStep.keyword?] using h.put (.base path) rfl none position
  | addsList none position => simpa [EditStep.keyword?] using h.put .list rfl none position
  | setsLists paths => exact ⟨edited, h.withOverlays paths, by simp⟩

theorem Account.afterSteps (h : Account first c edited) (steps : List EditStep) :
    ∃ edited', Account first (c.afterSteps steps) edited' ∧ ∀ keyword,
      addedCount keyword edited' = c.additions keyword steps + addedCount keyword edited := by
  induction steps generalizing c edited with
  | nil => exact ⟨edited, h, fun keyword => (Nat.zero_add _).symm⟩
  | cons step steps ih =>
    obtain ⟨between, account, one⟩ := h.stepped step
    obtain ⟨edited', account', more⟩ := ih account
    refine ⟨edited', account', fun keyword => ?_⟩
    rw [more, one, additions]
    omega

/-! ### Lines without a keyword -/

/-- Whether a line is neither an `FDT` line nor an `OVERLAYS` line. -/
def isOther (line : String) : Bool :=
  !hasKeyword baseKeyword line && !hasKeyword overlaysKeyword line

theorem isOther_plain_of_added {new : EditedLine} (added : new.old? = none) :
    isOther new.plain = false := by
  cases new with
  | kept => cases added
  | base path => simp [isOther, EditedLine.hasKeyword_plain_base]
  | list => decide +kernel

theorem filter_isOther_plain (edited : List EditedLine) :
    (edited.map EditedLine.plain).filter isOther =
      (edited.filterMap EditedLine.old?).filter isOther := by
  induction edited with
  | nil => rfl
  | cons new edited ih =>
    cases new with
    | kept line =>
      have old : (EditedLine.kept line).old? = some line := rfl
      rw [List.map_cons, List.filterMap_cons_some old, List.filter_cons, List.filter_cons, ih]
      rfl
    | base | list =>
      rw [List.map_cons, List.filterMap_cons_none rfl,
        List.filter_cons_of_neg (Bool.eq_false_iff.mp (isOther_plain_of_added rfl)), ih]

theorem filter_isOther_of_becomes {lines lines' : List String}
    (h : List.Forall₂ Becomes lines lines') : lines'.filter isOther = lines.filter isOther := by
  induction h with
  | nil => rfl
  | cons becomes _ ih =>
    rcases becomes with rfl | ⟨paths, lists, rfl⟩
    · rw [List.filter_cons, List.filter_cons, ih]
    · rw [List.filter_cons_of_neg (by simp [isOther, hasKeyword_overlaysLine]),
        List.filter_cons_of_neg (by simp [isOther, lists]), ih]

/-- The other lines keep their content and their order. -/
theorem Account.filter_isOther (h : Account first c edited) :
    c.lines.filter isOther = first.lines.filter isOther := by
  rw [filter_isOther_of_becomes h.lines, filter_isOther_plain, h.kept]

/-! ### All steps -/

theorem hasKeyword_of_mem_withOverlays {paths : List String}
    (mem : line ∈ (c.withOverlays paths).lines) (lists : hasKeyword overlaysKeyword line = true) :
    line = overlaysLine paths line := by
  obtain ⟨old, -, rfl⟩ := List.mem_map.mp mem
  by_cases has : hasKeyword overlaysKeyword old = true
  · rw [if_pos has, overlaysLine_overlaysLine]
  · rw [if_neg has] at lists
    exact absurd lists has

theorem overlayLineCount_withOverlays (c : BootConfig) (paths : List String) :
    (c.withOverlays paths).overlayLineCount = c.overlayLineCount := by
  rw [overlayLineCount, overlayLineCount, withOverlays, List.countP_map]
  refine List.countP_congr fun line _ => ?_
  rw [Function.comp_apply]
  split
  · next lists => rw [hasKeyword_overlaysLine, lists]
  · rfl

/-- What one more step does to a configuration. It fails or adds nothing only by leaving it as it
is, adds a line only for a keyword that no line has, and with lists, every `OVERLAYS` line gets the
list and is counted. -/
structure Sound (c : BootConfig) (step : EditStep)
    (result : BootConfig × Except AnchorError StepAnswer) : Prop where
  accounts : ∃ edited, Account c result.1 edited
  failed : ∀ cause, result.2 = .error cause → result.1 = c
  unadded : result.2 = .ok (.added false) → result.1 = c
  added : result.2 = .ok (.added true) → ∃ keyword, step.keyword? = some keyword ∧
    c.lines.countP (hasKeyword keyword) = 0 ∧ result.1.lines.countP (hasKeyword keyword) = 1
  listed : ∀ paths, step = .setLists paths →
    result.2 = .ok (.rewritten (result.1.lines.countP (hasKeyword overlaysKeyword))) ∧
    ∀ line ∈ result.1.lines, hasKeyword overlaysKeyword line = true →
      line = String.ofList (Text.indentation line.toList) ++ "OVERLAYS " ++
        String.intercalate "," paths

theorem sound_stepped (c : BootConfig) (step : EditStep) : Sound c step (c.stepped step) := by
  obtain ⟨edited, account, -⟩ := (Account.refl c).stepped step
  generalize hr : c.stepped step = result at account
  have accounts : ∃ edited, Account c result.1 edited := ⟨edited, account⟩
  cases hr ▸ c.stepped_spec step with
  | noPrimaryEntry | hasBase | noDeviceTreeLine | hasList =>
    exact ⟨accounts, fun _ _ => rfl, fun _ => rfl, nofun, nofun⟩
  | addsBase path none position =>
    refine ⟨accounts, nofun, nofun, fun _ => ⟨baseKeyword, rfl, countP_of_not_mentions none, ?_⟩,
      nofun⟩
    rw [countP_withLineAt, countP_of_not_mentions none, EditedLine.hasKeyword_plain_base]
    rfl
  | addsList none position =>
    refine ⟨accounts, nofun, nofun,
      fun _ => ⟨overlaysKeyword, rfl, countP_of_not_mentions none, ?_⟩, nofun⟩
    rw [countP_withLineAt, countP_of_not_mentions none, EditedLine.plain_list, hasKeyword_added]
    rfl
  | setsLists paths =>
    refine ⟨accounts, nofun, nofun, nofun, fun paths' same => ?_⟩
    cases same
    refine ⟨?_, fun line mem lists => ?_⟩
    · have count := c.overlayLineCount_withOverlays paths
      rw [overlayLineCount] at count
      rw [count]
    · have keyword : "OVERLAYS " = overlaysKeyword ++ " " := rfl
      have whole := hasKeyword_of_mem_withOverlays mem lists
      rw [keyword, ← String.append_assoc]
      exact whole

/-- Whatever steps are taken on a text without carriage returns at line ends, with paths that hold
no line end, the configuration is read back from its text. Over all of them at most one `FDT` line
and at most one `OVERLAYS` line is added and none is lost, and the lines with neither keyword keep
their content and their order. After them, each further step is sound. -/
theorem sound_after_steps (text : String)
    (uncarriaged : ∀ line ∈ (parse text).lines, line.toList.getLast? ≠ some '\r')
    (steps : List EditStep) (inline : ∀ step ∈ steps, ∀ path ∈ step.paths, IsInline path) :
    let c := (parse text).afterSteps steps
    parse c.render = c ∧
    (∃ edited, Account (parse text) c edited ∧
      ∀ keyword, addedCount keyword edited = (parse text).additions keyword steps) ∧
    (∀ keyword, (parse text).additions keyword steps ≤ 1) ∧
    c.lines.filter isOther = (parse text).lines.filter isOther ∧
    ∀ step, Sound c step (c.stepped step) := by
  intro c
  obtain ⟨edited, account, count⟩ := (Account.refl (parse text)).afterSteps steps
  have counted : ∀ keyword, addedCount keyword edited = (parse text).additions keyword steps := by
    intro keyword
    rw [count, addedCount_kept, Nat.add_zero]
  have readable : c.Readable := (readable_parse uncarriaged).afterSteps inline
  refine ⟨parse_render readable, ⟨edited, account, counted⟩, fun keyword => ?_,
    account.filter_isOther, c.sound_stepped⟩
  rw [← counted]
  exact account.once keyword

/-- Steps that come too early, one of them failing, and steps that come twice. -/
theorem sound_after_steps_out_of_order :
    let text := " MENU LABEL primary kernel"
    let steps : List EditStep := [.addList, .setLists ["/early.dtbo"], .addBase "/base.dtb",
      .addList, .addBase "/other.dtb", .setLists ["/a.dtbo", "/b.dtbo"]]
    let c := (parse text).afterSteps steps
    c.render = text ++ "\n      FDT /base.dtb\n      OVERLAYS /a.dtbo,/b.dtbo" ∧
      ((parse text).stepped .addList).2 = .error .noDeviceTreeLine ∧ parse c.render = c ∧
      (∃ edited, Account (parse text) c edited ∧ addedCount baseKeyword edited = 1) ∧
      Sound c (.addBase "/third.dtb") (c.stepped (.addBase "/third.dtb")) := by
  intro text steps c
  obtain ⟨read, ⟨edited, account, count⟩, -, -, further⟩ :=
    sound_after_steps text (by decide +kernel) steps (by decide +kernel)
  exact ⟨by decide +kernel, by decide +kernel, read,
    ⟨edited, account, (count baseKeyword).trans (by decide +kernel)⟩, further _⟩

end CameraSetup.BootConfig
