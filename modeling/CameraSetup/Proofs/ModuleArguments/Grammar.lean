import CameraSetup.Proofs.Descriptor.Grammar
import CameraSetup.Proofs.ModuleArguments.AnyOrder
import CameraSetup.Proofs.Text.Trimmed

/-! The grammar of module arguments. By the grammar the suffix of a sensor's argument directly
follows the descriptor, and white space may surround the whole. The suffix is cut off before that
white space is: so white space before the suffix is let pass, and white space behind it is not. All
other arguments are read as the grammar has them. Main statement: `selection_reads_grammar`. -/

namespace CameraSetup

namespace Text

theorem isAlphanum_of_toLower {c : Char} (h : c.toLower.isAlphanum = true) :
    c.isAlphanum = true := by
  unfold Char.toLower at h
  split at h
  · next upper =>
    have letter : c.isAlpha = true := Bool.or_eq_true_iff.mpr (.inl (decide_eq_true upper))
    exact Bool.or_eq_true_iff.mpr (.inl letter)
  · exact h

end Text

namespace ModuleArgument

open Descriptor (HasParts isWordOf_iff not_mem_of_isWordOf)

variable {argument descriptor : String} {arguments : List String} {s : Selection}
  {core core' before before' after after' start suffix tag kind id sensor port digits : List Char}
  {m : ModuleArgument}

/-! ### The suffix -/

/-- The suffix that asks for a link booster, in some case of letters. -/
def IsSuffix (suffix : List Char) : Prop := Text.sameIgnoringCase suffix boosterSuffix = true

/-- By the grammar the suffix directly follows a descriptor, white space around both aside. -/
def Follows (argument : String) (core : List Char) : Prop :=
  ∃ suffix, IsSuffix suffix ∧ Text.trim argument.toList = core ++ '-' :: suffix

/-- The suffix is cut off an argument as it is, and white space around the rest is of no account. -/
def IsCutOff (argument : String) (core : List Char) : Prop :=
  ∃ start suffix, IsSuffix suffix ∧ argument.toList = start ++ '-' :: suffix ∧
    core = Text.trim start

/-- How an argument is read, where `suffixed` tells what stands before the suffix of one that has
it. -/
inductive ReadBy (suffixed : String → List Char → Prop) (argument : String) : ModuleArgument → Prop
  | addOnBoard {tag kind : List Char} {id : BoardId}
    (parts : HasParts (Text.trim argument.toList) tag (.addOnBoard kind id.text.toList)) :
    ReadBy suffixed argument (.addOnBoard id)
  | plain {tag digits : List Char} {sensor port : String}
    (parts : HasParts (Text.trim argument.toList) tag
      (.sensorLane sensor.toList port.toList digits)) :
    ReadBy suffixed argument (.sensorModule port ⟨sensor, decimalValue digits, .absent⟩)
  | boosted {tag digits core : List Char} {sensor port : String}
    (suffix : suffixed argument core)
    (parts : HasParts core tag (.sensorLane sensor.toList port.toList digits)) :
    ReadBy suffixed argument (.sensorModule port ⟨sensor, decimalValue digits, .present⟩)

theorem IsSuffix.isAlphanum (h : IsSuffix suffix) : ∀ c ∈ suffix, c.isAlphanum = true := by
  intro c mem
  have inside : c.toLower ∈ suffix.map Char.toLower := List.mem_map_of_mem mem
  rw [Text.sameIgnoringCase_iff.mp h] at inside
  have all : (boosterSuffix.map Char.toLower).all Char.isAlphanum = true := by decide
  exact Text.isAlphanum_of_toLower (List.all_eq_true.mp all _ inside)

theorem IsSuffix.hyphen_not_mem (h : IsSuffix suffix) : '-' ∉ suffix := by
  intro mem
  exact absurd (h.isAlphanum '-' mem) (by decide)

theorem IsSuffix.ne_nil (h : IsSuffix suffix) : suffix ≠ [] := by
  rintro rfl
  cases h

theorem IsSuffix.isBlank_last (h : IsSuffix suffix) {c : Char} (last : suffix.getLast? = some c) :
    Text.isBlank c = false :=
  Text.isBlank_of_isAlphanum (h.isAlphanum c (List.mem_of_getLast? last))

theorem getLast?_append_suffix (h : IsSuffix suffix) (start : List Char) :
    (start ++ '-' :: suffix).getLast? = suffix.getLast? := by
  rw [List.append_cons, List.getLast?_append, List.getLast?_eq_some_getLast h.ne_nil, Option.some_or]

/-! ### Descriptors -/

theorem getLast?_of_hasParts (h : HasParts core tag (.sensorLane sensor port digits)) :
    core.getLast? = some 'e' := by
  have ends : core = (tag ++ ' ' :: (sensor ++ '-' :: (port ++ '-' :: digits))) ++
      ['L', 'a', 'n', 'e'] := by
    rw [h.split, Descriptor.Parts.body]
    simp
  rw [ends, List.getLast?_append]
  rfl

theorem isTrimmed_of_hasParts (h : HasParts core tag (.sensorLane sensor port digits)) :
    Text.IsTrimmed core := by
  obtain ⟨some, letters⟩ := isWordOf_iff.mp h.tagged
  refine ⟨?_, fun c first => ?_, fun c last => ?_⟩
  · rw [h.split]
    exact List.append_ne_nil_of_left_ne_nil some _
  · rw [h.split, List.head?_append_of_ne_nil _ some] at first
    exact Text.isBlank_of_isAlphanum (letters c (List.mem_of_head? first))
  · rw [getLast?_of_hasParts h] at last
    cases last
    decide

/-- A sensor's descriptor has two hyphens. -/
theorem count_of_sensorLane (h : HasParts core tag (.sensorLane sensor port digits)) :
    core.count '-' = 2 := by
  obtain ⟨hsensor, hport, hdigits, -⟩ := h.admitted
  have free : '-' ∉ tag ∧ '-' ∉ sensor ∧ '-' ∉ port ∧ '-' ∉ digits :=
    ⟨not_mem_of_isWordOf h.tagged (by decide), not_mem_of_isWordOf hsensor (by decide),
      not_mem_of_isWordOf hport (by decide), not_mem_of_isWordOf hdigits (by decide)⟩
  rw [h.split, Descriptor.Parts.body]
  simp [List.count_eq_zero.mpr free.1, List.count_eq_zero.mpr free.2.1,
    List.count_eq_zero.mpr free.2.2.1, List.count_eq_zero.mpr free.2.2.2]

/-- A board's descriptor has one hyphen. -/
theorem count_of_addOnBoard (h : HasParts core tag (.addOnBoard kind id)) :
    core.count '-' = 1 := by
  obtain ⟨hkind, hid⟩ := h.admitted
  have free : '-' ∉ tag ∧ '-' ∉ kind ∧ '-' ∉ id :=
    ⟨not_mem_of_isWordOf h.tagged (by decide), not_mem_of_isWordOf hkind (by decide),
      not_mem_of_isWordOf hid (by decide)⟩
  rw [h.split, Descriptor.Parts.body]
  simp [List.count_eq_zero.mpr free.1, List.count_eq_zero.mpr free.2.1,
    List.count_eq_zero.mpr free.2.2]

/-! ### How an argument is read -/

theorem withoutSuffix_eq_present_iff : withoutSuffix argument = (descriptor, .present) ↔
    ∃ suffix, IsSuffix suffix ∧ argument.toList = descriptor.toList ++ '-' :: suffix := by
  constructor
  · intro cut
    unfold withoutSuffix at cut
    split at cut
    · cases cut
    · next start suffix split =>
      split at cut
      · next same =>
        cases cut
        exact ⟨suffix, same, by simpa using (Text.cutLast?_eq_some_iff.mp split).1⟩
      · cases cut
  · rintro ⟨suffix, same, split⟩
    have cut := Text.cutLast?_eq_some_iff.mpr ⟨split, same.hyphen_not_mem⟩
    rw [IsSuffix] at same
    simp only [withoutSuffix, cut, same, if_true, String.ofList_toList]

theorem eq_of_withoutSuffix_absent (cut : withoutSuffix argument = (descriptor, .absent)) :
    descriptor = argument := by
  unfold withoutSuffix at cut
  split at cut
  · cases cut
    rfl
  · split at cut
    · cases cut
    · cases cut
      rfl

theorem withoutSuffix_of_hasParts
    (h : HasParts (Text.trim argument.toList) tag (.sensorLane sensor port digits)) :
    withoutSuffix argument = (argument, .absent) := by
  refine withoutSuffix_of_getLast? fun c last lower => ?_
  have letter : c.isAlphanum = true := by
    apply Text.isAlphanum_of_toLower
    rw [lower]
    decide
  have ending := Text.getLast?_trim last (Text.isBlank_of_isAlphanum letter)
  rw [getLast?_of_hasParts h] at ending
  cases ending
  exact absurd lower (by decide)

/-- With the suffix an argument has three hyphens, which is none of a board. -/
theorem parse?_ne_addOnBoard (cut : IsCutOff argument core)
    (h : HasParts core tag (.sensorLane sensor port digits)) (id : BoardId) :
    Descriptor.parse? argument ≠ some (.addOnBoard id) := by
  intro board
  obtain ⟨start, suffix, same, split, rfl⟩ := cut
  obtain ⟨tag, kind, parts⟩ := Descriptor.parse?_eq_addOnBoard_iff.mp board
  have one := count_of_addOnBoard parts
  have two := count_of_sensorLane h
  rw [Text.count_trim (by decide)] at one two
  rw [split, List.count_append, List.count_cons_self, two] at one
  omega

/-- An argument is read as its own descriptor tells, or as that before the suffix. -/
theorem parse?_eq_some_iff_readBy : parse? argument = some m ↔ ReadBy IsCutOff argument m := by
  constructor
  · intro parsed
    rw [parse?] at parsed
    split at parsed
    · next id board =>
      cases parsed
      obtain ⟨tag, kind, parts⟩ := Descriptor.parse?_eq_addOnBoard_iff.mp board
      exact .addOnBoard parts
    · cases cut : withoutSuffix argument with
      | mk descriptor linkBooster =>
        simp only [cut] at parsed
        split at parsed
        · next sensor port lanes read =>
          cases parsed
          obtain ⟨tag, digits, parts, rfl⟩ := Descriptor.parse?_eq_sensorLane_iff.mp read
          cases linkBooster with
          | absent =>
            obtain rfl := eq_of_withoutSuffix_absent cut
            exact .plain parts
          | present =>
            obtain ⟨suffix, same, split⟩ := withoutSuffix_eq_present_iff.mp cut
            exact .boosted ⟨_, suffix, same, split, rfl⟩ parts
        · cases parsed
  · intro read
    cases read with
    | addOnBoard parts => rw [parse?, Descriptor.parse?_eq_addOnBoard_iff.mpr ⟨_, _, parts⟩]
    | plain parts =>
      have read := Descriptor.parse?_eq_sensorLane_iff.mpr ⟨_, _, parts, rfl⟩
      refine parse?_of_sensorLane (fun id board => ?_) (withoutSuffix_of_hasParts parts) read
      cases read.symm.trans board
    | boosted cut parts =>
      have other := parse?_ne_addOnBoard cut parts
      obtain ⟨start, suffix, same, split, rfl⟩ := cut
      have before : withoutSuffix argument = (String.ofList start, .present) :=
        withoutSuffix_eq_present_iff.mpr ⟨suffix, same, by simpa using split⟩
      refine parse?_of_sensorLane other before (Descriptor.parse?_eq_sensorLane_iff.mpr ?_)
      exact ⟨_, _, by simpa using parts, rfl⟩

/-! ### White space around the suffix -/

/-- A descriptor and the suffix, with white space before and after the suffix. -/
def HasSuffix (argument : String) (core before after : List Char) : Prop :=
  ∃ front suffix, IsSuffix suffix ∧
    argument.toList = (front ++ (core ++ before)) ++ '-' :: (suffix ++ after) ∧
    (∀ c ∈ front, Text.isBlank c = true) ∧ (∀ c ∈ before, Text.isBlank c = true) ∧
    ∀ c ∈ after, Text.isBlank c = true

/-- A sensor's argument with white space on one side of the suffix and none on the other. -/
def IsLoose (argument : String) : Prop :=
  ∃ core tag sensor port digits before after,
    HasParts core tag (.sensorLane sensor port digits) ∧ HasSuffix argument core before after ∧
    ¬ (before = [] ↔ after = [])

theorem isCutOff_iff (h : Text.IsTrimmed core) :
    IsCutOff argument core ↔ ∃ before, HasSuffix argument core before [] := by
  constructor
  · rintro ⟨start, suffix, same, split, rfl⟩
    obtain ⟨front, back, whole, hfront, hback⟩ := Text.exists_append_trim start
    refine ⟨back, front, suffix, same, ?_, hfront, hback, by simp⟩
    rw [← whole, List.append_nil, split]
  · rintro ⟨before, front, suffix, same, split, hfront, hbefore, -⟩
    refine ⟨_, suffix, same, ?_, (Text.trim_append h hfront hbefore).symm⟩
    rw [split, List.append_nil]

theorem follows_iff (h : Text.IsTrimmed core) :
    Follows argument core ↔ ∃ after, HasSuffix argument core [] after := by
  constructor
  · rintro ⟨suffix, same, split⟩
    obtain ⟨front, back, whole, hfront, hback⟩ := Text.exists_append_trim argument.toList
    refine ⟨back, front, suffix, same, ?_, hfront, by simp, hback⟩
    rw [whole, split]
    simp
  · rintro ⟨after, front, suffix, same, split, hfront, -, hafter⟩
    have trimmed : Text.IsTrimmed (core ++ '-' :: suffix) := by
      refine ⟨by simp, fun c first => h.first c ?_, fun c last => same.isBlank_last ?_⟩
      · rwa [List.head?_append_of_ne_nil _ h.ne_nil] at first
      · rwa [getLast?_append_suffix same] at last
    refine ⟨suffix, same, ?_⟩
    have whole := Text.trim_append trimmed hfront hafter
    rw [split, ← whole]
    simp

theorem HasSuffix.count_hyphens (has : HasSuffix argument core before after)
    (parts : HasParts core tag (.sensorLane sensor port digits)) :
    argument.toList.count '-' = 3 := by
  obtain ⟨front, suffix, same, split, hfront, hbefore, hafter⟩ := has
  have absent : ∀ blanks : List Char, (∀ c ∈ blanks, Text.isBlank c = true) →
      blanks.count '-' = 0 :=
    fun blanks blank => List.count_eq_zero.mpr (Text.not_mem_of_blank (by decide) blank)
  simp [split, absent front hfront, absent before hbefore, absent after hafter,
    count_of_sensorLane parts, List.count_eq_zero.mpr same.hyphen_not_mem]

theorem cutLast?_of_suffix (same : IsSuffix suffix)
    (split : argument.toList = start ++ '-' :: (suffix ++ after))
    (blank : ∀ c ∈ after, Text.isBlank c = true) :
    Text.cutLast? '-' argument.toList = some (start, suffix ++ after) := by
  refine Text.cutLast?_eq_some_iff.mpr ⟨split, fun mem => ?_⟩
  rcases List.mem_append.mp mem with mem | mem
  · exact same.hyphen_not_mem mem
  · exact Text.not_mem_of_blank (by decide) blank mem

/-- The white space around the suffix is determined by the argument. -/
theorem HasSuffix.unique (h : Text.IsTrimmed core) (h' : Text.IsTrimmed core')
    (has : HasSuffix argument core before after) (has' : HasSuffix argument core' before' after') :
    before = before' ∧ after = after' := by
  obtain ⟨front, suffix, same, split, hfront, hbefore, hafter⟩ := has
  obtain ⟨front', suffix', same', split', hfront', hbefore', hafter'⟩ := has'
  -- Neither a suffix nor white space has a hyphen, so the last one cuts both ways alike.
  obtain ⟨starts, ends⟩ := Prod.mk.inj (Option.some.inj
    ((cutLast?_of_suffix same split hafter).symm.trans (cutLast?_of_suffix same' split' hafter')))
  constructor
  · have cores : core = core' := by
      rw [← Text.trim_append h hfront hbefore, starts, Text.trim_append h' hfront' hbefore']
    subst cores
    have first : ∀ back c, (core ++ back).head? = some c → Text.isBlank c = false := by
      intro back c first
      rw [List.head?_append_of_ne_nil _ h.ne_nil] at first
      exact h.first c first
    obtain ⟨-, behind⟩ :=
      Text.eq_of_append_word hfront hfront' (first before) (first before') starts
    exact List.append_cancel_left behind
  · have stop : ∀ blanks : List Char, (∀ c ∈ blanks, Text.isBlank c = true) →
        ∀ c, blanks.head? = some c → c.isAlphanum = false := by
      intro blanks blank c first
      refine Bool.eq_false_iff.mpr fun letter => ?_
      exact Text.not_mem_of_blank (Text.isBlank_of_isAlphanum letter) blank
        (List.mem_of_head? first)
    exact (Text.eq_of_append_word same.isAlphanum same'.isAlphanum (stop after hafter)
      (stop after' hafter') ends).2

/-- Without white space before its last hyphen and at its end an argument is not loose. -/
theorem not_isLoose_of_endsSolid (ends : (Text.cutLast? '-' argument.toList).all (fun cut =>
    Text.endsSolid cut.1 && Text.endsSolid cut.2) = true) : ¬ IsLoose argument := by
  rintro ⟨core, tag, sensor, port, digits, before, after, -, has, loose⟩
  obtain ⟨front, suffix, same, split, -, hbefore, hafter⟩ := has
  rw [cutLast?_of_suffix same split hafter, Option.all_some, Bool.and_eq_true,
    ← List.append_assoc] at ends
  exact loose ⟨fun _ => Text.eq_nil_of_endsSolid ends.2 hafter,
    fun _ => Text.eq_nil_of_endsSolid ends.1 hbefore⟩

theorem isCutOff_iff_follows (tight : ¬ IsLoose argument)
    (parts : HasParts core tag (.sensorLane sensor port digits)) :
    IsCutOff argument core ↔ Follows argument core := by
  have trimmed := isTrimmed_of_hasParts parts
  rw [isCutOff_iff trimmed, follows_iff trimmed]
  constructor
  · rintro ⟨before, has⟩
    have none : before = [] := by
      by_contra some
      exact tight ⟨_, _, _, _, _, _, _, parts, has, fun h => some (h.mpr rfl)⟩
    exact ⟨[], none ▸ has⟩
  · rintro ⟨after, has⟩
    have none : after = [] := by
      by_contra some
      exact tight ⟨_, _, _, _, _, _, _, parts, has, fun h => some (h.mp rfl)⟩
    exact ⟨[], none ▸ has⟩

theorem ReadBy.mono {suffixed suffixed' : String → List Char → Prop}
    (read : ReadBy suffixed argument m)
    (imp : ∀ {core tag sensor port digits}, HasParts core tag (.sensorLane sensor port digits) →
      suffixed argument core → suffixed' argument core) : ReadBy suffixed' argument m := by
  cases read with
  | addOnBoard parts => exact .addOnBoard parts
  | plain parts => exact .plain parts
  | boosted suffix parts => exact .boosted (imp parts suffix) parts

theorem readBy_isCutOff_iff (tight : ¬ IsLoose argument) :
    ReadBy IsCutOff argument m ↔ ReadBy Follows argument m :=
  ⟨fun read => read.mono fun parts => (isCutOff_iff_follows tight parts).mp,
    fun read => read.mono fun parts => (isCutOff_iff_follows tight parts).mpr⟩

/-- An argument with three hyphens has a reading only with the suffix behind a sensor's descriptor. -/
theorem ReadBy.exists_suffixed {suffixed : String → List Char → Prop}
    (read : ReadBy suffixed argument m) (hyphens : argument.toList.count '-' = 3) :
    ∃ core tag sensor port digits,
      suffixed argument core ∧ HasParts core tag (.sensorLane sensor port digits) := by
  rw [← Text.count_trim (by decide)] at hyphens
  cases read with
  | addOnBoard parts =>
    rw [count_of_addOnBoard parts] at hyphens
    cases hyphens
  | plain parts =>
    rw [count_of_sensorLane parts] at hyphens
    cases hyphens
  | boosted suffix parts => exact ⟨_, _, _, _, _, suffix, parts⟩

theorem exists_readBy {suffixed : String → List Char → Prop} (suffix : suffixed argument core)
    (parts : HasParts core tag (.sensorLane sensor port digits)) :
    ∃ m, ReadBy suffixed argument m := by
  have parts' : HasParts core tag (.sensorLane (String.ofList sensor).toList
    (String.ofList port).toList digits) := by simpa using parts
  exact ⟨_, .boosted suffix parts'⟩

/-- A loose argument has a reading in one way and none in the other. -/
theorem IsLoose.not_readBy_iff (h : IsLoose argument) :
    ¬ ((∃ m, ReadBy IsCutOff argument m) ↔ ∃ m, ReadBy Follows argument m) := by
  obtain ⟨core, tag, sensor, port, digits, before, after, parts, has, loose⟩ := h
  have trimmed := isTrimmed_of_hasParts parts
  -- Three hyphens leave only the reading with the suffix, and what is around it is determined.
  have hyphens := has.count_hyphens parts
  refine fun same => loose ⟨?_, ?_⟩
  · rintro rfl
    obtain ⟨m, read⟩ := same.mpr (exists_readBy ((follows_iff trimmed).mpr ⟨after, has⟩) parts)
    obtain ⟨core', _, _, _, _, cut, parts'⟩ := read.exists_suffixed hyphens
    have trimmed' := isTrimmed_of_hasParts parts'
    obtain ⟨before', has'⟩ := (isCutOff_iff trimmed').mp cut
    exact (has.unique trimmed trimmed' has').2
  · rintro rfl
    obtain ⟨m, read⟩ := same.mp (exists_readBy ((isCutOff_iff trimmed).mpr ⟨before, has⟩) parts)
    obtain ⟨core', _, _, _, _, follows, parts'⟩ := read.exists_suffixed hyphens
    have trimmed' := isTrimmed_of_hasParts parts'
    obtain ⟨after', has'⟩ := (follows_iff trimmed').mp follows
    exact (has.unique trimmed trimmed' has').1

/-! ### All arguments -/

theorem selection_eq_ok_iff_cutOff :
    selection arguments = .ok s ↔ Names (ReadBy IsCutOff) arguments s := by
  rw [selection_eq_ok_iff]
  exact ⟨fun named => named.mono fun _ _ _ => parse?_eq_some_iff_readBy.mp,
    fun named => named.mono fun _ _ _ => parse?_eq_some_iff_readBy.mpr⟩

theorem selection_eq_ok_iff_follows (tight : ∀ argument ∈ arguments, ¬ IsLoose argument) :
    selection arguments = .ok s ↔ Names (ReadBy Follows) arguments s := by
  rw [selection_eq_ok_iff_cutOff]
  exact ⟨fun named => named.mono fun a mem _ => (readBy_isCutOff_iff (tight a mem)).mp,
    fun named => named.mono fun a mem _ => (readBy_isCutOff_iff (tight a mem)).mpr⟩

theorem exists_error_iff : (∃ cause, selection arguments = .error cause) ↔
    ¬ ∃ s, selection arguments = .ok s := by
  cases selection arguments with
  | error cause => simp
  | ok s => simp

/-- Arguments with a loose one name no selection by both grammars. -/
theorem IsLoose.not_names (h : IsLoose argument) (mem : argument ∈ arguments) :
    ¬ (Names (ReadBy IsCutOff) arguments s ∧ Names (ReadBy Follows) arguments s) := by
  rintro ⟨cut, follows⟩
  exact h.not_readBy_iff (iff_of_true (cut.exists_tells argument mem)
    (follows.exists_tells argument mem))

theorem selection_follows_iff :
    (∀ s, selection arguments = .ok s ↔ Names (ReadBy Follows) arguments s) ↔
      (∀ argument ∈ arguments, ¬ IsLoose argument) ∨
      ∀ s, ¬ Names (ReadBy IsCutOff) arguments s ∧ ¬ Names (ReadBy Follows) arguments s := by
  constructor
  · intro follows
    by_contra! h
    obtain ⟨⟨argument, mem, loose⟩, s, named⟩ := h
    have same := selection_eq_ok_iff_cutOff.symm.trans (follows s)
    by_cases cut : Names (ReadBy IsCutOff) arguments s
    · exact loose.not_names mem ⟨cut, same.mp cut⟩
    · exact cut (same.mpr (named cut))
  · rintro (tight | none) s
    · exact selection_eq_ok_iff_follows tight
    · rw [selection_eq_ok_iff_cutOff]
      exact iff_of_false (none s).1 (none s).2

/-- Arguments are accepted exactly when they name a selection by the grammar in which the suffix is
cut off as it is, and the selection is the one that they name. It is the one that they name by the
grammar in which the suffix follows a descriptor directly exactly when no argument is loose, or the
arguments name none by either. With no loose argument, all that name none are refused. -/
theorem selection_reads_grammar (arguments : List String) :
    (∀ s, selection arguments = .ok s ↔ Names (ReadBy IsCutOff) arguments s) ∧
    ((∀ s, selection arguments = .ok s ↔ Names (ReadBy Follows) arguments s) ↔
      (∀ argument ∈ arguments, ¬ IsLoose argument) ∨
      ∀ s, ¬ Names (ReadBy IsCutOff) arguments s ∧ ¬ Names (ReadBy Follows) arguments s) ∧
    ((∀ argument ∈ arguments, ¬ IsLoose argument) →
      (∀ s, selection arguments = .ok s ↔ Names (ReadBy Follows) arguments s) ∧
      ((∃ cause, selection arguments = .error cause) ↔
        ¬ ∃ s, Names (ReadBy Follows) arguments s)) := by
  refine ⟨fun s => selection_eq_ok_iff_cutOff, selection_follows_iff, fun tight =>
    ⟨fun s => selection_eq_ok_iff_follows tight, ?_⟩⟩
  rw [exists_error_iff]
  simp only [selection_eq_ok_iff_follows tight]

/-- White space before an argument and the case of its suffix are of no account. A suffix that lacks
a letter is none. -/
theorem selection_reads_grammar_with_suffix :
    let named := [" x1 FPA-1.2", "x1 a-P0-4Lane-gMsL", "x1 b-P1-2Lane"]
    let refused := ["x1 FPA-1.2", "x1 a-P0-4Lane-GMS"]
    (∃ s, Names (ReadBy Follows) named s ∧ selection named = .ok s ∧ s.size = 2) ∧
    (∀ s, ¬ Names (ReadBy Follows) refused s) ∧
    selection refused = .error (.unrecognized "x1 a-P0-4Lane-GMS") := by
  intro named refused
  obtain ⟨-, -, grammar⟩ := selection_reads_grammar named
  obtain ⟨-, -, grammar'⟩ := selection_reads_grammar refused
  have ends : (named ++ refused).all (fun argument =>
      (Text.cutLast? '-' argument.toList).all fun cut =>
        Text.endsSolid cut.1 && Text.endsSolid cut.2) = true := by decide +kernel
  have tight : ∀ argument ∈ named ++ refused, ¬ IsLoose argument :=
    fun argument mem => not_isLoose_of_endsSolid (List.all_eq_true.mp ends argument mem)
  have refusal : selection refused = .error (.unrecognized "x1 a-P0-4Lane-GMS") := by
    decide +kernel
  have size : (selection named).toOption.map (·.size) = some 2 := by decide +kernel
  refine ⟨?_, fun s => ?_, refusal⟩
  · cases accepted : selection named with
    | error cause =>
      rw [accepted] at size
      cases size
    | ok s =>
      rw [accepted] at size
      have reading := (grammar fun a mem => tight a (List.mem_append_left _ mem)).1 s
      exact ⟨s, reading.mp accepted, rfl, Option.some.inj size⟩
  · rw [← (grammar' fun a mem => tight a (List.mem_append_right _ mem)).1 s, refusal]
    nofun

/-- White space behind the suffix makes an argument unknown that the grammar has, and white space
before it is let pass, which the grammar does not have. -/
theorem misread_around_suffix :
    let known := ["Framos FPA-1.2", "Framos imx900-P0-4Lane-GMSL "]
    let unknown := ["Framos FPA-1.2", "Framos imx900-P0-4Lane -GMSL"]
    let s : Selection := ⟨⟨"1.2"⟩, .ofList [("P0", ⟨"imx900", 4, .present⟩)]⟩
    (Names (ReadBy Follows) known s ∧
      selection known = .error (.unrecognized "Framos imx900-P0-4Lane-GMSL ")) ∧
    (∀ s', ¬ Names (ReadBy Follows) unknown s') ∧ selection unknown = .ok s := by
  intro known unknown s
  have board : Descriptor.parse? "Framos FPA-1.2" = some (.addOnBoard ⟨"1.2"⟩) := by decide +kernel
  have sensor : Descriptor.parse? "Framos imx900-P0-4Lane" = some (.sensorLane "imx900" "P0" 4) := by
    decide +kernel
  obtain ⟨_, _, boardParts⟩ := Descriptor.parse?_eq_addOnBoard_iff.mp board
  obtain ⟨_, digits, parts, lanes⟩ := Descriptor.parse?_eq_sensorLane_iff.mp sensor
  refine ⟨⟨?_, by decide +kernel⟩, ?_, by decide +kernel⟩
  · have follows : Follows "Framos imx900-P0-4Lane-GMSL "
        (Text.trim "Framos imx900-P0-4Lane".toList) :=
      ⟨['G', 'M', 'S', 'L'], by rw [IsSuffix]; decide, by decide +kernel⟩
    have read := ReadBy.boosted follows parts
    rw [lanes] at read
    exact ⟨_, .cons (.addOnBoard boardParts) (.cons read .nil), rfl, by simp [port?],
      List.pairwise_singleton _ _, .refl _⟩
  · rintro s' ⟨modules, told, -⟩
    obtain ⟨_, _, _, told, -⟩ := List.forall₂_cons_left_iff.mp told
    obtain ⟨_, _, read, -⟩ := List.forall₂_cons_left_iff.mp told
    obtain ⟨core, _, _, _, _, ⟨suffix, same, split⟩, parts⟩ :=
      read.exists_suffixed (by decide +kernel)
    have cut := Text.cutLast?_eq_some_iff.mpr ⟨split, same.hyphen_not_mem⟩
    have start : (Text.cutLast? '-' (Text.trim "Framos imx900-P0-4Lane -GMSL".toList)).map (·.1) =
        some "Framos imx900-P0-4Lane ".toList := by decide +kernel
    simp only [cut, Option.map_some, Option.some.injEq] at start
    have last := getLast?_of_hasParts parts
    rw [start] at last
    exact absurd last (by decide)

end ModuleArgument

end CameraSetup
