import CameraSetup.Options
import CameraSetup.Proofs.Except

/-! Dry runs on the command line. The flag for a dry run has one spelling, it is set exactly where
it stands among the arguments, and the other arguments are read as they would be without it. A flag
ends the values of the option before it, so the reading with the flag can be ahead: it has given
that option its values, while the reading without the flag still has to. -/

namespace CameraSetup.Options

variable {o : Options} {b : Bool}

/-- The options with or without a dry run. -/
def withDryRun (o : Options) (b : Bool) : Options := { o with dryRun := b }

theorem assign_withDryRun (o : Options) (b : Bool) (option : ValueOption) (values : List String) :
    (o.withDryRun b).assign option values = (o.assign option values).map (·.withDryRun b) := by
  cases values with
  | nil => cases option <;> rfl
  | cons value values =>
    cases option with
    | config =>
      have read : ∀ o : Options, o.assign .config (value :: values) =
          if o.config.isSome then .error .argumentConflict
          else if value.isEmpty then .error .invalidValue
          else .ok { o with config := some value } := fun _ => rfl
      have same : (o.withDryRun b).config = o.config := rfl
      rw [read, read, same]
      cases o.config.isSome <;> cases value.isEmpty <;> rfl
    | modules => rfl

theorem filter_of_not_mem {arguments : List String} {flag : String} (none : flag ∉ arguments) :
    arguments.filter (· ≠ flag) = arguments := by
  rw [List.filter_eq_self]
  intro other mem
  have : other ≠ flag := fun same => none (same ▸ mem)
  simpa using this

namespace Reading

variable {r r' s : Reading} {argument : String}

/-- The reading with or without a dry run among its options. -/
def withDryRun (r : Reading) (b : Bool) : Reading :=
  { r with options := r.options.withDryRun b }

/-! ### The flag and the other arguments -/

theorem settle_withDryRun (r : Reading) (b : Bool) :
    (r.withDryRun b).settle = r.settle.map (·.withDryRun b) := by
  unfold settle
  have same : (r.withDryRun b).pending = r.pending := rfl
  rw [same]
  split
  · rfl
  · next option values _ =>
    have assigned : (r.withDryRun b).options.assign option values =
        (r.options.assign option values).map (·.withDryRun b) := assign_withDryRun _ _ _ _
    rw [assigned]
    cases r.options.assign option values <;> rfl

theorem setFlag_withDryRun {flag : Flag} (other : flag ≠ .dryRun) (r : Reading) (b : Bool) :
    (r.withDryRun b).setFlag flag = (r.setFlag flag).map (·.withDryRun b) := by
  unfold setFlag
  rw [settle_withDryRun]
  cases r.settle with
  | error => rfl
  | ok s =>
    cases flag with
    | dryRun => exact absurd rfl other
    | help | version => rfl
    | list =>
      show (if s.options.list = true then _ else _) =
        Except.map _ (if s.options.list = true then _ else _)
      split <;> rfl

theorem attach_withDryRun (r : Reading) (b : Bool) (option : ValueOption) (value : String) :
    (r.withDryRun b).attach option value = (r.attach option value).map (·.withDryRun b) := by
  unfold attach
  rw [settle_withDryRun]
  cases r.settle with
  | error => rfl
  | ok s =>
    have assigned : (s.withDryRun b).options.assign option [value] =
        (s.options.assign option [value]).map (·.withDryRun b) := assign_withDryRun _ _ _ _
    show (s.withDryRun b).options.assign option [value] >>= _ = Except.map _
      (s.options.assign option [value] >>= _)
    rw [assigned]
    cases s.options.assign option [value] <;> rfl

theorem collect_withDryRun (r : Reading) (b : Bool) (option : ValueOption) :
    (r.withDryRun b).collect option = (r.collect option).map (·.withDryRun b) := by
  unfold collect
  rw [settle_withDryRun]
  cases r.settle <;> rfl

/-- Only the long name `dry-run` sets the flag. -/
theorem long?_ne {name : String} (other : name ≠ "dry-run") :
    long? name ≠ some (.flag .dryRun) := by
  unfold long?
  split <;> simp_all

theorem short?_ne (c : Char) : short? c ≠ some (.flag .dryRun) := by
  unfold short?
  split <;> simp

theorem longOption_withDryRun {name : String} {value : Option String}
    (other : name ≠ "dry-run" ∨ value.isSome = true) (r : Reading) (b : Bool) :
    (r.withDryRun b).longOption name value =
      (r.longOption name value).map (·.withDryRun b) := by
  unfold longOption
  split
  · rfl
  · rfl
  · next flag known =>
    have flagged : flag ≠ .dryRun := by
      rintro rfl
      exact long?_ne (other.resolve_right (by simp)) known
    exact setFlag_withDryRun flagged r b
  · exact attach_withDryRun r b _ _
  · exact collect_withDryRun r b _

theorem shortOptions_withDryRun (names : List Char) (r : Reading) (b : Bool) :
    (r.withDryRun b).shortOptions names = (r.shortOptions names).map (·.withDryRun b) := by
  induction names generalizing r with
  | nil => rfl
  | cons c rest ih =>
    unfold shortOptions
    split
    · rfl
    · next flag known =>
      have flagged : flag ≠ .dryRun := by
        rintro rfl
        exact short?_ne c known
      rw [setFlag_withDryRun flagged]
      cases r.setFlag flag with
      | error => rfl
      | ok s => exact ih s
    · split
      · exact collect_withDryRun r b _
      · exact attach_withDryRun r b _ _

theorem plainArgument_withDryRun (r : Reading) (b : Bool) (argument : String) :
    (r.withDryRun b).plainArgument argument = (r.plainArgument argument).map (·.withDryRun b) := by
  unfold plainArgument
  have same : (r.withDryRun b).collecting = r.collecting ∧ (r.withDryRun b).pending = r.pending :=
    ⟨rfl, rfl⟩
  rw [same.1, same.2]
  split <;> rfl

/-- An argument other than the flag is read in one way whether the flag is set or not. -/
theorem step_withDryRun (other : argument ≠ "--dry-run") (r : Reading) (b : Bool) :
    (r.withDryRun b).step argument = (r.step argument).map (·.withDryRun b) := by
  unfold step
  have same : (r.withDryRun b).ended = r.ended := rfl
  rw [same]
  split
  · rfl
  · split
    · rfl
    · next long _ text =>
      split
      · refine longOption_withDryRun (.inl ?_) r b
        rintro name
        have whole : argument.toList = "--dry-run".toList := by
          rw [text, ← String.toList_ofList (l := long), name]
          rfl
        exact other (String.toList_injective whole)
      · exact longOption_withDryRun (.inr rfl) r b
    · exact shortOptions_withDryRun _ r b
    · exact plainArgument_withDryRun r b argument

/-! ### Readings that have yet to give an option its values -/

theorem settle_of_pending (h : r.pending = Option.none) : r.settle = .ok r := by
  unfold settle
  rw [h]

theorem settle_eq_ok (h : r.settle = .ok s) : s.pending = Option.none ∧ s.ended = r.ended := by
  unfold settle at h
  split at h
  · next none =>
    cases h
    exact ⟨none, rfl⟩
  · next option values _ =>
    cases given : r.options.assign option values with
    | error =>
      rw [given] at h
      cases h
    | ok options =>
      rw [given] at h
      cases h
      exact ⟨rfl, rfl⟩

theorem settle_end (h : r.settle = .ok s) :
    settle { r with ended := true } = .ok { s with ended := true } := by
  unfold settle at h ⊢
  cases pending : r.pending with
  | none =>
    rw [pending] at h
    cases h
    simp only [pending]
  | some given =>
    rw [pending] at h
    simp only at h ⊢
    cases assigned : r.options.assign given.1 given.2 with
    | error =>
      rw [assigned] at h
      cases h
    | ok options =>
      rw [assigned] at h
      cases h
      rfl

theorem setFlag_of_settle (h : r.settle = .ok s) (flag : Flag) :
    r.setFlag flag = s.setFlag flag := by
  unfold setFlag
  rw [h, settle_of_pending (settle_eq_ok h).1]

theorem attach_of_settle (h : r.settle = .ok s) (option : ValueOption) (value : String) :
    r.attach option value = s.attach option value := by
  unfold attach
  rw [h, settle_of_pending (settle_eq_ok h).1]

theorem collect_of_settle (h : r.settle = .ok s) (option : ValueOption) :
    r.collect option = s.collect option := by
  unfold collect
  rw [h, settle_of_pending (settle_eq_ok h).1]

theorem longOption_of_settle (h : r.settle = .ok s) (name : String) (value : Option String) :
    r.longOption name value = s.longOption name value := by
  simp only [longOption, setFlag_of_settle h, attach_of_settle h, collect_of_settle h]

theorem shortOptions_of_settle (h : r.settle = .ok s) (c : Char) (rest : List Char) :
    r.shortOptions (c :: rest) = s.shortOptions (c :: rest) := by
  simp only [shortOptions, setFlag_of_settle h, attach_of_settle h, collect_of_settle h]

/-- Whatever an option's values were ended by, they are given before the next option is read. Only
the mark of the end leaves them where they are. -/
theorem step_of_settle (h : r.settle = .ok s) {s' : Reading} (read : s.step argument = .ok s') :
    r.step argument = .ok s' ∨ ∃ r', r.step argument = .ok r' ∧ r'.settle = .ok s' := by
  obtain ⟨none, same⟩ := settle_eq_ok h
  unfold step at read ⊢
  rw [← same]
  split at read
  · cases read
  · next open_ =>
    rw [if_neg open_]
    split at read
    · cases read
      exact .inr ⟨_, rfl, settle_end h⟩
    · split at read
      · exact .inl (longOption_of_settle h _ _ ▸ read)
      · exact .inl (longOption_of_settle h _ _ ▸ read)
    · exact .inl (shortOptions_of_settle h _ _ ▸ read)
    · unfold plainArgument at read
      rw [none] at read
      split at read <;> simp_all

/-! ### The flag itself -/

theorem withDryRun_self (h : r.options.dryRun = b) : r.withDryRun b = r := by
  subst h
  rfl

theorem dryRun_of_map {x : Except UsageError Reading} (h : x.map (·.withDryRun b) = .ok r) :
    r.options.dryRun = b := by
  cases x with
  | error => cases h
  | ok s =>
    cases h
    rfl

theorem dryRun_of_settle (unset : r.options.dryRun = b) (h : r.settle = .ok s) :
    s.options.dryRun = b := by
  rw [← withDryRun_self unset, settle_withDryRun] at h
  exact dryRun_of_map h

theorem dryRun_of_step (other : argument ≠ "--dry-run") (unset : r.options.dryRun = b)
    (h : r.step argument = .ok s) : s.options.dryRun = b := by
  rw [← withDryRun_self unset, step_withDryRun other] at h
  exact dryRun_of_map h

theorem step_flag (h : r.step "--dry-run" = .ok s) :
    ∃ settled, r.settle = .ok settled ∧ settled.options.dryRun = false ∧
      s = settled.withDryRun true := by
  have flag : r.step "--dry-run" =
      if r.ended then .error .unknownArgument else r.setFlag .dryRun := rfl
  rw [flag] at h
  split at h
  · cases h
  · obtain ⟨settled, first, set⟩ := bind_eq_ok.mp h
    refine ⟨settled, first, ?_⟩
    cases given : settled.options.dryRun with
    | true =>
      simp only [given, if_true] at set
      cases set
    | false =>
      simp only [given, Bool.false_eq_true, if_false] at set
      exact ⟨rfl, (pure_eq_ok.mp set).symm⟩

/-- The first reading has the flag, the second one not, and what sets them apart otherwise is at
most that the second one has yet to give an option its values. -/
inductive Follows : Reading → Reading → Prop
  | level (r : Reading) : Follows (r.withDryRun true) r
  | ahead {r s : Reading} (h : r.settle = .ok s) : Follows (s.withDryRun true) r

theorem Follows.dryRun (h : Follows r r') : r.options.dryRun = true := by
  cases h <;> rfl

theorem Follows.step (h : Follows r r') (read : r.step argument = .ok s) :
    argument ≠ "--dry-run" ∧ ∃ s', r'.step argument = .ok s' ∧ Follows s s' := by
  have other : argument ≠ "--dry-run" := by
    rintro rfl
    obtain ⟨settled, first, unset, -⟩ := step_flag read
    rw [dryRun_of_settle h.dryRun first] at unset
    cases unset
  refine ⟨other, ?_⟩
  cases h with
  | level r =>
    rw [step_withDryRun other] at read
    obtain ⟨next, plain, rfl⟩ := map_eq_ok.mp read
    exact ⟨next, plain, .level next⟩
  | @ahead _ settled h =>
    rw [step_withDryRun other] at read
    obtain ⟨next, plain, rfl⟩ := map_eq_ok.mp read
    rcases step_of_settle h plain with same | ⟨later, same, h'⟩
    · exact ⟨next, same, .level next⟩
    · exact ⟨later, same, .ahead h'⟩

theorem Follows.foldlM {arguments : List String} (h : Follows r r')
    (read : arguments.foldlM Reading.step r = .ok s) : "--dry-run" ∉ arguments ∧
      ∃ s', arguments.foldlM Reading.step r' = .ok s' ∧ Follows s s' := by
  induction arguments generalizing r r' with
  | nil =>
    cases pure_eq_ok.mp read
    exact ⟨List.not_mem_nil, r', rfl, h⟩
  | cons argument arguments ih =>
    rw [List.foldlM_cons] at read
    obtain ⟨next, first, rest⟩ := bind_eq_ok.mp read
    obtain ⟨other, next', first', follows⟩ := h.step first
    obtain ⟨none, s', rest', last⟩ := ih follows rest
    refine ⟨by simp [none, other.symm], s', ?_, last⟩
    rw [List.foldlM_cons]
    exact bind_eq_ok.mpr ⟨next', first', rest'⟩

theorem Follows.settle (h : Follows r r') (given : r.settle = .ok s) :
    ∃ s', r'.settle = .ok s' ∧ s = s'.withDryRun true := by
  cases h with
  | level r =>
    rw [settle_withDryRun] at given
    obtain ⟨next, plain, rfl⟩ := map_eq_ok.mp given
    exact ⟨next, plain, rfl⟩
  | @ahead _ settled h =>
    rw [settle_withDryRun, settle_of_pending (settle_eq_ok h).1] at given
    cases given
    exact ⟨settled, h, rfl⟩

/-- Without the flag nothing sets it; with it, the other arguments are read as without it. -/
theorem foldlM_flag {arguments : List String} (unset : r.options.dryRun = false)
    (read : arguments.foldlM Reading.step r = .ok s) :
    ("--dry-run" ∉ arguments ∧ s.options.dryRun = false) ∨
    ("--dry-run" ∈ arguments ∧ ∃ s',
      (arguments.filter (· ≠ "--dry-run")).foldlM Reading.step r = .ok s' ∧ Follows s s') := by
  induction arguments generalizing r with
  | nil =>
    cases pure_eq_ok.mp read
    exact .inl ⟨List.not_mem_nil, unset⟩
  | cons argument arguments ih =>
    rw [List.foldlM_cons] at read
    obtain ⟨next, first, rest⟩ := bind_eq_ok.mp read
    by_cases flag : argument = "--dry-run"
    · subst flag
      obtain ⟨settled, given, -, rfl⟩ := step_flag first
      -- The flag given twice is an error, so it is not among the arguments behind.
      obtain ⟨none, s', rest', follows⟩ := (Follows.ahead given).foldlM rest
      rw [List.filter_cons_of_neg (by simp), filter_of_not_mem none]
      exact .inr ⟨List.mem_cons_self, s', rest', follows⟩
    · rw [List.filter_cons_of_pos (by simpa using flag), List.foldlM_cons, first]
      rcases ih (dryRun_of_step flag unset first) rest with ⟨none, unset⟩ | ⟨some, others⟩
      · exact .inl ⟨by simp [none, Ne.symm flag], unset⟩
      · exact .inr ⟨List.mem_cons_of_mem _ some, others⟩

end Reading

theorem parse_eq_ok_iff {arguments : List String} : parse arguments = .ok o ↔
    ∃ reading settled, arguments.foldlM Reading.step ⟨none, .none, false, false⟩ = .ok reading ∧
      reading.settle = .ok settled ∧
      (settled.options.list && settled.options.modules.isSome) = false ∧ settled.options = o := by
  unfold parse
  constructor
  · intro h
    obtain ⟨reading, read, h⟩ := bind_eq_ok.mp h
    obtain ⟨settled, given, h⟩ := bind_eq_ok.mp h
    refine ⟨reading, settled, read, given, ?_⟩
    split at h
    · cases h
    · next apart => exact ⟨by simpa using apart, pure_eq_ok.mp h⟩
  · rintro ⟨reading, settled, read, given, apart, rfl⟩
    refine bind_eq_ok.mpr ⟨reading, read, bind_eq_ok.mpr ⟨settled, given, ?_⟩⟩
    simp only [apart]
    rfl

/-- The flag is set exactly where it is given, and the other arguments ask for the same without
it. -/
theorem parse_flag {arguments : List String} (h : parse arguments = .ok o) :
    (o.dryRun = true ↔ "--dry-run" ∈ arguments) ∧
      parse (arguments.filter (· ≠ "--dry-run")) = .ok (o.withDryRun false) := by
  obtain ⟨reading, settled, read, given, apart, rfl⟩ := parse_eq_ok_iff.mp h
  rcases Reading.foldlM_flag rfl read with ⟨none, unset⟩ | ⟨some, reading', read', follows⟩
  · have clear := Reading.dryRun_of_settle unset given
    have same : settled.options.withDryRun false = settled.options := by rw [withDryRun, ← clear]
    rw [filter_of_not_mem none, same, clear, h]
    exact ⟨⟨nofun, fun mem => absurd mem none⟩, rfl⟩
  · obtain ⟨settled', given', rfl⟩ := follows.settle given
    have unset : reading'.options.dryRun = false := by
      rcases Reading.foldlM_flag rfl read' with ⟨-, unset⟩ | ⟨mem, -⟩
      · exact unset
      · simp at mem
    have clear := Reading.dryRun_of_settle unset given'
    refine ⟨⟨fun _ => some, fun _ => rfl⟩, parse_eq_ok_iff.mpr
      ⟨reading', settled', read', given', apart, ?_⟩⟩
    show settled'.options = { settled'.options with dryRun := false }
    rw [← clear]

end CameraSetup.Options
