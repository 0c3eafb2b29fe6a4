/-! When a computation that can fail succeeds, and when it fails, and when two of them have the same
outcome. -/

namespace CameraSetup

variable {ε δ α β : Type}

theorem bind_eq_ok {x : Except ε α} {f : α → Except ε β} {b : β} :
    (x >>= f) = .ok b ↔ ∃ a, x = .ok a ∧ f a = .ok b := by
  cases x <;> simp [bind, Except.bind]

theorem pure_eq_ok {a b : α} : (pure a : Except ε α) = .ok b ↔ a = b := by
  simp [pure, Except.pure]

theorem throw_ne_ok {e : ε} {a : α} : (throw e : Except ε α) ≠ .ok a := nofun

theorem map_eq_ok {x : Except ε α} {f : α → β} {b : β} :
    x.map f = .ok b ↔ ∃ a, x = .ok a ∧ f a = b := by
  cases x <;> simp [Except.map]

theorem mapError_ok (f : ε → δ) (a : α) : (Except.ok a : Except ε α).mapError f = .ok a := rfl

theorem mapError_eq_ok {x : Except ε α} {f : ε → δ} {a : α} : x.mapError f = .ok a ↔ x = .ok a := by
  cases x with
  | error e => exact ⟨nofun, nofun⟩
  | ok b =>
    show Except.ok b = Except.ok a ↔ _
    rw [Except.ok.injEq, Except.ok.injEq]

theorem bind_eq_error {x : Except ε α} {f : α → Except ε β} {e : ε} :
    (x >>= f) = .error e ↔ x = .error e ∨ ∃ a, x = .ok a ∧ f a = .error e := by
  cases x <;> simp [bind, Except.bind]

theorem mapError_eq_error {x : Except ε α} {f : ε → δ} {d : δ} :
    x.mapError f = .error d ↔ ∃ e, x = .error e ∧ f e = d := by
  cases x with
  | error e =>
    show Except.error (f e) = Except.error d ↔ _
    simp
  | ok b =>
    show Except.ok b = Except.error d ↔ _
    simp

/-- Both computations fail with one error, or both succeed with results that are related. -/
inductive SameOutcome (R : α → β → Prop) : Except ε α → Except ε β → Prop
  | error (e : ε) : SameOutcome R (.error e) (.error e)
  | ok {a : α} {b : β} (related : R a b) : SameOutcome R (.ok a) (.ok b)

theorem SameOutcome.bind {α' β' : Type} {R : α → β → Prop} {S : α' → β' → Prop}
    {x : Except ε α} {y : Except ε β} {f : α → Except ε α'} {g : β → Except ε β'}
    (first : SameOutcome R x y) (next : ∀ a b, R a b → SameOutcome S (f a) (g b)) :
    SameOutcome S (x >>= f) (y >>= g) := by
  cases first with
  | error e => exact .error e
  | ok related => exact next _ _ related

theorem SameOutcome.mapError {R : α → β → Prop} {x : Except ε α} {y : Except ε β}
    (h : SameOutcome R x y) (f : ε → δ) : SameOutcome R (x.mapError f) (y.mapError f) := by
  cases h with
  | error e => exact .error (f e)
  | ok related => exact .ok related

/-- If the first computation succeeds the second does too, with a result that is related. -/
def SucceedsToo (R : α → β → Prop) (x : Except ε α) (y : Except ε β) : Prop :=
  ∀ a, x = .ok a → ∃ b, y = .ok b ∧ R a b

theorem SucceedsToo.of_error {R : α → β → Prop} {y : Except ε β} (e : ε) :
    SucceedsToo R (.error e) y := nofun

theorem SucceedsToo.of_ok {R : α → β → Prop} {a : α} {b : β} (related : R a b) :
    SucceedsToo R (.ok a : Except ε α) (.ok b) := by
  rintro _ ⟨⟩
  exact ⟨b, rfl, related⟩

theorem SucceedsToo.bind {α' β' : Type} {R : α → β → Prop} {S : α' → β' → Prop}
    {x : Except ε α} {y : Except ε β} {f : α → Except ε α'} {g : β → Except ε β'}
    (first : SucceedsToo R x y) (next : ∀ a b, R a b → SucceedsToo S (f a) (g b)) :
    SucceedsToo S (x >>= f) (y >>= g) := by
  intro a' succeeds
  obtain ⟨a, here, later⟩ := bind_eq_ok.mp succeeds
  obtain ⟨b, here', related⟩ := first a here
  obtain ⟨b', later', related'⟩ := next a b related a' later
  exact ⟨b', bind_eq_ok.mpr ⟨b, here', later'⟩, related'⟩

theorem SucceedsToo.foldlM {f g : β → α → Except ε β}
    (each : ∀ b a, SucceedsToo Eq (f b a) (g b a)) (xs : List α) (b : β) :
    SucceedsToo Eq (xs.foldlM f b) (xs.foldlM g b) := by
  induction xs generalizing b with
  | nil => exact .of_ok rfl
  | cons a xs ih =>
    rw [List.foldlM_cons, List.foldlM_cons]
    refine (each b a).bind ?_
    rintro b' _ rfl
    exact ih b'

end CameraSetup
