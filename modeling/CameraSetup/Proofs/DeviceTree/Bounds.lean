import CameraSetup.Proofs.DeviceTree.Traced
import Mathlib.Algebra.Order.Ring.Nat
import Mathlib.Data.List.Chain

/-! The bounds that decoding keeps on whatever octets there are: `traced_in_bounds`. A token takes at
least four octets that lie inside the blob, which bounds the passes through the loop, the cursor and
the count of open nodes; and a number that is read has four octets, which bounds all that is added to
a position. -/

namespace CameraSetup

namespace DeviceTree

/-- What may be done within a pass through a blob of some length. No pass begins there. -/
def Event.InBounds (length : Nat) : Event → Prop
  | .computed value => 0 ≤ value ∧ value ≤ length + 0x200000000
  | .sliced start stop => start ≤ stop ∧ stop ≤ length
  | .moved position => position ≤ length + 3
  | .passed _ => False

namespace Traced

variable {α β : Type} {blob : List UInt8} {x : Traced α} {next : α → Traced β} {Q Q' : α → Prop}
  {R : β → Prop}

theorem mem_events_bind {e : Event} (h : e ∈ (x >>= next).events) :
    e ∈ x.events ∨ ∃ a, x.outcome = .ok a ∧ e ∈ (next a).events := by
  obtain ⟨outcome, events⟩ := x
  cases outcome with
  | error e => exact .inl h
  | ok a =>
    rcases List.mem_append.mp h with h | h
    · exact .inl h
    · exact .inr ⟨a, rfl, h⟩

/-- All that is done keeps the bounds, and the result, if there is one, is as said. -/
structure Meets (blob : List UInt8) (x : Traced α) (Q : α → Prop) : Prop where
  events : ∀ e ∈ x.events, e.InBounds blob.length
  outcome : ∀ a, x.outcome = .ok a → Q a

theorem meets_pure {a : α} (h : Q a) : Meets blob (pure a) Q where
  events := nofun
  outcome _ here := by
    cases here
    exact h

theorem meets_refuse (e : FormatError) : Meets blob (refuse e) Q := ⟨nofun, nofun⟩

theorem Meets.bind (first : Meets blob x Q) (later : ∀ a, Q a → Meets blob (next a) R) :
    Meets blob (x >>= next) R where
  events e mem := by
    rcases mem_events_bind mem with mem | ⟨a, here, mem⟩
    · exact first.events e mem
    · exact (later a (first.outcome a here)).events e mem
  outcome b here := by
    rw [outcome_bind] at here
    obtain ⟨a, here, there⟩ := bind_eq_ok.mp here
    exact (later a (first.outcome a here)).outcome b there

theorem Meets.mono (h : Meets blob x Q) (weaker : ∀ a, Q a → Q' a) : Meets blob x Q' where
  events := h.events
  outcome a here := weaker a (h.outcome a here)

theorem Meets.ite {x' : Traced α} {p : Prop} [Decidable p] (holds : p → Meets blob x Q)
    (fails : ¬ p → Meets blob x' Q) : Meets blob (if p then x else x') Q := by
  split
  · exact holds ‹_›
  · exact fails ‹_›

/-! ### One thing done -/

theorem meets_compute {value : Int} (positive : 0 ≤ value)
    (small : value ≤ blob.length + 0x200000000) :
    Meets blob (compute value) fun n => n = value.toNat where
  events _ mem := by
    cases List.mem_singleton.mp mem
    exact ⟨positive, small⟩
  outcome _ here := by
    cases here
    rfl

theorem meets_slice {start stop : Nat} (forward : start ≤ stop) (inside : stop ≤ blob.length) :
    Meets blob (slice blob start stop) fun bytes => bytes.length = stop - start where
  events _ mem := by
    cases List.mem_singleton.mp mem
    exact ⟨forward, inside⟩
  outcome _ here := by
    cases here
    rw [List.length_take, List.length_drop]
    omega

theorem meets_moveTo {position : Nat} (inside : position ≤ blob.length + 3) :
    Meets blob (moveTo position) fun p => p = position where
  events _ mem := by
    cases List.mem_singleton.mp mem
    exact inside
  outcome _ here := by
    cases here
    rfl

/-! ### Tokens -/

theorem meets_octets {position count : Nat}
    (small : position + count ≤ blob.length + 0x200000000) :
    Meets blob (octets blob position count) fun (bytes, next) =>
      bytes.length = count ∧ next = position + count ∧ next ≤ blob.length := by
  refine (meets_compute (by omega) (by omega)).bind ?_
  rintro stop rfl
  refine .ite (fun _ => meets_refuse _) fun inside => ?_
  refine (meets_slice (by omega) (by omega)).bind fun bytes whole => ?_
  refine (meets_moveTo (by omega)).bind ?_
  rintro next rfl
  exact meets_pure ⟨by omega, by omega, by omega⟩

theorem foldl_lt (bytes : List UInt8) (n : Nat) :
    bytes.foldl (fun n b => 256 * n + b.toNat) n < (n + 1) * 256 ^ bytes.length := by
  induction bytes generalizing n with
  | nil => simp
  | cons b bytes ih =>
    have low := b.toNat_lt
    calc
      bytes.foldl (fun n b => 256 * n + b.toNat) (256 * n + b.toNat)
        < (256 * n + b.toNat + 1) * 256 ^ bytes.length := ih _
      _ ≤ ((n + 1) * 256) * 256 ^ bytes.length := Nat.mul_le_mul_right _ (by omega)
      _ = (n + 1) * 256 ^ (bytes.length + 1) := by rw [Nat.mul_assoc, Nat.pow_succ']

theorem meets_number {position : Nat} (small : position ≤ blob.length + 0x100000000) :
    Meets blob (number blob position) fun (value, next) =>
      value < 0x100000000 ∧ next = position + 4 ∧ next ≤ blob.length := by
  refine (meets_octets (by omega)).bind ?_
  rintro ⟨bytes, next⟩ ⟨four, here, inside⟩
  have value := foldl_lt bytes 0
  rw [four] at value
  exact meets_pure ⟨value, here, inside⟩

theorem meets_tail {position : Nat} (inside : position ≤ blob.length) :
    Meets blob (tail blob position) fun rest => rest.length = blob.length - position := by
  rw [tail, if_pos inside]
  exact meets_slice inside (Nat.le_refl _)

theorem meets_skipName {position : Nat} (inside : position ≤ blob.length) :
    Meets blob (skipName blob position) fun next => position ≤ next ∧ next ≤ blob.length := by
  refine (meets_tail inside).bind fun rest whole => ?_
  dsimp only
  split
  · exact meets_refuse _
  · next length ended =>
    have within : length < rest.length :=
      (List.findIdx?_eq_some_iff_findIdx_eq.mp ended).1
    refine (meets_octets (by omega)).bind ?_
    rintro ⟨bytes, stop⟩ ⟨-, here, -⟩
    refine (meets_compute (by omega) (by omega)).bind ?_
    rintro next rfl
    refine (meets_moveTo (by omega)).mono ?_
    rintro _ rfl
    exact ⟨by omega, by omega⟩

theorem meets_align {position : Nat} (inside : position ≤ blob.length) :
    Meets blob (align position) fun next => position ≤ next ∧ next ≤ blob.length + 3 := by
  refine (meets_compute (by omega) (by omega)).bind ?_
  rintro next rfl
  refine (meets_moveTo (by omega)).mono ?_
  rintro _ rfl
  exact ⟨by omega, by omega⟩

theorem meets_token {position : Nat} (small : position ≤ blob.length + 0x100000000) :
    Meets blob (token blob position) fun (_, next) =>
      position + 4 ≤ blob.length ∧ position + 4 ≤ next ∧ next ≤ blob.length + 3 := by
  refine (meets_number small).bind ?_
  rintro ⟨kind, behind⟩ ⟨-, rfl, inside⟩
  dsimp only
  split
  · refine (meets_skipName inside).bind fun stop ⟨further, inside'⟩ => ?_
    refine (meets_align inside').bind fun next ⟨aligned, near⟩ => ?_
    exact meets_pure ⟨inside, by omega, near⟩
  · exact meets_pure ⟨inside, Nat.le_refl _, by omega⟩
  · refine (meets_number (by omega)).bind ?_
    rintro ⟨length, _⟩ ⟨low, rfl, inside₁⟩
    refine (meets_number (by omega)).bind ?_
    rintro ⟨nameOffset, _⟩ ⟨-, rfl, inside₂⟩
    refine (meets_octets (by omega)).bind ?_
    rintro ⟨value, stop⟩ ⟨-, rfl, inside₃⟩
    refine (meets_align inside₃).bind fun next ⟨aligned, near⟩ => ?_
    exact meets_pure ⟨inside, by omega, near⟩
  · exact meets_pure ⟨inside, Nat.le_refl _, by omega⟩
  · exact meets_pure ⟨inside, Nat.le_refl _, by omega⟩
  · refine (meets_compute (by omega) (by omega)).bind fun offset _ => ?_
    exact meets_refuse _

/-! ### Names and the header -/

theorem meets_nameAt {stringsOffset : Nat} (offset : Nat) (inside : stringsOffset ≤ blob.length) :
    Meets blob (nameAt blob stringsOffset offset) fun _ => True := by
  refine .ite (fun _ => meets_refuse _) fun found => ?_
  refine (meets_slice (by omega) (Nat.le_refl _)).bind fun rest whole => ?_
  split
  · exact meets_refuse _
  · next length ended =>
    have within : length < rest.length :=
      (List.findIdx?_eq_some_iff_findIdx_eq.mp ended).1
    refine (meets_slice (by omega) (by omega)).bind fun octets _ => ?_
    split
    · exact meets_refuse _
    · exact meets_pure trivial

theorem meets_header (blob : List UInt8) :
    Meets blob (header blob) fun offsets => offsets.structureOffset < 0x100000000 := by
  refine .ite (fun _ => meets_refuse _) fun _ => ?_
  refine (meets_number (by omega)).bind ?_
  rintro ⟨magic, _⟩ ⟨-, rfl, inside₁⟩
  refine .ite (fun _ => meets_refuse _) fun _ => ?_
  refine (meets_number (by omega)).bind ?_
  rintro ⟨size, _⟩ ⟨-, rfl, inside₂⟩
  refine .ite (fun _ => meets_refuse _) fun _ => ?_
  refine (meets_number (by omega)).bind ?_
  rintro ⟨structureOffset, _⟩ ⟨low, rfl, inside₃⟩
  refine (meets_number (by omega)).bind ?_
  rintro ⟨stringsOffset, _⟩ -
  exact meets_pure low

/-! ### Passes -/

/-- All that is done keeps the bounds, but for the passes that begin. Each begins at least four octets
behind the one before, none but the first lies far outside, and there are no more than fit. -/
structure Orderly (blob : List UInt8) (x : Traced α) : Prop where
  events : ∀ e ∈ x.events, e.InBounds blob.length ∨ ∃ position, e = .passed position
  spaced : x.passes.IsChain fun here next => here + 4 ≤ next
  near : ∀ position ∈ x.passes.tail, position ≤ blob.length + 3
  few : x.passes.length ≤ blob.length / 4 + 1

theorem Meets.passes_eq_nil (h : Meets blob x Q) : x.passes = [] := by
  rw [passes, List.filterMap_eq_nil_iff]
  intro e mem
  cases e with
  | passed position => exact (h.events _ mem).elim
  | _ => rfl

theorem Meets.orderly (h : Meets blob x Q) : Orderly blob x where
  events e mem := .inl (h.events e mem)
  spaced := by
    rw [h.passes_eq_nil]
    exact .nil
  near := by
    rw [h.passes_eq_nil]
    exact nofun
  few := by
    rw [h.passes_eq_nil]
    exact Nat.zero_le _

theorem Meets.bind_orderly (first : Meets blob x Q) (later : ∀ a, Q a → Orderly blob (next a)) :
    Orderly blob (x >>= next) := by
  have none := first.passes_eq_nil
  have here := first.outcome
  obtain ⟨outcome, events⟩ := x
  cases outcome with
  | error e => exact Meets.orderly (Q := fun _ => True) ⟨first.events, nofun⟩
  | ok a =>
    have same : Traced.passes (⟨.ok a, events⟩ >>= next) = (next a).passes := by
      show (events ++ (next a).events).filterMap _ = _
      rw [List.filterMap_append]
      exact congrArg (· ++ _) none
    have rest := later a (here a rfl)
    refine ⟨fun e mem => ?_, same ▸ rest.spaced, same ▸ rest.near, same ▸ rest.few⟩
    rcases mem_events_bind mem with mem | ⟨_, ⟨⟩, mem⟩
    · exact .inl (first.events e mem)
    · exact rest.events e mem

end Traced

end DeviceTree

namespace OverlayIdentity

open DeviceTree

variable {blob : List UInt8} {stringsOffset position : Nat} {r : Reading}

theorem meets_tracedStep (inside : stringsOffset ≤ blob.length) (shallow : r.depth ≤ blob.length)
    (t : Token) : Traced.Meets blob (tracedStep blob stringsOffset r t) fun r' =>
      r'.depth ≤ r.depth + 1 := by
  cases t with
  | beginNode =>
    refine (Traced.meets_compute (by omega) (by omega)).bind ?_
    rintro depth rfl
    exact Traced.meets_pure (by dsimp only; omega)
  | endNode =>
    refine .ite (fun _ => Traced.meets_refuse _) fun some => ?_
    refine (Traced.meets_compute (by omega) (by omega)).bind ?_
    rintro depth rfl
    exact Traced.meets_pure (by dsimp only; omega)
  | property offset value =>
    refine .ite (fun _ => ?_) fun _ => Traced.meets_pure (by omega)
    refine (Traced.meets_nameAt offset inside).bind fun name _ => ?_
    exact Traced.meets_pure (Nat.le_succ _)
  | nop => exact Traced.meets_pure (Nat.le_succ _)
  | finish => exact Traced.meets_pure (Nat.le_succ _)

/-- A pass begins, and all else in it keeps the bounds. If it leads to another, it took a token that
lies inside the blob. -/
theorem tracedPass_in_bounds (inside : stringsOffset ≤ blob.length)
    (small : position ≤ blob.length + 0x100000000) (shallow : 4 * r.depth ≤ position) :
    (∀ e ∈ (tracedPass blob stringsOffset position r).events,
      e.InBounds blob.length ∨ ∃ position, e = .passed position) ∧
    (tracedPass blob stringsOffset position r).passes = [position] ∧
    ∀ next r', (tracedPass blob stringsOffset position r).outcome = .ok (some (next, r')) →
      position + 4 ≤ blob.length ∧ position + 4 ≤ next ∧ next ≤ blob.length + 3 ∧
        r'.depth ≤ r.depth + 1 := by
  -- The pass that begins does not keep the bounds in the sense of `Meets`; all behind it does.
  obtain ⟨body, begins, keeps⟩ : ∃ body,
      tracedPass blob stringsOffset position r = (do let _ ← .enter position; body) ∧
      Traced.Meets blob body fun again => ∀ next r', again = some (next, r') →
        position + 4 ≤ blob.length ∧ position + 4 ≤ next ∧ next ≤ blob.length + 3 ∧
          r'.depth ≤ r.depth + 1 := by
    refine ⟨_, rfl, (Traced.meets_token small).bind ?_⟩
    rintro ⟨token, next⟩ ⟨within, further, near⟩
    refine .ite (fun _ => Traced.meets_pure nofun) fun _ => ?_
    refine (meets_tracedStep inside (by omega) token).bind fun r' deeper => ?_
    refine Traced.meets_pure ?_
    rintro _ _ ⟨⟩
    exact ⟨within, further, near, deeper⟩
  rw [begins]
  refine ⟨fun e mem => ?_, ?_, fun next r' again => keeps.outcome _ again next r' rfl⟩
  · rcases List.mem_cons.mp mem with rfl | mem
    · exact .inr ⟨position, rfl⟩
    · exact .inl (keeps.events e mem)
  · exact congrArg (position :: ·) keeps.passes_eq_nil

/-- The passes through the loop begin where the cursor stands, and each but the last takes four octets
of the blob. -/
theorem tracedLoop_in_bounds (inside : stringsOffset ≤ blob.length)
    (small : position ≤ blob.length + 0x100000000) (shallow : 4 * r.depth ≤ position) :
    (∀ e ∈ (tracedLoop blob stringsOffset position r).events,
      e.InBounds blob.length ∨ ∃ position, e = .passed position) ∧
    ∃ later, (tracedLoop blob stringsOffset position r).passes = position :: later ∧
      (position :: later).IsChain (fun here next => here + 4 ≤ next) ∧
      (∀ next ∈ later, next ≤ blob.length + 3) ∧ 4 * later.length ≤ blob.length - position := by
  -- Along the loop the open nodes are paid for by the cursor, four octets each; that bounds their count,
  -- since a pass that leads on has its token inside the blob.
  fun_induction tracedLoop blob stringsOffset position r with
  | case1 position r pass e refused =>
    obtain ⟨events, passes, -⟩ := tracedPass_in_bounds inside small shallow
    exact ⟨events, [], passes, .singleton _, List.forall_mem_nil _, Nat.zero_le _⟩
  | case2 position r pass ended =>
    obtain ⟨events, passes, -⟩ := tracedPass_in_bounds inside small shallow
    exact ⟨events, [], passes, .singleton _, List.forall_mem_nil _, Nat.zero_le _⟩
  | case3 position r pass next r' again later ih =>
    obtain ⟨events, passes, forward⟩ := tracedPass_in_bounds inside small shallow
    obtain ⟨within, further, near, deeper⟩ := forward next r' again
    obtain ⟨events', rest, passes', spaced, near', few⟩ := ih (by omega) (by omega)
    refine ⟨fun e mem => ?_, next :: rest, ?_, .cons_cons further spaced,
      List.forall_mem_cons.mpr ⟨near, near'⟩, ?_⟩
    · rcases List.mem_append.mp mem with mem | mem
      · exact events e mem
      · exact events' e mem
    · show (pass.events ++ later.events).filterMap _ = _
      rw [List.filterMap_append]
      exact congrArg₂ (· ++ ·) passes passes'
    · rw [List.length_cons]
      omega

theorem orderly_traced (blob : List UInt8) : Traced.Orderly blob (traced blob) := by
  refine (Traced.meets_header blob).bind_orderly fun offsets low => ?_
  by_cases outside : blob.length < offsets.stringsOffset
  · rw [if_pos outside]
    exact (Traced.meets_refuse (Q := fun _ => True) _).orderly
  rw [if_neg outside]
  have inside := Nat.le_of_not_lt outside
  refine (Traced.meets_slice inside (Nat.le_refl _)).bind_orderly fun _ _ => ?_
  have small : offsets.structureOffset ≤ blob.length + 0x100000000 := by omega
  obtain ⟨events, rest, passes, spaced, near, few⟩ :=
    tracedLoop_in_bounds (r := ⟨0, .empty⟩) inside small (Nat.zero_le _)
  refine ⟨events, passes ▸ spaced, passes ▸ near, ?_⟩
  rw [passes, List.length_cons]
  omega

/-- Whatever octets are decoded, with whatever offsets and lengths in them: each pass through the loop
that leads to another moves the cursor at least four octets on, so that there are no more passes than
a quarter of the octets and one; once something has been read the cursor is at most three octets
behind the end; every slice lies inside the blob; and every number that is computed fits in 64 bits,
if the blob lies in the memory of such a machine. -/
theorem traced_in_bounds (blob : List UInt8) :
    (traced blob).outcome = decode blob ∧
    (traced blob).passes.IsChain (fun here next => here + 4 ≤ next) ∧
    (traced blob).passes.length ≤ blob.length / 4 + 1 ∧
    (∀ position, .moved position ∈ (traced blob).events ∨ position ∈ (traced blob).passes.tail →
      position ≤ blob.length + 3) ∧
    (∀ start stop, .sliced start stop ∈ (traced blob).events →
      start ≤ stop ∧ stop ≤ blob.length) ∧
    (blob.length < 2 ^ 63 → ∀ value, .computed value ∈ (traced blob).events →
      0 ≤ value ∧ value < 2 ^ 64) := by
  obtain ⟨events, spaced, near, few⟩ := orderly_traced blob
  refine ⟨outcome_traced blob, spaced, few, ?_, fun start stop taken => ?_,
    fun memory value computed => ?_⟩
  · rintro position (moved | passed)
    · rcases events _ moved with kept | ⟨_, ⟨⟩⟩
      exact kept
    · exact near position passed
  · rcases events _ taken with kept | ⟨_, ⟨⟩⟩
    exact kept
  · rcases events _ computed with ⟨positive, small⟩ | ⟨_, ⟨⟩⟩
    exact ⟨positive, by omega⟩

/-- A header that is read once more as tokens, which say nothing, and a name that takes the last
octet. -/
def overrunBlob : List UInt8 :=
  word magicNumber ++ (List.replicate 8 (word 4)).flatten ++ word 1 ++ [0]

/-- The cursor comes to stand as far behind the end as it can. -/
theorem traced_in_bounds_overrun :
    (traced overrunBlob).outcome = .error (.truncatedAt (overrunBlob.length + 3)) ∧
    (traced overrunBlob).passes = [4, 8, 12, 16, 20, 24, 28, 32, 36, 44] ∧
    overrunBlob.length / 4 + 1 = 11 ∧ overrunBlob.length < 2 ^ 63 ∧
    ∀ value, .computed value ∈ (traced overrunBlob).events → 0 ≤ value ∧ value < 2 ^ 64 := by
  have memory : overrunBlob.length < 2 ^ 63 := by decide
  obtain ⟨-, -, -, -, -, fits⟩ := traced_in_bounds overrunBlob
  exact ⟨by decide +kernel, by decide +kernel, by decide, memory, fits memory⟩

end OverlayIdentity

end CameraSetup
