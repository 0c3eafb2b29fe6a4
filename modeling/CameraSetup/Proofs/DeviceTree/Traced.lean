import CameraSetup.Proofs.DeviceTree.Reading

/-! Decoding as a machine goes about it: the numbers that it computes, the slices that it takes of the
blob, the moves of its cursor, and its passes through the loop over the tokens. Apart from these it
does what the readers of the library do, which is said for each of its parts. -/

namespace CameraSetup

namespace DeviceTree

/-- Something that is done on the way. -/
inductive Event
  /-- A number is computed. It can have any size, and lie below zero. -/
  | computed (value : Int)
  /-- The octets from `start` up to `stop` are taken. -/
  | sliced (start stop : Nat)
  /-- The cursor is moved. -/
  | moved (position : Nat)
  /-- A pass through the loop over the tokens begins, with the cursor at a position. -/
  | passed (position : Nat)
  deriving DecidableEq, Repr

/-- The position at which a pass begins. -/
def Event.passed? : Event → Option Nat
  | .passed position => some position
  | _ => none

/-- The outcome of a computation that can fail, and what is done on the way to it. -/
structure Traced (α : Type) where
  outcome : Except FormatError α
  events : List Event

namespace Traced

variable {α β α' β' : Type}

instance : Monad Traced where
  pure a := ⟨.ok a, []⟩
  bind x next := match x.outcome with
    | .error e => ⟨.error e, x.events⟩
    | .ok a => ⟨(next a).outcome, x.events ++ (next a).events⟩

/-- The positions at which passes through the loop begin. -/
def passes (x : Traced α) : List Nat := x.events.filterMap Event.passed?

/-- Fails, with nothing done. -/
def refuse (e : FormatError) : Traced α := ⟨.error e, []⟩

/-- Computes a number. In place of one below zero the decoding would go on with zero. -/
def compute (value : Int) : Traced Nat := ⟨.ok value.toNat, [.computed value]⟩

/-- Takes the octets of the blob from `start` up to `stop`. -/
def slice (blob : List UInt8) (start stop : Nat) : Traced (List UInt8) :=
  ⟨.ok ((blob.drop start).take (stop - start)), [.sliced start stop]⟩

/-- Moves the cursor. -/
def moveTo (position : Nat) : Traced Nat := ⟨.ok position, [.moved position]⟩

/-- Begins a pass through the loop. -/
def enter (position : Nat) : Traced Unit := ⟨.ok (), [.passed position]⟩

/-! ### Tokens -/

variable (blob : List UInt8)

/-- Takes some octets, and moves the cursor behind them. -/
def octets (position count : Nat) : Traced (List UInt8 × Nat) := do
  let stop ← compute (position + count : Nat)
  if blob.length < stop then refuse (.truncatedAt position)
  else
    let bytes ← slice blob position stop
    let next ← moveTo stop
    pure (bytes, next)

/-- Reads a number, and moves the cursor behind it. -/
def number (position : Nat) : Traced (Nat × Nat) := do
  let (bytes, next) ← octets blob position 4
  pure (bytes.foldl (fun n b => 256 * n + b.toNat) 0, next)

/-- Takes all octets from a position on, or none if it lies outside. -/
def tail (position : Nat) : Traced (List UInt8) :=
  if position ≤ blob.length then slice blob position blob.length else pure []

/-- Looks for the end of a name in all that follows, and moves the cursor behind it. -/
def skipName (position : Nat) : Traced Nat := do
  let rest ← tail blob position
  match rest.findIdx? (· == 0) with
  | none => refuse .unterminatedNodeName
  | some length =>
    let (_, stop) ← octets blob position length
    let next ← compute (stop + 1 : Nat)
    moveTo next

/-- Moves the cursor to the next multiple of four. -/
def align (position : Nat) : Traced Nat := do
  let next ← compute (position + (4 - position % 4) % 4 : Nat)
  moveTo next

/-- Reads a token, and moves the cursor to the next. -/
def token (position : Nat) : Traced (Token × Nat) := do
  let (kind, position) ← number blob position
  match kind with
  | 1 =>
    let position ← skipName blob position
    let position ← align position
    pure (.beginNode, position)
  | 2 => pure (.endNode, position)
  | 3 =>
    let (length, position) ← number blob position
    let (nameOffset, position) ← number blob position
    let (value, position) ← octets blob position length
    let position ← align position
    pure (.property nameOffset value, position)
  | 4 => pure (.nop, position)
  | 9 => pure (.finish, position)
  | kind =>
    let offset ← compute ((position : Int) - 4)
    refuse (.unknownToken kind offset)

/-! ### Names and the header -/

/-- Takes the name at an offset of the strings, which are all octets from some place on. -/
def nameAt (stringsOffset offset : Nat) : Traced String :=
  if blob.length - stringsOffset < offset then refuse .nameOutOfRange
  else do
    let rest ← slice blob (stringsOffset + offset) blob.length
    match rest.findIdx? (· == 0) with
    | none => refuse .unterminatedName
    | some length =>
      let octets ← slice blob (stringsOffset + offset) (stringsOffset + offset + length)
      match Text.decodeUtf8? octets with
      | none => refuse .nameNotUtf8
      | some name => pure name

/-- Reads where the structure and the strings start. -/
def header : Traced Header :=
  if blob.length < headerLength then refuse .shorterThanHeader
  else do
    let (magic, position) ← number blob 0
    if magic ≠ magicNumber then refuse (.badMagic magic)
    else
      let (size, position) ← number blob position
      if blob.length < size then refuse (.truncatedBlob size blob.length)
      else
        let (structureOffset, position) ← number blob position
        let (stringsOffset, _) ← number blob position
        pure ⟨structureOffset, stringsOffset⟩

/-! ### Outcomes -/

/-- A computation has the outcome of another, whose results are of another form. -/
def Agrees (form : α → β) (x : Traced α) (y : Except FormatError β) : Prop :=
  x.outcome.map form = y

variable {blob} {form : α → β} {x : Traced α} {y : Except FormatError β}

theorem Agrees.outcome_eq {x : Traced α} {y : Except FormatError α} (h : Agrees id x y) :
    x.outcome = y := by
  subst h
  cases x.outcome <;> rfl

theorem outcome_bind (x : Traced α) (next : α → Traced β) :
    (x >>= next).outcome = x.outcome >>= fun a => (next a).outcome := by
  obtain ⟨outcome, events⟩ := x
  cases outcome <;> rfl

theorem Agrees.bind {form' : α' → β'} {next : α → Traced α'} {next' : β → Except FormatError β'}
    (first : Agrees form x y)
    (later : ∀ a, x.outcome = .ok a → Agrees form' (next a) (next' (form a))) :
    Agrees form' (x >>= next) (y >>= next') := by
  subst first
  obtain ⟨outcome, events⟩ := x
  cases outcome with
  | error e => rfl
  | ok a => exact later a rfl

/-- What succeeds on one side alone makes no difference. -/
theorem Agrees.after {x' : Traced α'} {a : α'} {next : α' → Traced α} (here : x'.outcome = .ok a)
    (later : Agrees form (next a) y) : Agrees form (x' >>= next) y := by
  rw [Agrees, outcome_bind, here]
  exact later

theorem Agrees.ite {x' : Traced α} {y' : Except FormatError β} {p : Prop} {d d' : Decidable p}
    (holds : p → Agrees form x y) (fails : ¬ p → Agrees form x' y') :
    Agrees form (@ite _ p d x x') (@ite _ p d' y y') := by
  by_cases h : p
  · rw [if_pos h, if_pos h]
    exact holds h
  · rw [if_neg h, if_neg h]
    exact fails h

theorem outcome_slice_add (start count : Nat) :
    (slice blob start (start + count)).outcome = .ok ((blob.drop start).take count) := by
  rw [slice, Nat.add_sub_cancel_left]

theorem outcome_slice_length (start : Nat) :
    (slice blob start blob.length).outcome = .ok (blob.drop start) := by
  rw [slice, List.take_of_length_le (Nat.le_of_eq List.length_drop)]

theorem outcome_octets (position count : Nat) : (octets blob position count).outcome =
    if blob.length < position + count then .error (.truncatedAt position)
    else .ok ((blob.drop position).take count, position + count) := by
  unfold octets
  rw [outcome_bind]
  show (if blob.length < position + count then refuse (.truncatedAt position)
    else slice blob position (position + count) >>= fun bytes =>
      moveTo (position + count) >>= fun next => pure (bytes, next)).outcome = _
  split
  · rfl
  · rw [outcome_bind, outcome_slice_add]
    rfl

theorem outcome_number (position : Nat) : (number blob position).outcome =
    if blob.length < position + 4 then .error (.truncatedAt position)
    else .ok (((blob.drop position).take 4).foldl (fun n b => 256 * n + b.toNat) 0, position + 4) := by
  unfold number
  rw [outcome_bind, outcome_octets]
  split <;> rfl

theorem outcome_tail (position : Nat) : (tail blob position).outcome = .ok (blob.drop position) := by
  unfold tail
  split
  · exact outcome_slice_length position
  · rw [List.drop_eq_nil_of_le (by omega)]
    rfl

/-! ### Readers -/

/-- A result and a position, as the result and the reader at that position. -/
def withReader (blob : List UInt8) (read : α × Nat) : α × Reader :=
  (read.1, Reader.startingAt blob read.2)

theorem startingAt_advance (position count : Nat) :
    (Reader.startingAt blob position).advance count = Reader.startingAt blob (position + count) := by
  simp only [Reader.startingAt, Reader.advance, List.drop_drop]

theorem aligned_startingAt (position : Nat) : (Reader.startingAt blob position).aligned =
    Reader.startingAt blob (position + (4 - position % 4) % 4) :=
  startingAt_advance position _

/-- Outside the blob a reader can still read no octets, which the cursor is never asked for. -/
theorem octets_agrees {position count : Nat} (inside : position ≤ blob.length ∨ 0 < count) :
    Agrees (withReader blob) (octets blob position count)
      ((Reader.startingAt blob position).octets count) := by
  unfold Agrees Reader.octets
  rw [outcome_octets, startingAt_advance]
  simp only [Reader.startingAt, List.length_take, List.length_drop]
  by_cases outside : blob.length < position + count
  · rw [if_pos outside, if_neg (by omega)]
    rfl
  · rw [if_neg outside, if_pos (by omega)]
    rfl

theorem number_agrees (position : Nat) : Agrees (withReader blob) (number blob position)
    (Reader.startingAt blob position).number := by
  refine (octets_agrees (.inr (by decide))).bind ?_
  rintro ⟨bytes, next⟩ -
  rfl

theorem skipName_agrees (position : Nat) : Agrees (Reader.startingAt blob) (skipName blob position)
    (Reader.startingAt blob position).skipName := by
  refine .after (outcome_tail position) ?_
  unfold Reader.skipName
  show Agrees _ _ (match (blob.drop position).findIdx? (· == 0) with
    | none => _
    | some length => _)
  cases ended : (blob.drop position).findIdx? (· == 0) with
  | none => rfl
  | some length =>
    have inside : length < (blob.drop position).length :=
      (List.findIdx?_eq_some_iff_findIdx_eq.mp ended).1
    rw [List.length_drop] at inside
    have read := @outcome_octets blob position length
    rw [if_neg (by omega)] at read
    refine .after read ?_
    dsimp only
    rw [startingAt_advance]
    rfl

theorem token_agrees (position : Nat) : Agrees (withReader blob) (token blob position)
    (Reader.startingAt blob position).token := by
  refine (number_agrees position).bind ?_
  rintro ⟨kind, next⟩ -
  dsimp only [withReader]
  split
  · refine (skipName_agrees next).bind fun stop _ => ?_
    rw [aligned_startingAt]
    rfl
  · rfl
  · refine (number_agrees next).bind ?_
    rintro ⟨length, next⟩ -
    refine (number_agrees next).bind ?_
    rintro ⟨nameOffset, behind⟩ read
    have inside : behind ≤ blob.length := by
      rw [outcome_number] at read
      split at read
      · cases read
      · cases read
        omega
    refine (octets_agrees (.inl inside)).bind ?_
    rintro ⟨value, stop⟩ -
    dsimp only [withReader]
    rw [aligned_startingAt]
    rfl
  · rfl
  · rfl
  · have back : ((next : Int) - 4).toNat = next - 4 := by omega
    refine .after (congrArg Except.ok back) ?_
    simp only [Agrees, refuse]
    rfl

theorem nameAt_agrees (stringsOffset offset : Nat) :
    Agrees id (nameAt blob stringsOffset offset)
      (DeviceTree.nameAt (blob.drop stringsOffset) offset) := by
  unfold nameAt
  by_cases outside : blob.length - stringsOffset < offset
  · rw [if_pos outside, DeviceTree.nameAt, List.length_drop, if_pos outside]
    rfl
  rw [if_neg outside]
  have inside : offset ≤ (blob.drop stringsOffset).length := by
    rw [List.length_drop]
    omega
  refine .after (outcome_slice_length _) ?_
  rw [← List.drop_drop]
  by_cases ended : 0 ∈ (blob.drop stringsOffset).drop offset
  · obtain ⟨name, named⟩ := exists_name_of_mem ended
    rw [nameAt_of_named named]
    obtain ⟨behind, split⟩ := named
    rw [← split, name.findIdx?_end]
    refine .after (outcome_slice_add _ _) ?_
    rw [← List.drop_drop, ← split, List.append_assoc, List.take_left]
    cases Text.decodeUtf8? name.octets <;> rfl
  · rw [findIdx?_zero_of_not_mem ended, nameAt_of_not_mem inside ended]
    rfl

theorem header_agrees (blob : List UInt8) : Agrees id (header blob) (DeviceTree.header blob) := by
  refine .ite (fun _ => rfl) fun _ => (number_agrees 0).bind ?_
  rintro ⟨magic, next⟩ -
  refine .ite (fun _ => rfl) fun _ => (number_agrees next).bind ?_
  rintro ⟨size, next⟩ -
  refine .ite (fun _ => rfl) fun _ => (number_agrees next).bind ?_
  rintro ⟨structureOffset, next⟩ -
  refine (number_agrees next).bind ?_
  rintro ⟨stringsOffset, next⟩ -
  rfl

end Traced

end DeviceTree

namespace OverlayIdentity

open DeviceTree

variable (blob : List UInt8)

/-- Takes in a token, and keeps count of the open nodes. -/
def tracedStep (stringsOffset : Nat) (r : Reading) : Token → Traced Reading
  | .beginNode => do
    let depth ← .compute (r.depth + 1 : Nat)
    pure { r with depth }
  | .endNode =>
    if r.depth = 0 then .refuse .unbalancedEndNode
    else do
      let depth ← .compute ((r.depth : Int) - 1)
      pure { r with depth }
  | .property nameOffset value =>
    if r.depth = 1 then do
      let name ← .nameAt blob stringsOffset nameOffset
      pure { r with info := r.info.withProperty name value }
    else pure r
  | .nop | .finish => pure r

/-- One pass through the loop: where it goes on, and with what, unless the tokens have ended. -/
def tracedPass (stringsOffset position : Nat) (r : Reading) : Traced (Option (Nat × Reading)) := do
  let _ ← .enter position
  let (token, next) ← .token blob position
  if token = .finish then pure none
  else
    let r ← tracedStep blob stringsOffset r token
    pure (some (next, r))

variable {blob}

theorem tracedStep_agrees (stringsOffset : Nat) (r : Reading) (t : Token) :
    Traced.Agrees id (tracedStep blob stringsOffset r t) (r.step (blob.drop stringsOffset) t) := by
  cases t with
  | beginNode => rfl
  | endNode =>
    refine .ite (fun _ => rfl) fun some => ?_
    have less : ((r.depth : Int) - 1).toNat = r.depth - 1 := by omega
    exact .after (congrArg Except.ok less) rfl
  | property offset value =>
    refine .ite (fun _ => ?_) fun _ => rfl
    show Traced.Agrees id _ (nameAt (blob.drop stringsOffset) offset >>= fun name =>
      .ok { r with info := r.info.withProperty name value })
    exact (Traced.nameAt_agrees stringsOffset offset).bind fun name _ => rfl
  | nop => rfl
  | finish => rfl

theorem outcome_tracedPass (stringsOffset position : Nat) (r : Reading) :
    (tracedPass blob stringsOffset position r).outcome =
      (Traced.token blob position).outcome >>= fun read =>
        if read.1 = .finish then .ok none
        else (tracedStep blob stringsOffset r read.1).outcome >>= fun r' =>
          .ok (some (read.2, r')) := by
  unfold tracedPass
  rw [Traced.outcome_bind]
  show (Traced.token blob position >>= _).outcome = _
  rw [Traced.outcome_bind]
  congr
  funext read
  dsimp only
  split
  · rfl
  · rw [Traced.outcome_bind]
    rfl

/-- What a reader finds, one pass after the other. -/
theorem found_eq_tracedPass (stringsOffset position : Nat) (r : Reading) :
    found (blob.drop stringsOffset) (Reader.startingAt blob position) r =
      (tracedPass blob stringsOffset position r).outcome >>= fun
        | none => .ok r
        | some (next, r') =>
          found (blob.drop stringsOffset) (Reader.startingAt blob next) r' := by
  have same := @Traced.token_agrees blob position
  rw [outcome_tracedPass]
  cases read : (Traced.token blob position).outcome with
  | error e =>
    rw [Traced.Agrees, read] at same
    rw [found, Reader.tokens_of_error same.symm]
    rfl
  | ok next =>
    obtain ⟨t, next⟩ := next
    rw [Traced.Agrees, read] at same
    by_cases last : t = .finish
    · subst last
      rw [found, Reader.tokens_of_finish same.symm]
      rfl
    · rw [found_of_token same.symm last, ← tracedStep_agrees]
      show _ = ((if t = .finish then _ else _) : Except _ _) >>= _
      rw [if_neg last]
      cases (tracedStep blob stringsOffset r t).outcome <;> rfl

theorem length_of_tracedPass {stringsOffset position next : Nat} {r r' : Reading}
    (again : (tracedPass blob stringsOffset position r).outcome = .ok (some (next, r'))) :
    blob.length - next + 4 ≤ blob.length - position := by
  rw [outcome_tracedPass] at again
  obtain ⟨⟨token, behind⟩, read, again⟩ := bind_eq_ok.mp again
  dsimp only at again
  split at again
  · cases again
  obtain ⟨_, -, again⟩ := bind_eq_ok.mp again
  cases again
  have same := @Traced.token_agrees blob position
  rw [Traced.Agrees, read] at same
  have shorter := Reader.length_rest_of_token same.symm
  simpa [Reader.startingAt] using shorter

variable (blob)

/-- Pass after pass through the loop, up to the end of the tokens. -/
def tracedLoop (stringsOffset position : Nat) (r : Reading) : Traced OverlayIdentity :=
  let pass := tracedPass blob stringsOffset position r
  match _h : pass.outcome with
  | .error e => ⟨.error e, pass.events⟩
  | .ok none => ⟨.ok r.info, pass.events⟩
  | .ok (some (next, r')) =>
    let later := tracedLoop stringsOffset next r'
    ⟨later.outcome, pass.events ++ later.events⟩
  termination_by blob.length - position
  decreasing_by
    have := length_of_tracedPass _h
    omega

/-- Reads what a compiled overlay says about itself. -/
def traced : Traced OverlayIdentity := do
  let offsets ← .header blob
  if blob.length < offsets.stringsOffset then .refuse .stringsOutOfRange
  else
    let _ ← .slice blob offsets.stringsOffset blob.length
    tracedLoop blob offsets.stringsOffset offsets.structureOffset ⟨0, .empty⟩

variable {blob}

theorem outcome_tracedLoop (stringsOffset position : Nat) (r : Reading) :
    (tracedLoop blob stringsOffset position r).outcome =
      (found (blob.drop stringsOffset) (Reader.startingAt blob position) r).map (·.info) := by
  fun_induction tracedLoop blob stringsOffset position r with
  | case1 position r pass e refused =>
    rw [found_eq_tracedPass, refused]
    rfl
  | case2 position r pass ended =>
    rw [found_eq_tracedPass, ended]
    rfl
  | case3 position r pass next r' again later ih =>
    rw [found_eq_tracedPass, again]
    exact ih

theorem outcome_traced (blob : List UInt8) : (traced blob).outcome = decode blob := by
  have same : Traced.Agrees id (traced blob) (decode blob) := by
    refine (Traced.header_agrees blob).bind fun offsets _ => ?_
    refine .ite (fun _ => rfl) fun _ => ?_
    refine .after (Traced.outcome_slice_length _) ?_
    rw [Traced.Agrees, outcome_tracedLoop, found]
    dsimp only [id]
    cases (Reader.startingAt blob offsets.structureOffset).tokens with
    | mk tokens ending =>
      dsimp only
      cases tokens.foldlM (Reading.step (blob.drop offsets.stringsOffset)) ⟨0, .empty⟩ with
      | error e => rfl
      | ok r => cases ending <;> rfl
  exact same.outcome_eq

end OverlayIdentity

end CameraSetup
