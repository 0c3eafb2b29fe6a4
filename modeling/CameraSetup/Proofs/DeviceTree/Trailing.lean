import CameraSetup.Proofs.DeviceTree.Acceptance
import Mathlib.Data.List.Infix

/-! Octets behind a device tree. Whatever is read successfully lies inside the blob, so it is read
again, and the same, when more octets follow: `decode_append`. -/

namespace CameraSetup

open DeviceTree

namespace DeviceTree

/-! ### Readers that see more -/

/-- The second reader stands where the first does. It sees the octets that the first sees, and
perhaps more behind them. -/
structure Reader.ExtendedBy (r r' : Reader) : Prop where
  position : r'.position = r.position
  rest : r.rest <+: r'.rest

/-- The same is read, and the readers that go on from there stand in the same place. -/
def Reader.SameRead {α : Type} (a b : α × Reader) : Prop := a.1 = b.1 ∧ a.2.ExtendedBy b.2

variable {r r' : Reader}

theorem Reader.extendedBy_startingAt (blob trailing : List UInt8) (position : Nat) :
    (Reader.startingAt blob position).ExtendedBy (Reader.startingAt (blob ++ trailing) position) :=
  ⟨rfl, (List.prefix_append blob trailing).drop position⟩

namespace Reader.ExtendedBy

theorem advance (more : r.ExtendedBy r') (count : Nat) :
    (r.advance count).ExtendedBy (r'.advance count) where
  position := congrArg (· + count) more.position
  rest := more.rest.drop count

/-- Alignment may step over the end of the octets that the first reader sees. -/
theorem aligned (more : r.ExtendedBy r') : r.aligned.ExtendedBy r'.aligned := by
  rw [Reader.aligned, Reader.aligned, more.position]
  exact more.advance _

theorem octets (more : r.ExtendedBy r') (count : Nat) :
    SucceedsToo SameRead (r.octets count) (r'.octets count) := by
  unfold Reader.octets
  dsimp only
  split
  · next whole =>
    have inside : count ≤ r.rest.length := by
      rw [List.length_take] at whole
      omega
    obtain ⟨behind, split⟩ := more.rest
    rw [← split, List.take_append_of_le_length inside, if_pos whole]
    exact .of_ok ⟨rfl, more.advance count⟩
  · exact .of_error _

theorem number (more : r.ExtendedBy r') : SucceedsToo SameRead r.number r'.number := by
  refine (more.octets 4).bind ?_
  rintro ⟨bytes, next⟩ ⟨_, next'⟩ ⟨rfl, later⟩
  exact .of_ok ⟨rfl, later⟩

theorem skipName (more : r.ExtendedBy r') : SucceedsToo ExtendedBy r.skipName r'.skipName := by
  unfold Reader.skipName
  cases ended : r.rest.findIdx? (· == 0) with
  | none => exact .of_error _
  | some length =>
    rw [more.rest.findIdx?_eq_some ended]
    exact .of_ok (more.advance _)

theorem token (more : r.ExtendedBy r') : SucceedsToo SameRead r.token r'.token := by
  refine more.number.bind ?_
  rintro ⟨kind, r⟩ ⟨_, r'⟩ ⟨rfl, more⟩
  dsimp only
  split
  · refine more.skipName.bind fun r r' more => ?_
    exact .of_ok ⟨rfl, more.aligned⟩
  · exact .of_ok ⟨rfl, more⟩
  · refine more.number.bind ?_
    rintro ⟨length, r⟩ ⟨_, r'⟩ ⟨rfl, more⟩
    refine more.number.bind ?_
    rintro ⟨nameOffset, r⟩ ⟨_, r'⟩ ⟨rfl, more⟩
    refine (more.octets length).bind ?_
    rintro ⟨value, r⟩ ⟨_, r'⟩ ⟨rfl, more⟩
    exact .of_ok ⟨rfl, more.aligned⟩
  · exact .of_ok ⟨rfl, more⟩
  · exact .of_ok ⟨rfl, more⟩
  · exact .of_error _

/-- Tokens that are read up to the end token are read again. -/
theorem tokens (more : r.ExtendedBy r') {ts : List Token} (whole : r.tokens = (ts, .ok ())) :
    r'.tokens = (ts, .ok ()) := by
  -- By the recursion of the reader that sees less; the other one keeps up with it.
  fun_induction Reader.tokens r generalizing r' ts with
  | case1 => cases whole
  | case2 r next read =>
    cases whole
    obtain ⟨⟨_, next'⟩, read', rfl, -⟩ := more.token _ read
    exact Reader.tokens_of_finish read'
  | case3 r token next other read tokens ending cut ih =>
    cases whole
    obtain ⟨⟨_, next'⟩, read', rfl, later⟩ := more.token _ read
    exact Reader.tokens_cons read' other (ih later cut)

end Reader.ExtendedBy

/-! ### Names and the header -/

/-- A name that can be read stands in the block of strings, with a zero octet at its end. -/
theorem exists_named_of_nameAt {strings : List UInt8} {offset : Nat} {text : String}
    (read : nameAt strings offset = .ok text) :
    ∃ name : Name, name.octets ++ [0] <+: strings.drop offset ∧
      Text.decodeUtf8? name.octets = some text := by
  have inside : offset ≤ strings.length := by
    by_contra outside
    rw [nameAt, if_pos (Nat.lt_of_not_le outside)] at read
    cases read
  have ended : 0 ∈ strings.drop offset := by
    by_contra unended
    rw [nameAt_of_not_mem inside unended] at read
    cases read
  obtain ⟨name, named⟩ := exists_name_of_mem ended
  refine ⟨name, named, ?_⟩
  rw [nameAt_of_named named] at read
  split at read
  · cases read
  · next decoded =>
    cases read
    exact decoded

theorem nameAt_append (strings trailing : List UInt8) (offset : Nat) :
    SucceedsToo Eq (nameAt strings offset) (nameAt (strings ++ trailing) offset) := by
  intro text read
  obtain ⟨name, named, decoded⟩ := exists_named_of_nameAt read
  have named' := named.trans ((List.prefix_append strings trailing).drop offset)
  exact ⟨text, by rw [nameAt_of_named named', decoded], rfl⟩

theorem header_append (blob trailing : List UInt8) :
    SucceedsToo Eq (header blob) (header (blob ++ trailing)) := by
  have longer : blob.length ≤ (blob ++ trailing).length := by simp
  unfold header
  by_cases short : blob.length < headerLength
  · rw [if_pos short]
    exact .of_error _
  rw [if_neg short, if_neg (by omega)]
  refine (Reader.extendedBy_startingAt blob trailing 0).number.bind ?_
  rintro ⟨magic, r⟩ ⟨_, r'⟩ ⟨rfl, more⟩
  dsimp only
  by_cases other : magic ≠ magicNumber
  · rw [if_pos other]
    exact .of_error _
  rw [if_neg other, if_neg other]
  refine more.number.bind ?_
  rintro ⟨size, r⟩ ⟨_, r'⟩ ⟨rfl, more⟩
  dsimp only
  by_cases truncated : blob.length < size
  · rw [if_pos truncated]
    exact .of_error _
  rw [if_neg truncated, if_neg (by omega)]
  refine more.number.bind ?_
  rintro ⟨structureOffset, r⟩ ⟨_, r'⟩ ⟨rfl, more⟩
  refine more.number.bind ?_
  rintro ⟨stringsOffset, r⟩ ⟨_, r'⟩ ⟨rfl, more⟩
  exact .of_ok rfl

end DeviceTree

namespace OverlayIdentity

theorem step_append (strings trailing : List UInt8) (r : Reading) (t : Token) :
    SucceedsToo Eq (r.step strings t) (r.step (strings ++ trailing) t) := by
  cases t with
  | beginNode => exact .of_ok rfl
  | endNode =>
    unfold Reading.step
    dsimp only
    split
    · exact .of_error _
    · exact .of_ok rfl
  | property offset value =>
    unfold Reading.step
    dsimp only
    split
    · intro r' taken
      obtain ⟨name, named, rfl⟩ := map_eq_ok.mp taken
      obtain ⟨_, named', rfl⟩ := nameAt_append strings trailing offset name named
      exact ⟨_, map_eq_ok.mpr ⟨name, named', rfl⟩, rfl⟩
    · exact .of_ok rfl
  | nop => exact .of_ok rfl
  | finish => exact .of_ok rfl

theorem streams_append {blob strings : List UInt8} {ts : List Token}
    (holds : Streams blob strings ts) (trailing : List UInt8) :
    Streams (blob ++ trailing) (strings ++ trailing) ts := by
  obtain ⟨offsets, head, inside, rfl, cut⟩ := holds
  obtain ⟨_, head', rfl⟩ := header_append blob trailing offsets head
  have more := Reader.extendedBy_startingAt blob trailing offsets.structureOffset
  refine ⟨offsets, head', ?_, ?_, more.tokens cut⟩
  · rw [List.length_append]
    omega
  · rw [List.drop_append_of_le_length inside]

/-- What has been read from a blob is read again when more octets follow, whatever they are. -/
theorem decode_append {blob : List UInt8} {info : OverlayIdentity} (read : decode blob = .ok info)
    (trailing : List UInt8) : decode (blob ++ trailing) = .ok info := by
  obtain ⟨strings, ts, depth, holds, taken⟩ := decode_eq_ok_iff.mp read
  have again := SucceedsToo.foldlM (step_append strings trailing) ts ⟨0, .empty⟩
  obtain ⟨_, taken', rfl⟩ := again _ taken
  exact decode_eq_ok_iff.mpr ⟨_, ts, depth, streams_append holds trailing, taken'⟩

/-- A root named A in a blob that ends with the name of its property. -/
def namedBlob : List UInt8 :=
  word magicNumber ++ word 85 ++ word 40 ++ word 72 ++ List.replicate 24 0 ++
    (word 1 ++ [0, 0, 0, 0]) ++ (word 3 ++ word 2 ++ word 0 ++ [65, 0, 0, 0]) ++ word 2 ++ word 9 ++
    Text.encodeUtf8 "overlay-name" ++ [0]

/-- Neither another name for the overlay nor a token behind the blob is taken in. -/
theorem decode_append_name : decode namedBlob = .ok ⟨some "A", none, []⟩ ∧
    decode (namedBlob ++ (word 3 ++ word 2 ++ word 0 ++ [66, 0, 0, 0] ++ [9])) =
      .ok ⟨some "A", none, []⟩ := by
  have read : decode namedBlob = .ok ⟨some "A", none, []⟩ := by
    decide +kernel
  exact ⟨read, decode_append read _⟩

end OverlayIdentity

end CameraSetup
