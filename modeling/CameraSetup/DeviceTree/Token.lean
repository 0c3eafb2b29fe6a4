/-! The tokens of a flattened device tree, read from its octets. Numbers are big-endian and have
four octets; names end in a zero octet; after a name and after a value the next token starts at a
multiple of four. -/

namespace CameraSetup.DeviceTree

/-- What is wrong with the octets of a device tree. -/
inductive FormatError
  | shorterThanHeader
  | badMagic (magic : Nat)
  | truncatedBlob (claimed actual : Nat)
  | stringsOutOfRange
  | truncatedAt (offset : Nat)
  | unterminatedNodeName
  | unbalancedEndNode
  | nameOutOfRange
  | unterminatedName
  | nameNotUtf8
  | unknownToken (token offset : Nat)
  deriving DecidableEq, Repr

/-- A position in the octets and those from there on. -/
structure Reader where
  position : Nat
  rest : List UInt8
  deriving DecidableEq, Repr

namespace Reader

/-- The reader at a position, which may lie beyond the end. -/
def startingAt (blob : List UInt8) (position : Nat) : Reader := ⟨position, blob.drop position⟩

/-- The reader some octets further on. -/
def advance (r : Reader) (count : Nat) : Reader := ⟨r.position + count, r.rest.drop count⟩

/-- The reader at the next multiple of four. -/
def aligned (r : Reader) : Reader := r.advance ((4 - r.position % 4) % 4)

/-- Reads some octets. -/
def octets (r : Reader) (count : Nat) : Except FormatError (List UInt8 × Reader) :=
  let taken := r.rest.take count
  if taken.length = count then .ok (taken, r.advance count) else .error (.truncatedAt r.position)

/-- Reads a number. -/
def number (r : Reader) : Except FormatError (Nat × Reader) := do
  let (bytes, next) ← r.octets 4
  pure (bytes.foldl (fun n b => 256 * n + b.toNat) 0, next)

/-- Reads past a name and the zero octet that ends it. -/
def skipName (r : Reader) : Except FormatError Reader :=
  match r.rest.findIdx? (· == 0) with
  | none => .error .unterminatedNodeName
  | some length => .ok (r.advance (length + 1))

end Reader

/-- A token of the structure block. -/
inductive Token
  | beginNode
  | endNode
  | property (nameOffset : Nat) (value : List UInt8)
  | nop
  | finish
  deriving DecidableEq, Repr

/-- Reads a token. -/
def Reader.token (r : Reader) : Except FormatError (Token × Reader) := do
  let (kind, r) ← r.number
  match kind with
  | 1 =>
    let r ← r.skipName
    pure (.beginNode, r.aligned)
  | 2 => pure (.endNode, r)
  | 3 =>
    let (length, r) ← r.number
    let (nameOffset, r) ← r.number
    let (value, r) ← r.octets length
    pure (.property nameOffset value, r.aligned)
  | 4 => pure (.nop, r)
  | 9 => pure (.finish, r)
  | kind => throw (.unknownToken kind (r.position - 4))

@[simp] theorem Reader.length_rest_advance (r : Reader) (count : Nat) :
    (r.advance count).rest.length = r.rest.length - count := by
  simp [Reader.advance]

theorem Reader.length_rest_aligned_le (r : Reader) : r.aligned.rest.length ≤ r.rest.length := by
  simp [Reader.aligned]

theorem Reader.length_rest_of_octets {r next : Reader} {count : Nat} {bytes : List UInt8}
    (h : r.octets count = .ok (bytes, next)) : next.rest.length + count = r.rest.length := by
  simp only [Reader.octets, List.length_take] at h
  split at h
  · cases h; simp; omega
  · cases h

theorem Reader.length_rest_of_number {r next : Reader} {n : Nat}
    (h : r.number = .ok (n, next)) : next.rest.length + 4 = r.rest.length := by
  simp only [Reader.number, bind, Except.bind, pure, Except.pure] at h
  split at h
  · cases h
  · next heq => cases h; exact length_rest_of_octets heq

theorem Reader.length_rest_of_skipName {r next : Reader} (h : r.skipName = .ok next) :
    next.rest.length ≤ r.rest.length := by
  simp only [Reader.skipName] at h
  split at h
  · cases h
  · cases h; simp

/-- Every token takes at least four octets. -/
theorem Reader.length_rest_of_token {r next : Reader} {token : Token}
    (h : r.token = .ok (token, next)) : next.rest.length + 4 ≤ r.rest.length := by
  simp only [Reader.token, bind, Except.bind, pure, Except.pure, throw, throwThe,
    MonadExceptOf.throw] at h
  split at h
  · cases h
  · next kind hkind =>
    have hn := length_rest_of_number hkind
    split at h
    · split at h
      · cases h
      · next hs =>
        cases h
        have := length_rest_of_skipName hs
        have := Reader.length_rest_aligned_le
        grind
    · cases h; omega
    · split at h
      · cases h
      · next hl =>
        have := length_rest_of_number hl
        split at h
        · cases h
        · next ho =>
          have := length_rest_of_number ho
          split at h
          · cases h
          · next hv =>
            cases h
            have := length_rest_of_octets hv
            have := Reader.length_rest_aligned_le
            grind
    · cases h; omega
    · cases h; omega
    · cases h

/-- The tokens up to the end token, and the error that cut them short, if any. -/
def Reader.tokens (r : Reader) : List Token × Except FormatError Unit :=
  match _h : r.token with
  | .error e => ([], .error e)
  | .ok (.finish, _) => ([], .ok ())
  | .ok (token, next) =>
    let (tokens, ending) := next.tokens
    (token :: tokens, ending)
  termination_by r.rest.length
  decreasing_by
    have := Reader.length_rest_of_token _h
    omega

end CameraSetup.DeviceTree
