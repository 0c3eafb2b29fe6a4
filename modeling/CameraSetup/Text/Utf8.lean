/-! Octets and the text they encode in UTF-8: strictly, where a sequence that is not well formed
refuses the whole, or leniently, where each such sequence becomes one replacement character. -/

namespace CameraSetup.Text

/-- The octets of a text. -/
def encodeUtf8 (s : String) : List UInt8 :=
  s.toUTF8.data.toList

/-- The text that octets encode, if they are well formed. -/
def decodeUtf8? (bytes : List UInt8) : Option String :=
  String.fromUTF8? ⟨bytes.toArray⟩

@[simp] theorem decodeUtf8?_encodeUtf8 (s : String) : decodeUtf8? (encodeUtf8 s) = some s := by
  simp only [decodeUtf8?, encodeUtf8, Array.toArray_toList, String.fromUTF8?]
  exact dif_pos s.isValidUTF8

/-- What a first octet announces: the bits it carries, and the range of each octet to follow. The
narrow ranges exclude overlong forms, surrogates and code points past the last. -/
def leadOctet? (b : UInt8) : Option (Nat × List (UInt8 × UInt8)) :=
  let n := b.toNat
  let rest : UInt8 × UInt8 := (0x80, 0xbf)
  if n < 0x80 then some (n, [])
  else if n < 0xc2 then none
  else if n < 0xe0 then some (n - 0xc0, [rest])
  else if n = 0xe0 then some (0, [(0xa0, 0xbf), rest])
  else if n = 0xed then some (0xd, [(0x80, 0x9f), rest])
  else if n < 0xf0 then some (n - 0xe0, [rest, rest])
  else if n = 0xf0 then some (0, [(0x90, 0xbf), rest, rest])
  else if n < 0xf4 then some (n - 0xf0, [rest, rest, rest])
  else if n = 0xf4 then some (4, [(0x80, 0x8f), rest, rest])
  else none

/-- Reads the octets that a first one announced. The answer is the code point, or nothing at the
first octet out of range, and the octets not read. -/
def followOctets (bits : Nat) : List (UInt8 × UInt8) → List UInt8 → Option Nat × List UInt8
  | [], bytes => (some bits, bytes)
  | _ :: _, [] => (none, [])
  | (low, high) :: ranges, b :: bytes =>
    if low ≤ b && b ≤ high then followOctets (bits * 64 + (b.toNat - 0x80)) ranges bytes
    else (none, b :: bytes)

theorem length_followOctets_le (bits : Nat) (ranges : List (UInt8 × UInt8)) (bytes : List UInt8) :
    (followOctets bits ranges bytes).2.length ≤ bytes.length := by
  fun_induction followOctets bits ranges bytes with
  | case1 | case2 | case4 => simp
  | case3 bits low high ranges b bytes admitted ih => exact Nat.le_succ_of_le ih

/-- The replacement character. -/
def replacement : Char := '\ufffd'

/-- The text that octets encode, with one replacement character for each longest start of a
sequence that cannot be completed and for each octet that starts none. -/
def decodeLenient : List UInt8 → List Char
  | [] => []
  | b :: bytes =>
    match leadOctet? b with
    | none => replacement :: decodeLenient bytes
    | some (bits, ranges) =>
      let next := followOctets bits ranges bytes
      (next.1.elim replacement Char.ofNat) :: decodeLenient next.2
  termination_by bytes => bytes.length
  decreasing_by
    · simp
    · have := length_followOctets_le bits ranges bytes
      simp only [List.length_cons]
      omega

end CameraSetup.Text
