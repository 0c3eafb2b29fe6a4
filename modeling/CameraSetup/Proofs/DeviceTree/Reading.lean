import CameraSetup.Proofs.DeviceTree.Flattened
import CameraSetup.Proofs.Except

/-! Reading a flattened walk. The reader finds each token where the one before it ended, and the
tokens say what the marks of the walk say: `foldlM_tokens` reads octets as `Reading.meet` reads
marks. -/

namespace CameraSetup

namespace DeviceTree

variable {position : Nat} {rest : List UInt8}

/-! ### Octets and numbers -/

theorem length_word (n : Nat) : (word n).length = 4 := rfl

theorem foldl_word {n : Nat} (small : n < 0x100000000) :
    (word n).foldl (fun n b => 256 * n + b.toNat) 0 = n := by
  simp only [word, List.foldl_cons, List.foldl_nil, UInt8.toNat_ofNat']
  omega

theorem Reader.octets_append (front rest : List UInt8) (position : Nat) :
    (⟨position, front ++ rest⟩ : Reader).octets front.length =
      .ok (front, ⟨position + front.length, rest⟩) := by
  simp [Reader.octets, Reader.advance]

theorem Reader.number_word {n : Nat} (small : n < 0x100000000) (position : Nat)
    (rest : List UInt8) :
    (⟨position, word n ++ rest⟩ : Reader).number = .ok (n, ⟨position + 4, rest⟩) := by
  have read := Reader.octets_append (word n) rest position
  rw [length_word] at read
  rw [Reader.number, read]
  simp only [bind, Except.bind, pure, Except.pure, foldl_word small]

theorem findIdx?_zero_of_not_mem {octets : List UInt8} (free : 0 ∉ octets) :
    octets.findIdx? (· == 0) = none := by
  rw [List.findIdx?_eq_none_iff]
  intro b mem
  rw [beq_eq_false_iff_ne]
  rintro rfl
  exact free mem

theorem Name.findIdx?_end (name : Name) (rest : List UInt8) :
    (name.octets ++ [0] ++ rest).findIdx? (· == 0) = some name.octets.length := by
  rw [List.append_assoc, List.findIdx?_append, findIdx?_zero_of_not_mem name.zeroFree]
  simp [List.findIdx?_cons]

/-- Octets with a zero octet among them begin with a name. -/
theorem exists_name_of_mem {octets : List UInt8} (ended : 0 ∈ octets) :
    ∃ name : Name, name.octets ++ [0] <+: octets := by
  obtain ⟨front, rest, rfl, free⟩ := List.eq_append_cons_of_mem ended
  exact ⟨⟨front, free⟩, rest, by simp⟩

theorem Reader.skipName_append (name : Name) (rest : List UInt8) (position : Nat) :
    (⟨position, name.octets ++ [0] ++ rest⟩ : Reader).skipName =
      .ok ⟨position + (name.octets ++ [0]).length, rest⟩ := by
  simp only [Reader.skipName, name.findIdx?_end rest, Reader.advance]
  simp

/-- The next token after padded octets comes where the padding ends. -/
theorem Reader.aligned_padded {octets filler : List UInt8} (start : 4 ∣ position)
    (short : filler.length < 4) (whole : 4 ∣ (octets ++ filler).length) (rest : List UInt8) :
    (⟨position + octets.length, filler ++ rest⟩ : Reader).aligned =
      ⟨position + (octets ++ filler).length, rest⟩ := by
  rw [List.length_append] at whole ⊢
  have gap : (4 - (position + octets.length) % 4) % 4 = filler.length := by omega
  simp only [Reader.aligned, Reader.advance, gap, List.drop_left]
  rw [Nat.add_assoc]

/-! ### Tokens -/

theorem Reader.token_opening {name : Name} {block octets : List UInt8} (start : 4 ∣ position)
    (padded : Padded (name.octets ++ [0]) block) :
    (⟨position, word 1 ++ (block ++ octets)⟩ : Reader).token =
      .ok (.beginNode, ⟨position + 4 + block.length, octets⟩) := by
  obtain ⟨filler, rfl, short, whole⟩ := padded
  rw [Reader.token, Reader.number_word (by decide), List.append_assoc]
  simp only [bind, Except.bind, pure, Except.pure, Reader.skipName_append]
  rw [Reader.aligned_padded (Nat.dvd_add start (Nat.dvd_refl 4)) short whole]

theorem Reader.token_property {offset : Nat} {value block octets : List UInt8}
    (start : 4 ∣ position) (padded : Padded value block) (hvalue : value.length < 0x100000000)
    (hoffset : offset < 0x100000000) :
    Reader.token ⟨position, word 3 ++ (word value.length ++ (word offset ++ (block ++ octets)))⟩ =
      .ok (.property offset value, ⟨position + 12 + block.length, octets⟩) := by
  obtain ⟨filler, rfl, short, whole⟩ := padded
  rw [Reader.token, Reader.number_word (by decide), List.append_assoc]
  simp only [bind, Except.bind, pure, Except.pure, Reader.number_word hvalue,
    Reader.number_word hoffset, Reader.octets_append]
  rw [Reader.aligned_padded (by omega) short whole]

theorem Reader.token_closing (position : Nat) (octets : List UInt8) :
    (⟨position, word 2 ++ octets⟩ : Reader).token = .ok (.endNode, ⟨position + 4, octets⟩) := by
  rw [Reader.token, Reader.number_word (by decide)]
  rfl

theorem Reader.token_nop (position : Nat) (octets : List UInt8) :
    (⟨position, word 4 ++ octets⟩ : Reader).token = .ok (.nop, ⟨position + 4, octets⟩) := by
  rw [Reader.token, Reader.number_word (by decide)]
  rfl

theorem Reader.token_finish (position : Nat) (octets : List UInt8) :
    (⟨position, word 9 ++ octets⟩ : Reader).token = .ok (.finish, ⟨position + 4, octets⟩) := by
  rw [Reader.token, Reader.number_word (by decide)]
  rfl

theorem Reader.tokens_of_error {r : Reader} {e : FormatError} (h : r.token = .error e) :
    r.tokens = ([], .error e) := by
  rw [Reader.tokens]
  split
  · simp_all
  · simp_all
  · simp_all

theorem Reader.tokens_of_finish {r next : Reader} (h : r.token = .ok (.finish, next)) :
    r.tokens = ([], .ok ()) := by
  rw [Reader.tokens]
  split
  · simp_all
  · rfl
  · simp_all

theorem Reader.tokens_of_token {r next : Reader} {token : Token} (h : r.token = .ok (token, next))
    (other : token ≠ .finish) : r.tokens = (token :: next.tokens.1, next.tokens.2) := by
  rw [Reader.tokens]
  split
  · simp_all
  · simp_all
  · simp_all

theorem Reader.tokens_cons {r next : Reader} {token : Token} {tokens : List Token}
    {ending : Except FormatError Unit} (h : r.token = .ok (token, next)) (other : token ≠ .finish)
    (later : next.tokens = (tokens, ending)) : r.tokens = (token :: tokens, ending) := by
  rw [Reader.tokens_of_token h other, later]

/-! ### Walks -/

/-- A name in a block of strings is found, or is no text, as its octets say. -/
theorem nameAt_of_named {strings : List UInt8} {offset : Nat} {name : Name}
    (h : name.octets ++ [0] <+: strings.drop offset) :
    nameAt strings offset = match Text.decodeUtf8? name.octets with
      | none => .error .nameNotUtf8
      | some text => .ok text := by
  obtain ⟨after, h⟩ := h
  have inside : ¬ strings.length < offset := by
    intro outside
    rw [List.drop_eq_nil_of_le (by omega)] at h
    simp at h
  have taken : (strings.drop offset).takeWhile (· ≠ 0) = name.octets := by
    have free : ∀ b ∈ name.octets, decide (b ≠ 0) = true := by
      intro b mem
      rw [decide_eq_true_eq]
      rintro rfl
      exact name.zeroFree mem
    rw [← h, List.append_assoc, List.takeWhile_append_of_pos free]
    simp
  have ended : (strings.drop offset).contains 0 = true := by
    rw [← h]
    simp
  simp only [nameAt, if_neg inside, ended, taken]
  cases Text.decodeUtf8? name.octets <;> rfl

theorem nameAt_of_not_mem {strings : List UInt8} {offset : Nat} (inside : offset ≤ strings.length)
    (unended : 0 ∉ strings.drop offset) : nameAt strings offset = .error .unterminatedName := by
  have none : (strings.drop offset).contains 0 = false := by
    simpa using unended
  simp only [nameAt, if_neg (Nat.not_lt.mpr inside), none]
  rfl

end DeviceTree

namespace OverlayIdentity

open DeviceTree

/-- Takes in what a walk meets. -/
def Reading.meet (r : Reading) : Mark → Except FormatError Reading
  | .opening _ => .ok { r with depth := r.depth + 1 }
  | .closing =>
    if r.depth = 0 then .error .unbalancedEndNode else .ok { r with depth := r.depth - 1 }
  | .property p =>
    if r.depth = 1 then
      match Text.decodeUtf8? p.name.octets with
      | none => .error .nameNotUtf8
      | some name => .ok { r with info := r.info.withProperty name p.value }
    else .ok r

theorem Reading.step_property {strings : List UInt8} {offset : Nat} {p : Property}
    (named : p.name.octets ++ [0] <+: strings.drop offset) (r : Reading) :
    r.step strings (.property offset p.value) = r.meet (.property p) := by
  unfold Reading.step Reading.meet
  dsimp only
  split
  · rw [nameAt_of_named named]
    split <;> rfl
  · rfl

/-- What the reader at a position finds. -/
def found (strings : List UInt8) (reader : Reader) (r : Reading) : Except FormatError Reading := do
  let reading ← reader.tokens.1.foldlM (Reading.step strings) r
  reader.tokens.2
  pure reading

variable {strings : List UInt8} {reader next : Reader} {r : Reading}

theorem found_of_token {token : Token} (h : reader.token = .ok (token, next))
    (other : token ≠ .finish) :
    found strings reader r = (r.step strings token).bind (found strings next) := by
  rw [found, Reader.tokens_of_token h other, List.foldlM_cons]
  cases r.step strings token <;> rfl

/-- Reading the octets of a walk is meeting its marks one after the other. -/
theorem found_of_written {marks : List Mark} {octets : List UInt8}
    (h : Written strings marks octets) (hstrings : strings.length < 0x100000000)
    (hoctets : octets.length < 0x100000000) (r : Reading) {position : Nat} (start : 4 ∣ position) :
    found strings ⟨position, octets⟩ r = marks.foldlM Reading.meet r := by
  -- One token at a time. Each ends at a multiple of four again, where the next one is read.
  induction h generalizing r position with
  | @opening name block octets marks padded later ih =>
    have after : 4 ∣ position + 4 + block.length := by
      have := padded.dvd_length
      omega
    simp only [List.length_append] at hoctets
    rw [found_of_token (Reader.token_opening start padded) nofun, List.foldlM_cons]
    exact ih (by omega) _ after
  | @property p offset block octets marks named padded later ih =>
    have after : 4 ∣ position + 12 + block.length := by
      have := padded.dvd_length
      omega
    have held := padded.length_le
    have inside : offset < strings.length := by
      have := named.length_le
      simp only [List.length_append, List.length_singleton, List.length_drop] at this
      omega
    simp only [List.length_append] at hoctets
    rw [found_of_token (Reader.token_property start padded (by omega) (by omega)) nofun,
      List.foldlM_cons, Reading.step_property named]
    exact congrArg _ (funext fun r' => ih (by omega) r' after)
  | closing later ih =>
    simp only [List.length_append] at hoctets
    rw [found_of_token (Reader.token_closing position _) nofun, List.foldlM_cons]
    exact congrArg _ (funext fun r' => ih (by omega) r' (Nat.dvd_add start (Nat.dvd_refl 4)))
  | nop later ih =>
    simp only [List.length_append] at hoctets
    rw [found_of_token (Reader.token_nop position _) nofun]
    exact ih (by omega) r (Nat.dvd_add start (Nat.dvd_refl 4))
  | finish rest =>
    rw [found, Reader.tokens_of_finish (Reader.token_finish position rest)]
    rfl

end OverlayIdentity

end CameraSetup
