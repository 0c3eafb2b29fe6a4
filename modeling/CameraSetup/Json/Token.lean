import CameraSetup.Text.Cut

/-! The tokens of JSON text, and the strings and numbers among them. -/

namespace CameraSetup.Json

/-- A token. A number is kept as it is written. -/
inductive Token
  | openBrace
  | closeBrace
  | openBracket
  | closeBracket
  | comma
  | colon
  | null
  | bool (value : Bool)
  | number (literal : List Char)
  | string (value : List Char)
  deriving DecidableEq, Repr

/-- The characters that may stand between tokens. -/
def isSpace (c : Char) : Bool := c == ' ' || c == '\n' || c == '\t' || c == '\r'

/-! ### Strings -/

/-- The value of a hexadecimal digit. -/
def hexValue? (c : Char) : Option Nat :=
  if '0' ≤ c && c ≤ '9' then some (c.toNat - '0'.toNat)
  else if 'a' ≤ c && c ≤ 'f' then some (c.toNat - 'a'.toNat + 10)
  else if 'A' ≤ c && c ≤ 'F' then some (c.toNat - 'A'.toNat + 10)
  else none

/-- The value of four hexadecimal digits. -/
def hexQuad? : List Char → Option (Nat × List Char)
  | a :: b :: c :: d :: rest =>
    match hexValue? a, hexValue? b, hexValue? c, hexValue? d with
    | some a, some b, some c, some d => some (((a * 16 + b) * 16 + c) * 16 + d, rest)
    | _, _, _, _ => none
  | _ => none

/-- The character above `U+FFFF` whose first surrogate is `high`, and whose second one follows. -/
def surrogatePair? (high : Nat) : List Char → Option (Char × List Char)
  | '\\' :: 'u' :: rest =>
    match hexQuad? rest with
    | none => none
    | some (low, rest) =>
      if 0xdc00 ≤ low && low < 0xe000 then
        some (Char.ofNat (0x10000 + (high - 0xd800) * 0x400 + (low - 0xdc00)), rest)
      else none
  | _ => none

/-- The character of a numeric escape, after its `\u`. A surrogate alone stands for none. -/
def numericEscape? (s : List Char) : Option (Char × List Char) :=
  match hexQuad? s with
  | none => none
  | some (n, rest) =>
    if 0xd800 ≤ n && n < 0xdc00 then surrogatePair? n rest
    else if 0xdc00 ≤ n && n < 0xe000 then none
    else some (Char.ofNat n, rest)

/-- The character of an escape, after its backslash. -/
def escape? : List Char → Option (Char × List Char)
  | [] => none
  | c :: rest =>
    match c with
    | '"' => some ('"', rest)
    | '\\' => some ('\\', rest)
    | '/' => some ('/', rest)
    | 'b' => some ('\x08', rest)
    | 'f' => some ('\x0c', rest)
    | 'n' => some ('\n', rest)
    | 'r' => some ('\r', rest)
    | 't' => some ('\t', rest)
    | 'u' => numericEscape? rest
    | _ => none

theorem length_of_hexQuad? {s rest : List Char} {n : Nat} (h : hexQuad? s = some (n, rest)) :
    rest.length + 4 = s.length := by
  fun_cases hexQuad? s <;> simp_all [hexQuad?]

theorem length_of_surrogatePair? {high : Nat} {s rest : List Char} {c : Char}
    (h : surrogatePair? high s = some (c, rest)) : rest.length < s.length := by
  unfold surrogatePair? at h
  split at h
  · split at h
    · cases h
    · next hq =>
      have := length_of_hexQuad? hq
      split at h
      · simp only [Option.some.injEq, Prod.mk.injEq] at h
        simp only [← h.2, List.length_cons]
        omega
      · cases h
  · cases h

theorem length_of_numericEscape? {s rest : List Char} {c : Char}
    (h : numericEscape? s = some (c, rest)) : rest.length < s.length := by
  unfold numericEscape? at h
  split at h
  · cases h
  · next hq =>
    have := length_of_hexQuad? hq
    split at h
    · have := length_of_surrogatePair? h
      omega
    · split at h
      · cases h
      · simp only [Option.some.injEq, Prod.mk.injEq] at h
        simp only [← h.2]
        omega

theorem length_of_escape? {s rest : List Char} {c : Char} (h : escape? s = some (c, rest)) :
    rest.length < s.length := by
  match s, h with
  | [], h => simp [escape?] at h
  | d :: r, h =>
    simp only [escape?] at h
    split at h
    case h_9 =>
      have := length_of_numericEscape? h
      simp only [List.length_cons]
      omega
    all_goals simp_all

/-- Reads a string after its opening quote, up to and including the closing one. -/
def string? : List Char → Option (List Char × List Char)
  | [] => none
  | c :: rest =>
    if c = '"' then some ([], rest)
    else if c = '\\' then
      match _h : escape? rest with
      | none => none
      | some (d, rest) => (string? rest).map fun (s, rest) => (d :: s, rest)
    else if c.toNat < 0x20 then none
    else (string? rest).map fun (s, rest) => (c :: s, rest)
  termination_by s => s.length
  decreasing_by
    · have := length_of_escape? _h
      simp only [List.length_cons]
      omega
    · simp

theorem length_of_string? {s value rest : List Char} (h : string? s = some (value, rest)) :
    rest.length < s.length := by
  fun_induction string? s generalizing value rest with
  | case2 => simp_all
  | case4 r c left hescape _ ih =>
    obtain ⟨⟨s, r⟩, hs, heq⟩ := Option.map_eq_some_iff.mp h
    cases heq
    have := ih hs
    have := length_of_escape? hescape
    simp only [List.length_cons]
    omega
  | case6 c r _ _ _ ih =>
    obtain ⟨⟨s, r⟩, hs, heq⟩ := Option.map_eq_some_iff.mp h
    cases heq
    have := ih hs
    simp only [List.length_cons]
    omega
  | _ => simp at h

/-! ### Numbers -/

/-- Splits digits off. -/
def digits (s : List Char) : List Char × List Char :=
  (s.takeWhile Char.isDigit, s.dropWhile Char.isDigit)

/-- The digits before a point: a zero alone, or digits that do not start with one. -/
def wholePart? (s : List Char) : Option (List Char × List Char) :=
  match s with
  | '0' :: rest => some (['0'], rest)
  | _ =>
    let (ds, rest) := digits s
    if ds.isEmpty then none else some (ds, rest)

/-- A point and the digits after it, if there is a point. -/
def fraction? (s : List Char) : Option (List Char × List Char) :=
  match s with
  | '.' :: rest =>
    let (ds, rest) := digits rest
    if ds.isEmpty then none else some ('.' :: ds, rest)
  | _ => some ([], s)

/-- The sign of an exponent. -/
def exponentSign (s : List Char) : List Char × List Char :=
  match s with
  | '+' :: rest => (['+'], rest)
  | '-' :: rest => (['-'], rest)
  | _ => ([], s)

/-- An exponent, if there is one. -/
def exponent? (s : List Char) : Option (List Char × List Char) :=
  match s with
  | c :: rest =>
    if c = 'e' || c = 'E' then
      let (sign, rest) := exponentSign rest
      let (ds, rest) := digits rest
      if ds.isEmpty then none else some (c :: sign ++ ds, rest)
    else some ([], s)
  | [] => some ([], s)

/-- Reads a number. -/
def number? (s : List Char) : Option (List Char × List Char) := do
  let (sign, s) := match s with
    | '-' :: rest => (['-'], rest)
    | _ => ([], s)
  let (whole, s) ← wholePart? s
  let (fraction, s) ← fraction? s
  let (exponent, s) ← exponent? s
  some (sign ++ whole ++ fraction ++ exponent, s)

/-! ### Tokens -/

/-- Reads a word. -/
def word? (s : List Char) : Option (Token × List Char) :=
  let letters := s.takeWhile Char.isAlpha
  let rest := s.dropWhile Char.isAlpha
  if letters = ['n', 'u', 'l', 'l'] then some (.null, rest)
  else if letters = ['t', 'r', 'u', 'e'] then some (.bool true, rest)
  else if letters = ['f', 'a', 'l', 's', 'e'] then some (.bool false, rest)
  else none

/-- Reads a token that starts with `c`. -/
def tokenAfter? (c : Char) (rest : List Char) : Option (Token × List Char) :=
  match c with
  | '\x7b' => some (.openBrace, rest)
  | '\x7d' => some (.closeBrace, rest)
  | '[' => some (.openBracket, rest)
  | ']' => some (.closeBracket, rest)
  | ',' => some (.comma, rest)
  | ':' => some (.colon, rest)
  | '"' => (string? rest).map fun (s, rest) => (.string s, rest)
  | c =>
    if c = '-' || c.isDigit then (number? (c :: rest)).map fun (n, rest) => (.number n, rest)
    else word? (c :: rest)

theorem length_digits (s : List Char) : (digits s).1.length + (digits s).2.length = s.length := by
  rw [← List.length_append, digits, List.takeWhile_append_dropWhile]

theorem length_of_wholePart? {s part rest : List Char} (h : wholePart? s = some (part, rest)) :
    rest.length < s.length := by
  unfold wholePart? at h
  split at h
  · cases h; simp
  · have := length_digits s
    split at h
    next ds r hd =>
    split at h
    · cases h
    · next hne =>
      cases h
      rw [hd] at this
      have : 0 < part.length := List.length_pos_iff.mpr (by simpa using hne)
      simp only at *
      omega

theorem length_of_fraction? {s part rest : List Char} (h : fraction? s = some (part, rest)) :
    rest.length ≤ s.length := by
  unfold fraction? at h
  split at h
  · next r =>
    have := length_digits r
    split at h
    next ds left hd =>
    split at h
    · cases h
    · cases h
      rw [hd] at this
      simp only [List.length_cons] at *
      omega
  · cases h; simp

theorem length_exponentSign (s : List Char) : (exponentSign s).2.length ≤ s.length := by
  unfold exponentSign
  split <;> simp

theorem length_of_exponent? {s part rest : List Char} (h : exponent? s = some (part, rest)) :
    rest.length ≤ s.length := by
  unfold exponent? at h
  split at h
  · next c r =>
    split at h
    · have hs := length_exponentSign r
      split at h
      next sign r' hsign =>
      have := length_digits r'
      split at h
      next ds left hd =>
      split at h
      · cases h
      · cases h
        rw [hd] at this
        rw [hsign] at hs
        simp only [List.length_cons] at *
        omega
    · cases h; simp
  · cases h; simp

theorem length_of_number? {s literal rest : List Char} (h : number? s = some (literal, rest)) :
    rest.length < s.length := by
  simp only [number?, Option.bind_eq_bind, Option.bind_eq_some_iff, Prod.exists] at h
  obtain ⟨whole, r1, hw, fraction, r2, hf, exponent, r3, he, heq⟩ := h
  cases heq
  have := length_of_wholePart? hw
  have := length_of_fraction? hf
  have := length_of_exponent? he
  split at * <;> simp_all <;> omega

theorem length_of_word? {s rest : List Char} {token : Token} (h : word? s = some (token, rest)) :
    rest.length < s.length := by
  have hs := List.takeWhile_append_dropWhile (p := Char.isAlpha) (l := s)
  simp only [word?] at h
  have hlen := congrArg List.length hs
  rw [List.length_append] at hlen
  split at h
  · next heq => cases h; rw [heq] at hlen; simp at hlen; omega
  · split at h
    · next heq => cases h; rw [heq] at hlen; simp at hlen; omega
    · split at h
      · next heq => cases h; rw [heq] at hlen; simp at hlen; omega
      · cases h

theorem length_of_tokenAfter? {c : Char} {s rest : List Char} {token : Token}
    (h : tokenAfter? c s = some (token, rest)) : rest.length < (c :: s).length := by
  unfold tokenAfter? at h
  split at h
  case h_7 =>
    obtain ⟨⟨v, r⟩, hs, heq⟩ := Option.map_eq_some_iff.mp h
    cases heq
    have := length_of_string? hs
    simp only [List.length_cons]
    omega
  case h_8 =>
    split at h
    · obtain ⟨⟨v, r⟩, hs, heq⟩ := Option.map_eq_some_iff.mp h
      cases heq
      exact length_of_number? hs
    · exact length_of_word? h
  all_goals cases h; simp

/-- Splits text into tokens. -/
def tokens? : List Char → Option (List Token)
  | [] => some []
  | c :: rest =>
    if isSpace c then tokens? rest
    else
      match _h : tokenAfter? c rest with
      | none => none
      | some (token, left) => (tokens? left).map (token :: ·)
  termination_by s => s.length
  decreasing_by
    · simp
    · exact length_of_tokenAfter? _h

end CameraSetup.Json
