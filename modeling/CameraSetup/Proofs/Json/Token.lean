import CameraSetup.Json.Value
import CameraSetup.Proofs.Text.Fields
import Mathlib.Data.List.TakeWhile

/-! Tokens as the writer of JSON makes them. A string that is written is read back, whatever its
characters are; and a token is read back from what it is written as, whatever follows, as long as a
number or a word ends there. -/

namespace CameraSetup.Json

/-! ### Strings -/

theorem hexValue?_hexDigit : ∀ n < 16, hexValue? (hexDigit n) = some n := by decide

/-- The escape of a control character stands for it. -/
theorem numericEscape?_hexDigits {c : Char} (control : c.toNat < 0x20) (rest : List Char) :
    numericEscape? ('0' :: '0' :: hexDigit (c.toNat / 16) :: hexDigit (c.toNat % 16) :: rest) =
      some (c, rest) := by
  have zero : hexValue? '0' = some 0 := by decide
  have high := hexValue?_hexDigit (c.toNat / 16) (by omega)
  have low := hexValue?_hexDigit (c.toNat % 16) (by omega)
  have value : ((0 * 16 + 0) * 16 + c.toNat / 16) * 16 + c.toNat % 16 = c.toNat := by omega
  simp only [numericEscape?, hexQuad?, zero, high, low, value]
  rw [if_neg (by simp; omega), if_neg (by simp; omega), Char.ofNat_toNat]

theorem string?_escape {c : Char} {escape rest : List Char}
    (stands : escape? escape = some (c, rest)) :
    string? ('\\' :: escape) = (string? rest).map fun (s, rest) => (c :: s, rest) := by
  rw [string?, if_neg (by decide), if_pos rfl]
  split
  · next none => simp [stands] at none
  · next same =>
    cases stands.symm.trans same
    rfl

/-- A character is read back from the way in which strings hold it. -/
theorem string?_writtenChar (c : Char) (rest : List Char) :
    string? (writtenChar c ++ rest) = (string? rest).map fun (s, rest) => (c :: s, rest) := by
  unfold writtenChar
  split
  case h_8 quote backslash _ _ _ _ _ =>
    split
    · next control => exact string?_escape (numericEscape?_hexDigits control rest)
    · next plain =>
      rw [List.singleton_append, string?, if_neg quote, if_neg backslash, if_neg plain]
  all_goals exact string?_escape rfl

/-- Whatever its characters are, a string is read back from what is written between its quotes. -/
theorem string?_flatMap_writtenChar (s rest : List Char) :
    string? (s.flatMap writtenChar ++ '"' :: rest) = some (s, rest) := by
  induction s with
  | nil => rw [List.flatMap_nil, List.nil_append, string?, if_pos rfl]
  | cons c s ih =>
    rw [List.flatMap_cons, List.append_assoc, string?_writtenChar, ih]
    rfl

/-! ### Numbers -/

/-- What follows a value: nothing, a comma or a line break. -/
def Ends (rest : List Char) : Prop := ∀ c, rest.head? = some c → c = ',' ∨ c = '\n'

variable {s part left rest literal : List Char}

theorem Ends.stops (ends : Ends rest) (kind : Char → Bool)
    (excluded : kind ',' = false ∧ kind '\n' = false) :
    ∀ c, rest.head? = some c → kind c = false := by
  intro c head
  rcases ends c head with rfl | rfl
  · exact excluded.1
  · exact excluded.2

theorem digits_append (ends : Ends rest) (s : List Char) :
    digits (s ++ rest) = ((digits s).1, (digits s).2 ++ rest) := by
  have stop := ends.stops Char.isDigit (by decide)
  induction s with
  | nil =>
    have none : ∀ c ∈ ([] : List Char), c.isDigit = true := fun _ => nofun
    obtain ⟨taken, left⟩ := Text.takeWhile_append_word none stop
    exact Prod.ext taken left
  | cons c s ih =>
    simp only [digits, Prod.mk.injEq] at ih
    by_cases digit : c.isDigit = true
    · simp [digits, digit, ih]
    · simp [digits, digit]

theorem wholePart?_append (ends : Ends rest) (h : wholePart? s = some (part, left)) :
    wholePart? (s ++ rest) = some (part, left ++ rest) := by
  unfold wholePart? at h
  split at h
  · cases h
    rfl
  · next other =>
    dsimp only at h
    split at h
    · cases h
    · next digit =>
      cases h
      obtain ⟨c, s, rfl⟩ : ∃ c t, s = c :: t := by
        cases s with
        | nil => exact absurd rfl digit
        | cons c t => exact ⟨c, t, rfl⟩
      have nonzero : c ≠ '0' := fun zero => other s (zero ▸ rfl)
      rw [List.cons_append, wholePart?, ← List.cons_append, digits_append ends]
      · exact if_neg digit
      · exact fun t same => nonzero (List.cons.inj same).1

theorem fraction?_append (ends : Ends rest) (h : fraction? s = some (part, left)) :
    fraction? (s ++ rest) = some (part, left ++ rest) := by
  unfold fraction? at h
  split at h
  · dsimp only at h
    split at h
    · cases h
    · next digit =>
      cases h
      rw [List.cons_append, fraction?, digits_append ends]
      exact if_neg digit
  · next other =>
    cases h
    have stop := ends.stops (· == '.') (by decide)
    rw [fraction?]
    intro t point
    cases s with
    | nil => exact absurd (stop '.' (congrArg List.head? point)) (by decide)
    | cons c s => exact other s (congrArg (· :: s) (List.cons.inj point).1)

theorem exponentSign_append (h : s ≠ []) :
    exponentSign (s ++ rest) = ((exponentSign s).1, (exponentSign s).2 ++ rest) := by
  obtain ⟨c, s, rfl⟩ := List.exists_cons_of_ne_nil h
  rw [List.cons_append]
  unfold exponentSign
  split <;> split <;> simp_all

theorem exponent?_append (ends : Ends rest) (h : exponent? s = some (part, left)) :
    exponent? (s ++ rest) = some (part, left ++ rest) := by
  have stop := ends.stops (fun c => c = 'e' || c = 'E') (by decide)
  cases s with
  | nil =>
    cases h
    cases rest with
    | nil => rfl
    | cons c rest => exact if_neg (Bool.eq_false_iff.mp (stop c rfl))
  | cons c s =>
    unfold exponent? at h
    dsimp only at h
    split at h
    · next letter =>
      split at h
      · cases h
      · next digit =>
        cases h
        have follows : s ≠ [] := by
          rintro rfl
          exact digit rfl
        rw [List.cons_append, exponent?, if_pos letter, exponentSign_append follows]
        dsimp only
        rw [digits_append ends]
        exact if_neg digit
    · next other =>
      cases h
      exact if_neg other

/-- Reads a number after its sign. -/
def unsigned? (sign s : List Char) : Option (List Char × List Char) := do
  let (whole, s) ← wholePart? s
  let (fraction, s) ← fraction? s
  let (exponent, s) ← exponent? s
  some (sign ++ whole ++ fraction ++ exponent, s)

theorem number?_cons (c : Char) (s : List Char) :
    number? (c :: s) = if c = '-' then unsigned? ['-'] s else unsigned? [] (c :: s) := by
  split
  · next minus =>
    subst minus
    rfl
  · next other =>
    rw [number?]
    · rfl
    · exact fun t same => other (List.cons.inj same).1

theorem unsigned?_append (ends : Ends rest) {sign : List Char}
    (h : unsigned? sign s = some (part, left)) :
    unsigned? sign (s ++ rest) = some (part, left ++ rest) := by
  simp only [unsigned?, Option.bind_eq_bind, Option.bind_eq_some_iff, Prod.exists] at h
  obtain ⟨whole, r, hw, fraction, r', hf, exponent, r'', he, same⟩ := h
  cases same
  simp only [unsigned?, Option.bind_eq_bind, wholePart?_append ends hw, Option.bind_some,
    fraction?_append ends hf, exponent?_append ends he]

/-- A text that is a number, and nothing else. -/
def IsNumber (literal : List Char) : Prop := number? literal = some (literal, [])

theorem isDigit_of_wholePart? {c : Char} (h : wholePart? (c :: s) = some (part, left)) :
    c.isDigit = true := by
  unfold wholePart? at h
  split at h
  · next zero =>
    rw [(List.cons.inj zero).1]
    decide
  · by_contra other
    have none : (digits (c :: s)).1 = [] := List.takeWhile_cons_of_neg other
    dsimp only at h
    rw [none] at h
    cases h

theorem IsNumber.exists_cons (h : IsNumber literal) :
    ∃ c s, literal = c :: s ∧ (c = '-' ∨ c.isDigit = true) := by
  cases literal with
  | nil => cases h
  | cons c s =>
    refine ⟨c, s, rfl, ?_⟩
    rw [IsNumber, number?_cons] at h
    split at h
    · next minus => exact .inl minus
    · obtain ⟨_, whole, -⟩ := Option.bind_eq_some_iff.mp h
      exact .inr (isDigit_of_wholePart? whole)

/-- A number is read where it ends. -/
theorem IsNumber.number?_append (h : IsNumber literal) (ends : Ends rest) :
    number? (literal ++ rest) = some (literal, rest) := by
  obtain ⟨c, s, rfl, -⟩ := h.exists_cons
  rw [IsNumber, number?_cons] at h
  rw [List.cons_append, number?_cons]
  split
  · next minus =>
    rw [if_pos minus] at h
    exact unsigned?_append ends h
  · next other =>
    rw [if_neg other] at h
    exact unsigned?_append ends h

theorem digitChar_ne_zero : ∀ n < 10, 0 < n → n.digitChar ≠ '0' := by decide

theorem exists_cons_toDigits {n : Nat} (pos : 0 < n) :
    ∃ c s, Nat.toDigits 10 n = c :: s ∧ c ≠ '0' := by
  induction n using Nat.strongRecOn with
  | ind n ih =>
    by_cases small : n < 10
    · exact ⟨n.digitChar, [], Nat.toDigits_of_lt_base small, digitChar_ne_zero n small pos⟩
    · obtain ⟨c, s, front, nonzero⟩ := ih (n / 10) (by omega) (by omega)
      refine ⟨c, s ++ [(n % 10).digitChar], ?_, nonzero⟩
      rw [Nat.toDigits_of_base_le (by decide) (by omega), front]
      rfl

/-- The digits of a natural number are a number. -/
theorem isNumber_toDigits (n : Nat) : IsNumber (Nat.toDigits 10 n) := by
  rcases Nat.eq_zero_or_pos n with rfl | pos
  · rfl
  · obtain ⟨c, s, same, nonzero⟩ := exists_cons_toDigits pos
    have all : ∀ d ∈ c :: s, d.isDigit = true := fun d mem =>
      Nat.isDigit_of_mem_toDigits (by decide) (by decide) (same ▸ mem)
    have minus : c ≠ '-' := by
      rintro rfl
      exact absurd (all _ List.mem_cons_self) (by decide)
    have whole : wholePart? (c :: s) = some (c :: s, []) := by
      have taken : digits (c :: s) = (c :: s, []) :=
        Prod.ext (List.takeWhile_eq_self_iff.mpr all) (List.dropWhile_eq_nil_iff.mpr all)
      rw [wholePart?, taken]
      · rfl
      · exact fun t zero => nonzero (List.cons.inj zero).1
    rw [same, IsNumber, number?_cons, if_neg minus, unsigned?, whole]
    exact congrArg (fun part => some (part, [])) (by simp)

/-! ### Tokens -/

variable {token : Token}

theorem tokens?_of_isSpace {c : Char} (space : isSpace c = true) (s : List Char) :
    tokens? (c :: s) = tokens? s := by
  rw [tokens?, if_pos space]

theorem tokens?_of_tokenAfter? {c : Char} (solid : isSpace c = false)
    (read : tokenAfter? c s = some (token, left)) :
    tokens? (c :: s) = (tokens? left).map (token :: ·) := by
  rw [tokens?, if_neg (Bool.eq_false_iff.mp solid)]
  split
  · next none => cases none.symm.trans read
  · next same =>
    cases read.symm.trans same
    rfl

theorem tokens?_newLine (depth : Nat) (s : List Char) :
    tokens? (newLine depth ++ s) = tokens? s := by
  rw [newLine, List.cons_append, tokens?_of_isSpace rfl]
  induction 2 * depth with
  | zero => rfl
  | succ n ih => rw [List.replicate_succ, List.cons_append, tokens?_of_isSpace rfl, ih]

theorem tokens?_writtenString (s rest : List Char) :
    tokens? (writtenString s ++ rest) = (tokens? rest).map (.string s :: ·) := by
  rw [writtenString, List.cons_append, List.cons_append, List.append_assoc, List.singleton_append]
  refine tokens?_of_tokenAfter? rfl ?_
  show (string? (s.flatMap writtenChar ++ '"' :: rest)).map _ = _
  rw [string?_flatMap_writtenChar]
  rfl

theorem tokenAfter?_of_number {c : Char} (starts : c = '-' ∨ c.isDigit = true) (s : List Char) :
    tokenAfter? c s = (number? (c :: s)).map fun (n, rest) => (.number n, rest) := by
  have start : (decide (c = '-') || c.isDigit) = true := by simpa using starts
  unfold tokenAfter?
  split
  case h_8 => exact if_pos start
  all_goals exact absurd start (by decide)

theorem tokens?_of_isNumber (h : IsNumber literal) (ends : Ends rest) :
    tokens? (literal ++ rest) = (tokens? rest).map (.number literal :: ·) := by
  have read := h.number?_append ends
  obtain ⟨c, s, rfl, starts⟩ := h.exists_cons
  have solid : isSpace c = false := by
    rcases starts with rfl | digit
    · rfl
    · refine Bool.eq_false_iff.mpr fun space => ?_
      simp only [isSpace, Bool.or_eq_true, beq_iff_eq] at space
      rcases space with ((rfl | rfl) | rfl) | rfl <;> exact absurd digit (by decide)
  rw [List.cons_append] at read ⊢
  refine tokens?_of_tokenAfter? solid ?_
  rw [tokenAfter?_of_number starts, read]
  rfl

theorem word?_append (word : List Char) (letters : word.all Char.isAlpha = true)
    (ends : Ends rest) :
    word? (word ++ rest) = (word? word).map fun (token, _) => (token, rest) := by
  obtain ⟨taken, left⟩ := Text.takeWhile_append_word (List.all_eq_true.mp letters)
    (ends.stops Char.isAlpha (by decide))
  have whole : word.takeWhile Char.isAlpha = word :=
    List.takeWhile_eq_self_iff.mpr (List.all_eq_true.mp letters)
  simp only [word?, taken, left, whole]
  split
  · rfl
  · split
    · rfl
    · split <;> rfl

end CameraSetup.Json
