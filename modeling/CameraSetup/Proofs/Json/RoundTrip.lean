import CameraSetup.Proofs.Json.Token

/-! Reading JSON text that was written. A value is written as its tokens, with white space among
them, and its tokens are read as the value. So every value is read back from its text, as long as
its numbers are numbers. -/

namespace CameraSetup.Json

/-! ### Values and tokens -/

mutual

/-- The tokens of a value. -/
def tokens : Json → List Token
  | .null => [.null]
  | .bool b => [.bool b]
  | .number literal => [.number literal]
  | .string s => [.string s]
  | .array [] => [.openBracket, .closeBracket]
  | .array (v :: vs) => .openBracket :: (v.tokens ++ elementTokens vs ++ [.closeBracket])
  | .object [] => [.openBrace, .closeBrace]
  | .object ((key, v) :: ms) =>
    .openBrace :: .string key :: .colon :: (v.tokens ++ memberTokens ms ++ [.closeBrace])

/-- The tokens of the elements after the first. -/
def elementTokens : List Json → List Token
  | [] => []
  | v :: vs => .comma :: (v.tokens ++ elementTokens vs)

/-- The tokens of the members after the first. -/
def memberTokens : List (List Char × Json) → List Token
  | [] => []
  | (key, v) :: ms => .comma :: .string key :: .colon :: (v.tokens ++ memberTokens ms)

end

mutual

/-- Every number in a value is one. -/
def IsProper : Json → Prop
  | .number literal => IsNumber literal
  | .array vs => AreProper vs
  | .object ms => HaveProper ms
  | .null | .bool _ | .string _ => True

/-- Every number in some values is one. -/
def AreProper : List Json → Prop
  | [] => True
  | v :: vs => v.IsProper ∧ AreProper vs

/-- Every number in the values of some members is one. -/
def HaveProper : List (List Char × Json) → Prop
  | [] => True
  | (_, v) :: ms => v.IsProper ∧ HaveProper ms

end

/-! ### From text to tokens -/

variable {rest : List Char}

theorem ends_newLine (depth : Nat) (rest : List Char) : Ends (newLine depth ++ rest) := by
  intro c head
  cases head
  exact .inr rfl

theorem Ends.writtenElements (ends : Ends rest) (depth : Nat) (vs : List Json) :
    Ends (writtenElements depth vs ++ rest) := by
  cases vs with
  | nil => exact ends
  | cons v vs =>
    intro c head
    cases head
    exact .inl rfl

theorem Ends.writtenMembers (ends : Ends rest) (depth : Nat) (ms : List (List Char × Json)) :
    Ends (writtenMembers depth ms ++ rest) := by
  cases ms with
  | nil => exact ends
  | cons m ms =>
    intro c head
    cases head
    exact .inl rfl

mutual

theorem tokens?_written (v : Json) (proper : v.IsProper) (depth : Nat) {rest : List Char}
    (ends : Ends rest) :
    tokens? (written depth v ++ rest) = (tokens? rest).map (v.tokens ++ ·) := by
  match v, proper with
  | .null, _ =>
    exact tokens?_of_tokenAfter? rfl (word?_append ['n', 'u', 'l', 'l'] (by decide) ends)
  | .bool true, _ =>
    exact tokens?_of_tokenAfter? rfl (word?_append ['t', 'r', 'u', 'e'] (by decide) ends)
  | .bool false, _ =>
    exact tokens?_of_tokenAfter? rfl (word?_append ['f', 'a', 'l', 's', 'e'] (by decide) ends)
  | .number literal, h => exact tokens?_of_isNumber h ends
  | .string s, _ => exact tokens?_writtenString s rest
  | .array [], _ =>
    show tokens? ('[' :: ']' :: rest) = _
    rw [tokens?_of_tokenAfter? rfl rfl, tokens?_of_tokenAfter? rfl rfl, Option.map_map]
    rfl
  | .array (v :: vs), h =>
    have closing : tokens? (newLine depth ++ ']' :: rest) =
        (tokens? rest).map (.closeBracket :: ·) := by
      rw [tokens?_newLine, tokens?_of_tokenAfter? rfl rfl]
    have after : Ends (newLine depth ++ ']' :: rest) := ends_newLine _ _
    simp only [written, List.cons_append, List.append_assoc, List.nil_append]
    rw [tokens?_of_tokenAfter? rfl rfl, tokens?_newLine,
      tokens?_written v h.1 _ (after.writtenElements _ vs),
      tokens?_writtenElements vs h.2 _ after, closing]
    simp only [Option.map_map, Function.comp_def, tokens, List.cons_append, List.append_assoc,
      List.nil_append]
  | .object [], _ =>
    show tokens? ('\x7b' :: '\x7d' :: rest) = _
    rw [tokens?_of_tokenAfter? rfl rfl, tokens?_of_tokenAfter? rfl rfl, Option.map_map]
    rfl
  | .object ((key, v) :: ms), h =>
    have closing : tokens? (newLine depth ++ '\x7d' :: rest) =
        (tokens? rest).map (.closeBrace :: ·) := by
      rw [tokens?_newLine, tokens?_of_tokenAfter? rfl rfl]
    have after : Ends (newLine depth ++ '\x7d' :: rest) := ends_newLine _ _
    simp only [written, List.cons_append, List.append_assoc, List.nil_append]
    rw [tokens?_of_tokenAfter? rfl rfl, tokens?_newLine, tokens?_writtenString,
      tokens?_of_tokenAfter? rfl rfl, tokens?_of_isSpace rfl,
      tokens?_written v h.1 _ (after.writtenMembers _ ms),
      tokens?_writtenMembers ms h.2 _ after, closing]
    simp only [Option.map_map, Function.comp_def, tokens, List.cons_append, List.append_assoc,
      List.nil_append]

theorem tokens?_writtenElements (vs : List Json) (proper : AreProper vs) (depth : Nat)
    {rest : List Char} (ends : Ends rest) :
    tokens? (writtenElements depth vs ++ rest) = (tokens? rest).map (elementTokens vs ++ ·) := by
  match vs, proper with
  | [], _ =>
    simp only [writtenElements, elementTokens, List.nil_append]
    exact Option.map_id'.symm
  | v :: vs, h =>
    simp only [writtenElements, List.cons_append, List.append_assoc]
    rw [tokens?_of_tokenAfter? rfl rfl, tokens?_newLine,
      tokens?_written v h.1 _ (ends.writtenElements _ vs), tokens?_writtenElements vs h.2 _ ends]
    simp only [Option.map_map, Function.comp_def, elementTokens, List.cons_append,
      List.append_assoc]

theorem tokens?_writtenMembers (ms : List (List Char × Json)) (proper : HaveProper ms)
    (depth : Nat) {rest : List Char} (ends : Ends rest) :
    tokens? (writtenMembers depth ms ++ rest) = (tokens? rest).map (memberTokens ms ++ ·) := by
  match ms, proper with
  | [], _ =>
    simp only [writtenMembers, memberTokens, List.nil_append]
    exact Option.map_id'.symm
  | (key, v) :: ms, h =>
    simp only [writtenMembers, List.cons_append, List.append_assoc, List.nil_append]
    rw [tokens?_of_tokenAfter? rfl rfl, tokens?_newLine, tokens?_writtenString,
      tokens?_of_tokenAfter? rfl rfl, tokens?_of_isSpace rfl,
      tokens?_written v h.1 _ (ends.writtenMembers _ ms), tokens?_writtenMembers ms h.2 _ ends]
    simp only [Option.map_map, Function.comp_def, memberTokens, List.cons_append,
      List.append_assoc]

end

/-! ### From tokens to values -/

/-- No value starts with the token that ends an array. -/
theorem exists_cons_tokens (v : Json) : ∃ t ts, v.tokens = t :: ts ∧ t ≠ .closeBracket := by
  match v with
  | .null | .bool _ | .number _ | .string _ | .array [] | .array (_ :: _) | .object []
  | .object ((_, _) :: _) => exact ⟨_, _, rfl, nofun⟩

/-- A reader takes an item from tokens and leaves the last ones. -/
def Reads {α : Type} (reader : (ts : List Token) → Option (Taken α ts)) (ts : List Token) (item : α)
    (left : List Token) : Prop :=
  ∃ shorter, reader ts = some ⟨item, left, shorter⟩

/-- A value is read back from its tokens, whatever follows. -/
def ReadsBack (v : Json) : Prop := ∀ rest, Reads value? (v.tokens ++ rest) v rest

theorem reads_array {t : Token} {ts left : List Token} (other : t ≠ .closeBracket)
    {vs : List Json} (read : Reads elements? (t :: ts) vs left) :
    Reads value? (.openBracket :: t :: ts) (.array vs) left := by
  obtain ⟨shorter, read⟩ := read
  unfold Reads
  rw [value?, read]
  · exact ⟨_, rfl⟩
  · exact fun rest same => other (List.cons.inj same).1

theorem reads_object {t : Token} {ts left : List Token} (other : t ≠ .closeBrace)
    {ms : List (List Char × Json)} (read : Reads members? (t :: ts) ms left) :
    Reads value? (.openBrace :: t :: ts) (.object ms) left := by
  obtain ⟨shorter, read⟩ := read
  unfold Reads
  rw [value?, read]
  · exact ⟨_, rfl⟩
  · exact fun rest same => other (List.cons.inj same).1

mutual

theorem readsBack (v : Json) : v.ReadsBack := by
  intro rest
  match v with
  | .null | .bool _ | .number _ | .string _ | .array [] | .object [] =>
    simp only [tokens, List.cons_append, List.nil_append]
    unfold Reads
    rw [value?]
    exact ⟨_, rfl⟩
  | .array (v :: vs) =>
    obtain ⟨t, ts, starts, other⟩ := v.exists_cons_tokens
    have read := reads_elements vs v (readsBack v) rest
    simp only [tokens, List.cons_append, List.append_assoc, List.nil_append]
    rw [starts, List.cons_append] at read ⊢
    exact reads_array other read
  | .object ((key, v) :: ms) =>
    have other : Token.string key ≠ .closeBrace := nofun
    simp only [tokens, List.cons_append, List.append_assoc, List.nil_append]
    exact reads_object other (reads_members ms key v (readsBack v) rest)

theorem reads_elements (vs : List Json) (v : Json) (first : v.ReadsBack) (rest : List Token) :
    Reads elements? (v.tokens ++ (elementTokens vs ++ .closeBracket :: rest)) (v :: vs) rest := by
  match vs with
  | [] =>
    obtain ⟨_, read⟩ := first (.closeBracket :: rest)
    simp only [elementTokens, List.nil_append]
    unfold Reads
    rw [elements?, read]
    exact ⟨_, rfl⟩
  | u :: us =>
    obtain ⟨_, later⟩ := reads_elements us u (readsBack u) rest
    obtain ⟨_, read⟩ :=
      first (.comma :: (u.tokens ++ (elementTokens us ++ .closeBracket :: rest)))
    simp only [elementTokens, List.cons_append, List.append_assoc]
    unfold Reads
    rw [elements?, read]
    dsimp only
    rw [later]
    exact ⟨_, rfl⟩

theorem reads_members (ms : List (List Char × Json)) (key : List Char) (v : Json)
    (first : v.ReadsBack) (rest : List Token) :
    Reads members? (.string key :: .colon :: (v.tokens ++ (memberTokens ms ++ .closeBrace :: rest)))
      ((key, v) :: ms) rest := by
  match ms with
  | [] =>
    obtain ⟨_, read⟩ := first (.closeBrace :: rest)
    simp only [memberTokens, List.nil_append]
    unfold Reads
    rw [members?, read]
    exact ⟨_, rfl⟩
  | (next, u) :: us =>
    obtain ⟨_, later⟩ := reads_members us next u (readsBack u) rest
    obtain ⟨_, read⟩ := first (.comma :: .string next :: .colon ::
      (u.tokens ++ (memberTokens us ++ .closeBrace :: rest)))
    simp only [memberTokens, List.cons_append, List.append_assoc]
    unfold Reads
    rw [members?, read]
    dsimp only
    rw [later]
    exact ⟨_, rfl⟩

end

/-- A value whose numbers are numbers is read back from its text. -/
theorem parse?_render {v : Json} (proper : v.IsProper) : parse? v.render = some v := by
  have ends : Ends [] := fun c head => nomatch head
  have text := tokens?_written v proper 0 ends
  have none : tokens? [] = some [] := by rw [tokens?]
  rw [List.append_nil, none, Option.map_some, List.append_nil] at text
  have back := v.readsBack []
  rw [List.append_nil] at back
  obtain ⟨_, read⟩ := back
  rw [parse?, render, String.toList_ofList, text, Option.bind_eq_bind, Option.bind_some, read]

end CameraSetup.Json
