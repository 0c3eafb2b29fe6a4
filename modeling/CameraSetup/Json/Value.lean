import CameraSetup.Json.Token

/-! JSON values, read from text and written as text. The writer puts each element and each member on
a line of its own, two more spaces in. -/

namespace CameraSetup

/-- A JSON value. Members of an object keep their order, and a key may occur twice. -/
inductive Json
  | null
  | bool (value : Bool)
  | number (literal : List Char)
  | string (value : List Char)
  | array (elements : List Json)
  | object (members : List (List Char × Json))

namespace Json

/-! ### Reading -/

/-- What a reader takes from tokens, and the tokens that are left, which are fewer. -/
structure Taken (α : Type) (ts : List Token) where
  item : α
  left : List Token
  shorter : left.length < ts.length

mutual

/-- Reads a value. -/
def value? (ts : List Token) : Option (Taken Json ts) :=
  match ts with
  | .null :: rest => some ⟨.null, rest, by simp⟩
  | .bool b :: rest => some ⟨.bool b, rest, by simp⟩
  | .number n :: rest => some ⟨.number n, rest, by simp⟩
  | .string s :: rest => some ⟨.string s, rest, by simp⟩
  | .openBracket :: .closeBracket :: rest => some ⟨.array [], rest, by simp only [List.length_cons]; omega⟩
  | .openBracket :: rest =>
    match elements? rest with
    | none => none
    | some ⟨vs, left, h⟩ => some ⟨.array vs, left, by simp only [List.length_cons]; omega⟩
  | .openBrace :: .closeBrace :: rest => some ⟨.object [], rest, by simp only [List.length_cons]; omega⟩
  | .openBrace :: rest =>
    match members? rest with
    | none => none
    | some ⟨ms, left, h⟩ => some ⟨.object ms, left, by simp only [List.length_cons]; omega⟩
  | _ => none
  termination_by (ts.length, 0)

/-- Reads elements up to the closing bracket; there is at least one. -/
def elements? (ts : List Token) : Option (Taken (List Json) ts) :=
  match value? ts with
  | some ⟨v, .closeBracket :: rest, h⟩ => some ⟨[v], rest, Nat.lt_of_succ_lt h⟩
  | some ⟨v, .comma :: rest, h⟩ =>
    have hr : rest.length < ts.length := Nat.lt_of_succ_lt h
    match elements? rest with
    | none => none
    | some ⟨vs, left, hl⟩ => some ⟨v :: vs, left, Nat.lt_trans hl hr⟩
  | _ => none
  termination_by (ts.length, 1)

/-- Reads members up to the closing brace; there is at least one. -/
def members? (ts : List Token) : Option (Taken (List (List Char × Json)) ts) :=
  match ts with
  | .string key :: .colon :: rest =>
    match value? rest with
    | some ⟨v, .closeBrace :: left, h⟩ =>
      some ⟨[(key, v)], left, by simp only [List.length_cons] at h ⊢; omega⟩
    | some ⟨v, .comma :: left, h⟩ =>
      have hl : left.length < rest.length := Nat.lt_of_succ_lt h
      match members? left with
      | none => none
      | some ⟨ms, last, hm⟩ =>
        some ⟨(key, v) :: ms, last, by simp only [List.length_cons]; omega⟩
    | _ => none
  | _ => none
  termination_by (ts.length, 1)

end

/-- Reads text that holds one value and nothing else. -/
def parse? (text : String) : Option Json := do
  let tokens ← tokens? text.toList
  match value? tokens with
  | some ⟨v, [], _⟩ => some v
  | _ => none

/-! ### Writing -/

/-- A digit of a hexadecimal number. -/
def hexDigit (n : Nat) : Char := if n < 10 then Char.ofNat (48 + n) else Char.ofNat (87 + n)

/-- How a string holds one character. -/
def writtenChar (c : Char) : List Char :=
  match c with
  | '"' => ['\\', '"']
  | '\\' => ['\\', '\\']
  | '\x08' => ['\\', 'b']
  | '\x0c' => ['\\', 'f']
  | '\n' => ['\\', 'n']
  | '\r' => ['\\', 'r']
  | '\t' => ['\\', 't']
  | c =>
    if c.toNat < 0x20 then
      ['\\', 'u', '0', '0', hexDigit (c.toNat / 16), hexDigit (c.toNat % 16)]
    else [c]

/-- A string with its quotes. -/
def writtenString (s : List Char) : List Char := '"' :: s.flatMap writtenChar ++ ['"']

/-- The start of a line at a depth of nesting. -/
def newLine (depth : Nat) : List Char := '\n' :: List.replicate (2 * depth) ' '

mutual

/-- The text of a value at a depth of nesting. -/
def written (depth : Nat) : Json → List Char
  | .null => ['n', 'u', 'l', 'l']
  | .bool true => ['t', 'r', 'u', 'e']
  | .bool false => ['f', 'a', 'l', 's', 'e']
  | .number literal => literal
  | .string s => writtenString s
  | .array [] => ['[', ']']
  | .array (v :: vs) =>
    '[' :: newLine (depth + 1) ++ written (depth + 1) v ++ writtenElements (depth + 1) vs
      ++ newLine depth ++ [']']
  | .object [] => ['\x7b', '\x7d']
  | .object ((key, v) :: ms) =>
    '\x7b' :: newLine (depth + 1) ++ writtenString key ++ [':', ' '] ++ written (depth + 1) v
      ++ writtenMembers (depth + 1) ms ++ newLine depth ++ ['\x7d']

/-- The elements after the first. -/
def writtenElements (depth : Nat) : List Json → List Char
  | [] => []
  | v :: vs => ',' :: newLine depth ++ written depth v ++ writtenElements depth vs

/-- The members after the first. -/
def writtenMembers (depth : Nat) : List (List Char × Json) → List Char
  | [] => []
  | (key, v) :: ms =>
    ',' :: newLine depth ++ writtenString key ++ [':', ' '] ++ written depth v
      ++ writtenMembers depth ms

end

/-- The text of a value. -/
def render (v : Json) : String := String.ofList (written 0 v)

end Json

end CameraSetup
