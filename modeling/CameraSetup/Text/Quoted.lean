import CameraSetup.Text.Quoted.Table

/-! Quoted text as messages show it: between double quotes, with escapes for the quote, the
backslash and every character without a picture. -/

namespace CameraSetup.Text

/-- A number in lower-case hexadecimal digits. -/
def hex (n : Nat) : List Char :=
  Nat.toDigits 16 n

/-- Whether a character is shown as itself. -/
def isPrintable (c : Char) : Bool :=
  0x20 ≤ c.toNat && !unprintableClass.contains c

/-- How one character is written between the quotes. -/
def escapeQuoted (c : Char) : List Char :=
  match c with
  | '"' => ['\\', '"']
  | '\\' => ['\\', '\\']
  | '\n' => ['\\', 'n']
  | '\r' => ['\\', 'r']
  | '\t' => ['\\', 't']
  | '\x00' => ['\\', '0']
  | c => if isPrintable c then [c] else ['\\', 'u', '\x7b'] ++ hex c.toNat ++ ['\x7d']

/-- The text between double quotes, with escapes. -/
def quoted (s : String) : String :=
  String.ofList ('"' :: s.toList.flatMap escapeQuoted ++ ['"'])

end CameraSetup.Text
