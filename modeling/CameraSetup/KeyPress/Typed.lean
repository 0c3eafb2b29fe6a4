import CameraSetup.KeyPress

/-! The key presses in what a terminal sends. A key without a character of its own sends a control
sequence, and Control with a letter sends the character with the letter's place in the alphabet. -/

namespace CameraSetup.KeyPress

/-- A key press without Control. -/
def ofCode (code : KeyCode) : KeyPress := ⟨code, false⟩

/-- The end of a run: Control with the letter c. -/
def interruption : KeyPress := ⟨.char 'c', true⟩

/-- The key press that sends a single character. -/
def ofChar (c : Char) : KeyPress :=
  match c with
  | '\t' => ofCode .tab
  | '\n' | '\r' => ofCode .enter
  | '\x08' | '\x7f' => ofCode .backspace
  | '\x1b' => ofCode .escape
  | c => if c.toNat - 1 < 26 then ⟨.char (Char.ofNat (c.toNat + 96)), true⟩ else ofCode (.char c)

/-- The key presses in what a terminal sends. -/
def typed : List Char → List KeyPress
  | [] => []
  | '\x1b' :: '[' :: 'A' :: rest => ofCode .up :: typed rest
  | '\x1b' :: '[' :: 'B' :: rest => ofCode .down :: typed rest
  | '\x1b' :: '[' :: 'C' :: rest => ofCode .right :: typed rest
  | '\x1b' :: '[' :: 'D' :: rest => ofCode .left :: typed rest
  | '\x1b' :: '[' :: '5' :: '~' :: rest => ofCode .pageUp :: typed rest
  | '\x1b' :: '[' :: '6' :: '~' :: rest => ofCode .pageDown :: typed rest
  | c :: rest => ofChar c :: typed rest

/-- The key presses in a line. The line end counts as Enter only on a line of its own, where it is
all that was typed; the end of the input, which leaves no line at all, ends the run. -/
def ofLine (line : String) : List KeyPress :=
  match line.toList with
  | [] => [interruption]
  | ['\n'] => [ofCode .enter]
  | cs => typed (cs.filter (· ≠ '\n'))

end CameraSetup.KeyPress
