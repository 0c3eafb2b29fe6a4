import CameraSetup.Wizard.Step

/-! The keys of a terminal and what they mean to the wizard. -/

namespace CameraSetup

/-- A key of a terminal. All keys without a meaning of their own are alike. -/
inductive KeyCode
  | up
  | down
  | left
  | right
  | pageUp
  | pageDown
  | tab
  | enter
  | escape
  | backspace
  | char (c : Char)
  | unassigned
  deriving DecidableEq, Repr

/-- A key press. Of the keys held with it, only Control counts. -/
structure KeyPress where
  code : KeyCode
  control : Bool
  deriving DecidableEq, Repr

/-- What a key press means to the wizard. -/
def KeyPress.meaning (press : KeyPress) : Wizard.Key :=
  if press.control && press.code = .char 'c' then .interrupt
  else match press.code with
    | .up | .char 'k' => .up
    | .down | .char 'j' | .tab => .down
    | .left | .pageUp => .left
    | .right | .pageDown => .right
    | .enter | .char ' ' => .enter
    | .escape | .backspace => .back
    | _ => .other

end CameraSetup
