import CameraSetup.Descriptor

/-! The decimal digits of a number, which are all that it is written with, and which tell it. -/

namespace CameraSetup.Text

theorem toList_toString (n : Nat) : (toString n).toList = Nat.toDigits 10 n := String.toList_ofList

theorem isDigit_of_mem_toString {n : Nat} {c : Char} (mem : c ∈ (toString n).toList) :
    c.isDigit = true :=
  Nat.isDigit_of_mem_toDigits (by decide) (by decide) (toList_toString n ▸ mem)

theorem decimalValue_toString (n : Nat) : decimalValue (toString n).toList = n := by
  rw [toList_toString]
  exact Nat.ofDigitChars_toDigits (by decide) (by decide)

theorem eq_of_toString_eq {m n : Nat} (same : toString m = toString n) : m = n := by
  have values := congrArg (fun s => decimalValue s.toList) same
  simpa only [decimalValue_toString] using values

end CameraSetup.Text
