/-! Classes of characters, given by the ranges of code points that belong to them. -/

namespace CameraSetup.Text

/-- A set of characters, as inclusive ranges of code points. -/
structure CharClass where
  ranges : List (Nat × Nat)

/-- A character belongs to a class when its code point lies in one of the ranges. -/
def CharClass.contains (cls : CharClass) (c : Char) : Bool :=
  cls.ranges.any fun r => r.1 ≤ c.toNat && c.toNat ≤ r.2

end CameraSetup.Text
