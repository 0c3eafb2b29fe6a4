/-! What a camera port can be set up with: a sensor, a number of lanes, and possibly a link
booster. -/

namespace CameraSetup

/-- Whether a link booster sits between a sensor and its port. -/
inductive LinkBooster
  | absent
  | present
  deriving DecidableEq, Repr

/-- The option of no link booster comes first. -/
def LinkBooster.rank : LinkBooster → Nat
  | .absent => 0
  | .present => 1

instance : Ord LinkBooster := ⟨fun a b => compare a.rank b.rank⟩

instance : Std.TransOrd LinkBooster where
  eq_swap := Std.OrientedOrd.eq_swap (α := Nat)
  isLE_trans := Std.TransOrd.isLE_trans (α := Nat)

instance : Std.LawfulEqOrd LinkBooster where
  compare_self := Std.ReflOrd.compare_self (α := Nat)
  eq_of_compare {a b} h := by
    cases a <;> cases b <;> first | rfl | cases h

/-- How menus name the option. -/
def LinkBooster.label : LinkBooster → String
  | .absent => "No GMSL"
  | .present => "GMSL"

/-- How menus name a number of lanes. -/
def laneText (lanes : Nat) : String :=
  if lanes = 1 then "1 lane" else s!"{lanes} lanes"

/-- The complete setup of one port. -/
structure PortSetup where
  sensor : String
  lanes : Nat
  linkBooster : LinkBooster
  deriving DecidableEq, Repr

/-- How menus show the setup. -/
def PortSetup.label (setup : PortSetup) : String :=
  s!"{setup.sensor}, {laneText setup.lanes}, {setup.linkBooster.label}"

end CameraSetup
