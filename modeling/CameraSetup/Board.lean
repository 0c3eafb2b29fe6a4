/-! The add-on boards that carry camera ports. Boards are ordered by their ids. -/

namespace CameraSetup

/-- The id of an add-on board. -/
structure BoardId where
  text : String
  deriving DecidableEq, Repr

namespace BoardId

/-- How messages and menus name the board. -/
def label (id : BoardId) : String := "FPA-" ++ id.text

instance : Ord BoardId := ⟨fun a b => compare a.text b.text⟩

instance : Std.TransOrd BoardId where
  eq_swap := Std.OrientedOrd.eq_swap (α := String)
  isLE_trans := Std.TransOrd.isLE_trans (α := String)

instance : Std.LawfulEqOrd BoardId where
  compare_self := Std.ReflOrd.compare_self (α := String)
  eq_of_compare {a b} h := by
    cases a; cases b
    exact congrArg BoardId.mk (Std.LawfulEqOrd.eq_of_compare (α := String) h)

end BoardId

end CameraSetup
