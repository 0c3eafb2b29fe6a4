import CameraSetup.Proofs.DeviceTree.Reading

/-! How the tokens of a device tree nest. A reader that only makes sure that no node is closed that
is not open accepts every beginning of well-nested tokens: nodes may stay open, there may be no root
or several, and properties may stand outside all nodes. -/

namespace CameraSetup.DeviceTree

/-! ### Trees of tokens -/

/-- What can stand in a node: properties, whole nodes, and tokens that say nothing. -/
inductive IsContent : List Token → Prop
  | nil : IsContent []
  | nop {ts : List Token} (later : IsContent ts) : IsContent (.nop :: ts)
  | property {offset : Nat} {value : List UInt8} {ts : List Token} (later : IsContent ts) :
      IsContent (.property offset value :: ts)
  | node {inner ts : List Token} (inside : IsContent inner) (later : IsContent ts) :
      IsContent (.beginNode :: (inner ++ .endNode :: ts))

/-- One root node, with everything in it. -/
def IsTree (ts : List Token) : Prop :=
  ∃ front inner back, ts = front ++ .beginNode :: (inner ++ .endNode :: back) ∧ IsContent inner ∧
    ∀ t ∈ front ++ back, t = .nop

/-- The nodes that are open, those that were opened while none was, and the properties that stood
in none. -/
structure Nesting where
  openNodes : Nat
  roots : Nat
  strays : Nat
  deriving DecidableEq, Repr

namespace Nesting

/-- Where a token leads. Nothing is left to close where no node is open, and nothing follows the end
token. -/
def meet (n : Nesting) : Token → Option Nesting
  | .beginNode =>
    some { n with
      openNodes := n.openNodes + 1
      roots := if n.openNodes = 0 then n.roots + 1 else n.roots }
  | .endNode => if n.openNodes = 0 then none else some { n with openNodes := n.openNodes - 1 }
  | .property _ _ =>
    some { n with strays := if n.openNodes = 0 then n.strays + 1 else n.strays }
  | .nop => some n
  | .finish => none

/-- Where tokens lead, unless they close a node that is not open. -/
def after (n : Nesting) (ts : List Token) : Option Nesting := ts.foldlM meet n

variable {n m : Nesting} {t : Token} {ts ts' : List Token}

theorem after_cons (n : Nesting) (t : Token) (ts : List Token) :
    n.after (t :: ts) = (n.meet t).bind (·.after ts) := rfl

theorem after_append (n : Nesting) (ts ts' : List Token) :
    n.after (ts ++ ts') = (n.after ts).bind (·.after ts') := by
  rw [after, List.foldlM_append]
  rfl

theorem after_of_nops (h : ∀ t ∈ ts, t = .nop) (n : Nesting) : n.after ts = some n := by
  induction ts with
  | nil => rfl
  | cons t ts ih =>
    rw [h t List.mem_cons_self, after_cons]
    exact ih fun t mem => h t (List.mem_cons_of_mem _ mem)

/-- Tokens that close one more open node than they open. -/
theorem exists_after_closings (n : Nesting) :
    ∃ m, n.after (List.replicate n.openNodes .endNode) = some m ∧ m.openNodes = 0 := by
  obtain ⟨openNodes, roots, strays⟩ := n
  induction openNodes with
  | zero => exact ⟨_, rfl, rfl⟩
  | succ openNodes ih => exact ih

end Nesting

/-! ### Well-nested tokens -/

variable {n m : Nesting} {ts inner : List Token} {depth : Nat}

theorem IsContent.after_of_open (h : IsContent ts) (n : Nesting) (inside : n.openNodes ≠ 0) :
    n.after ts = some n := by
  induction h generalizing n with
  | nil => rfl
  | nop _ ih => exact ih n inside
  | property _ ih =>
    rw [Nesting.after_cons, Nesting.meet, if_neg inside]
    exact ih n inside
  | node _ _ ih_inside ih_later =>
    have deeper : n.openNodes + 1 ≠ 0 := Nat.succ_ne_zero _
    rw [Nesting.after_cons, Nesting.meet, if_neg inside, Option.bind_some, Nesting.after_append,
      ih_inside _ deeper, Option.bind_some, Nesting.after_cons, Nesting.meet, if_neg deeper]
    exact ih_later n inside

/-- What stands outside all nodes: how many roots there are tells whether it is one tree. -/
theorem IsContent.after_of_closed (h : IsContent ts) (roots strays : Nat) :
    ∃ roots' strays', Nesting.after ⟨0, roots, strays⟩ ts = some ⟨0, roots', strays'⟩ ∧
      roots ≤ roots' ∧ strays ≤ strays' ∧
      (roots' = roots → strays' = strays → ∀ t ∈ ts, t = .nop) ∧
      (roots' = roots + 1 → strays' = strays → IsTree ts) := by
  induction h generalizing roots strays with
  | nil => exact ⟨roots, strays, rfl, Nat.le_refl _, Nat.le_refl _, by simp, by omega⟩
  | nop _ ih =>
    obtain ⟨roots', strays', met, more, more', nops, tree⟩ := ih roots strays
    refine ⟨roots', strays', met, more, more', fun same same' => ?_, fun one same' => ?_⟩
    · simpa using nops same same'
    · obtain ⟨front, inner, back, rfl, content, none⟩ := tree one same'
      exact ⟨.nop :: front, inner, back, rfl, content, by simpa using none⟩
  | property _ ih =>
    obtain ⟨roots', strays', met, more, more', -, -⟩ := ih roots (strays + 1)
    exact ⟨roots', strays', met, more, by omega, by omega, by omega⟩
  | @node inner ts inside _ _ ih =>
    obtain ⟨roots', strays', met, more, more', nops, -⟩ := ih (roots + 1) strays
    refine ⟨roots', strays', ?_, by omega, more', by omega, fun one same' => ?_⟩
    · rw [Nesting.after_cons, Nesting.meet, Option.bind_some, Nesting.after_append,
        inside.after_of_open _ (Nat.succ_ne_zero _), Option.bind_some, Nesting.after_cons]
      exact met
    · exact ⟨[], inner, ts, rfl, inside, nops one same'⟩

theorem IsTree.after (h : IsTree ts) : Nesting.after ⟨0, 0, 0⟩ ts = some ⟨0, 1, 0⟩ := by
  obtain ⟨front, inner, back, rfl, inside, nops⟩ := h
  rw [List.forall_mem_append] at nops
  rw [Nesting.after_append, Nesting.after_of_nops nops.1, Option.bind_some, Nesting.after_cons,
    Nesting.meet, Option.bind_some, Nesting.after_append,
    inside.after_of_open _ (Nat.succ_ne_zero _), Option.bind_some, Nesting.after_cons]
  exact Nesting.after_of_nops nops.2 _

/-- Tokens that close some nodes, one after the other, and then stand outside all nodes. -/
inductive Closes : Nat → List Token → Prop
  | content {ts : List Token} (outside : IsContent ts) : Closes 0 ts
  | closing {depth : Nat} {inner ts : List Token} (inside : IsContent inner)
      (later : Closes depth ts) : Closes (depth + 1) (inner ++ .endNode :: ts)

theorem Closes.nop (h : Closes depth ts) : Closes depth (.nop :: ts) := by
  cases h with
  | content outside => exact .content outside.nop
  | closing inside later => exact .closing inside.nop later

theorem Closes.property {offset : Nat} {value : List UInt8} (h : Closes depth ts) :
    Closes depth (.property offset value :: ts) := by
  cases h with
  | content outside => exact .content outside.property
  | closing inside later => exact .closing inside.property later

theorem Closes.opening (h : Closes (depth + 1) ts) : Closes depth (.beginNode :: ts) := by
  cases h with
  | closing inside later =>
    cases later with
    | content outside => exact .content (.node inside outside)
    | @closing _ inner' ts' inside' later' =>
      have node := inside.node inside'
      have whole := Closes.closing node later'
      simpa using whole

theorem closes_of_after (h : n.after ts = some m) (closed : m.openNodes = 0) :
    Closes n.openNodes ts := by
  induction ts generalizing n with
  | nil =>
    cases h
    rw [closed]
    exact .content .nil
  | cons t ts ih =>
    rw [Nesting.after_cons] at h
    cases t with
    | beginNode => exact (ih h).opening
    | nop => exact (ih h).nop
    | property => exact (ih h).property
    | finish => cases h
    | endNode =>
      rw [Nesting.meet] at h
      split at h
      · cases h
      · next some =>
        obtain ⟨depth, deeper⟩ := Nat.exists_eq_succ_of_ne_zero some
        have later := ih h
        simp only [deeper, Nat.succ_sub_one] at later
        rw [deeper]
        exact .closing .nil later

theorem isContent_of_after (h : Nesting.after ⟨0, 0, 0⟩ ts = some m) (closed : m.openNodes = 0) :
    IsContent ts := by
  cases closes_of_after h closed with
  | content outside => exact outside

/-- Tokens are one tree exactly if no node is left open, one was opened while none was, and no
property stood in none. -/
theorem isTree_iff : IsTree ts ↔ Nesting.after ⟨0, 0, 0⟩ ts = some ⟨0, 1, 0⟩ := by
  refine ⟨IsTree.after, fun h => ?_⟩
  obtain ⟨roots, strays, met, -, -, -, tree⟩ := (isContent_of_after h rfl).after_of_closed 0 0
  rw [h, Option.some.injEq, Nesting.mk.injEq] at met
  exact tree met.2.1.symm met.2.2.symm

/-- Tokens that close no node that is not open are a beginning of well-nested ones. -/
theorem exists_after_iff :
    (∃ n, Nesting.after ⟨0, 0, 0⟩ ts = some n) ↔ ∃ rest, IsContent (ts ++ rest) := by
  constructor
  · rintro ⟨n, met⟩
    obtain ⟨m, closed, none⟩ := n.exists_after_closings
    refine ⟨List.replicate n.openNodes .endNode, isContent_of_after (m := m) ?_ none⟩
    rw [Nesting.after_append, met, Option.bind_some, closed]
  · rintro ⟨rest, content⟩
    obtain ⟨roots, strays, met, -⟩ := content.after_of_closed 0 0
    rw [Nesting.after_append] at met
    obtain ⟨n, met, -⟩ := Option.bind_eq_some_iff.mp met
    exact ⟨n, met⟩

end CameraSetup.DeviceTree
