import CameraSetup.Proofs.DeviceTree.Nesting
import Mathlib.Data.List.Basic

/-! Which blobs are read as overlays. The reader counts the open nodes, and all that it makes sure of
is that no node is closed that is not open: `accepts_iff_nested` says which streams of tokens that
lets through, and which of these are trees. -/

namespace CameraSetup

open DeviceTree

namespace DeviceTree

variable {ts : List Token} {t : Token} {n : Nesting} {offset : Nat}

theorem Reader.finish_not_mem_tokens (r : Reader) : Token.finish ∉ r.tokens.1 := by
  fun_induction Reader.tokens r with
  | case1 => simp
  | case2 => simp
  | case3 r token next other read tokens ending cut ih =>
    rw [cut] at ih
    intro mem
    rcases List.mem_cons.mp mem with same | mem
    · exact other same.symm
    · exact ih mem

/-- A blob holds tokens, from where its header says up to the first end token, and a block of
strings. -/
def Streams (blob strings : List UInt8) (ts : List Token) : Prop :=
  ∃ offsets, header blob = .ok offsets ∧ offsets.stringsOffset ≤ blob.length ∧
    strings = blob.drop offsets.stringsOffset ∧
    (Reader.startingAt blob offsets.structureOffset).tokens = (ts, .ok ())

theorem Streams.unique {blob strings strings' : List UInt8} {ts ts' : List Token}
    (h : Streams blob strings ts) (h' : Streams blob strings' ts') : strings = strings' ∧ ts = ts' := by
  obtain ⟨offsets, head, -, rfl, cut⟩ := h
  obtain ⟨offsets', head', -, rfl, cut'⟩ := h'
  rw [head, Except.ok.injEq] at head'
  subst head'
  rw [cut, Prod.mk.injEq] at cut'
  exact ⟨rfl, cut'.1⟩

/-- Among tokens there is a property with one node open, so that it is taken for one of the root. -/
def HasRootProperty (n : Nesting) (ts : List Token) (offset : Nat) : Prop :=
  ∃ front value back m, ts = front ++ .property offset value :: back ∧ n.after front = some m ∧
    m.openNodes = 1

theorem not_hasRootProperty_nil : ¬ HasRootProperty n [] offset := by
  rintro ⟨front, value, back, m, cut, -⟩
  simp at cut

theorem hasRootProperty_cons : HasRootProperty n (t :: ts) offset ↔
    ((∃ value, t = .property offset value) ∧ n.openNodes = 1) ∨
      ∃ m, n.meet t = some m ∧ HasRootProperty m ts offset := by
  constructor
  · rintro ⟨front, value, back, m, cut, met, one⟩
    cases front with
    | nil =>
      cases cut
      cases met
      exact .inl ⟨⟨value, rfl⟩, one⟩
    | cons _ front =>
      cases cut
      rw [Nesting.after_cons] at met
      obtain ⟨n', first, met⟩ := Option.bind_eq_some_iff.mp met
      exact .inr ⟨n', first, front, value, back, m, rfl, met, one⟩
  · rintro (⟨⟨value, rfl⟩, one⟩ | ⟨n', first, front, value, back, m, rfl, met, one⟩)
    · exact ⟨[], value, ts, n, rfl, rfl, one⟩
    · refine ⟨t :: front, value, back, m, rfl, ?_, one⟩
      rw [Nesting.after_cons, first, Option.bind_some, met]

end DeviceTree

namespace OverlayIdentity

variable {strings blob : List UInt8} {ts : List Token} {t : Token} {n m : Nesting}
  {r r' : Reading} {info : OverlayIdentity}

/-- The names of the properties that are taken for those of the root can be read. -/
def Named (strings : List UInt8) (n : Nesting) (ts : List Token) : Prop :=
  ∀ offset, HasRootProperty n ts offset → ∃ name, nameAt strings offset = .ok name

/-! ### One token -/

theorem depth_of_step (same : r.depth = n.openNodes) (read : r.step strings t = .ok r')
    (met : n.meet t = some m) : r'.depth = m.openNodes := by
  cases t with
  | beginNode =>
    cases read
    cases met
    rw [same]
  | endNode =>
    simp only [Reading.step, Nesting.meet, same] at read met
    split at read
    · cases read
    · next some =>
      rw [if_neg some] at met
      cases read
      cases met
      rfl
  | property offset value =>
    cases met
    simp only [Reading.step] at read
    split at read
    · obtain ⟨name, -, rfl⟩ := map_eq_ok.mp read
      exact same
    · cases read
      exact same
  | nop =>
    cases read
    cases met
    exact same
  | finish => cases met

theorem exists_step_iff (other : t ≠ .finish) (same : r.depth = n.openNodes) :
    (∃ r', r.step strings t = .ok r') ↔ (∃ m, n.meet t = some m) ∧
      ∀ offset value, t = .property offset value → n.openNodes = 1 →
        ∃ name, nameAt strings offset = .ok name := by
  cases t with
  | beginNode => simp [Reading.step, Nesting.meet]
  | endNode =>
    simp only [Reading.step, Nesting.meet, same]
    by_cases none : n.openNodes = 0
    · simp [none]
    · simp [none]
  | property offset value =>
    simp only [Reading.step, Nesting.meet, same]
    by_cases one : n.openNodes = 1
    · rw [if_pos one]
      constructor
      · rintro ⟨r', read⟩
        obtain ⟨name, named, -⟩ := map_eq_ok.mp read
        refine ⟨⟨_, rfl⟩, fun _ _ here _ => ⟨name, ?_⟩⟩
        cases here
        exact named
      · rintro ⟨-, readable⟩
        obtain ⟨name, named⟩ := readable offset value rfl one
        exact ⟨_, map_eq_ok.mpr ⟨name, named, rfl⟩⟩
    · simp [one]
  | nop => simp [Reading.step, Nesting.meet]
  | finish => exact absurd rfl other

/-! ### All tokens -/

theorem exists_foldlM_step_iff (unended : .finish ∉ ts) (same : r.depth = n.openNodes) :
    (∃ r', ts.foldlM (Reading.step strings) r = .ok r') ↔
      (∃ m, n.after ts = some m) ∧ Named strings n ts := by
  induction ts generalizing r n with
  | nil =>
    exact ⟨fun _ => ⟨⟨n, rfl⟩, fun _ has => absurd has not_hasRootProperty_nil⟩, fun _ => ⟨r, rfl⟩⟩
  | cons t ts ih =>
    rw [List.mem_cons, not_or] at unended
    have first := @exists_step_iff strings t n r (Ne.symm unended.1) same
    rw [List.foldlM_cons]
    constructor
    · rintro ⟨r'', read⟩
      obtain ⟨r', step, read⟩ := bind_eq_ok.mp read
      obtain ⟨⟨m, met⟩, named⟩ := first.mp ⟨r', step⟩
      obtain ⟨⟨m', later⟩, named'⟩ :=
        (ih unended.2 (depth_of_step same step met)).mp ⟨r'', read⟩
      refine ⟨⟨m', by rw [Nesting.after_cons, met, Option.bind_some, later]⟩, fun offset has => ?_⟩
      rcases hasRootProperty_cons.mp has with ⟨⟨value, here⟩, one⟩ | ⟨_, met', has⟩
      · exact named offset value here one
      · rw [met] at met'
        cases met'
        exact named' offset has
    · rintro ⟨⟨m', met⟩, named⟩
      rw [Nesting.after_cons] at met
      obtain ⟨m, met, later⟩ := Option.bind_eq_some_iff.mp met
      obtain ⟨r', step⟩ := first.mpr ⟨⟨m, met⟩, fun offset value here one =>
        named offset (hasRootProperty_cons.mpr (.inl ⟨⟨value, here⟩, one⟩))⟩
      obtain ⟨r'', read⟩ := (ih unended.2 (depth_of_step same step met)).mpr
        ⟨⟨m', later⟩, fun offset has => named offset (hasRootProperty_cons.mpr (.inr ⟨m, met, has⟩))⟩
      exact ⟨r'', bind_eq_ok.mpr ⟨r', step, read⟩⟩

theorem decode_eq_ok_iff : decode blob = .ok info ↔ ∃ strings ts depth,
    Streams blob strings ts ∧
      ts.foldlM (Reading.step strings) ⟨0, .empty⟩ = .ok ⟨depth, info⟩ := by
  unfold decode Streams
  rw [bind_eq_ok]
  constructor
  · rintro ⟨offsets, head, h⟩
    by_cases outside : blob.length < offsets.stringsOffset
    · rw [if_pos outside] at h
      cases h
    · rw [if_neg outside] at h
      obtain ⟨⟨depth, found⟩, read, h⟩ := bind_eq_ok.mp h
      obtain ⟨_, ending, h⟩ := bind_eq_ok.mp h
      cases pure_eq_ok.mp h
      have inside := Nat.le_of_not_lt outside
      exact ⟨_, _, depth, ⟨offsets, head, inside, rfl, Prod.ext rfl ending⟩, read⟩
  · rintro ⟨strings, ts, depth, ⟨offsets, head, inside, rfl, cut⟩, read⟩
    refine ⟨offsets, head, ?_⟩
    rw [if_neg (Nat.not_lt.mpr inside), cut]
    exact bind_eq_ok.mpr ⟨_, read, rfl⟩

theorem exists_decode_iff : (∃ info, decode blob = .ok info) ↔ ∃ strings ts,
    Streams blob strings ts ∧ (∃ rest, IsContent (ts ++ rest)) ∧ Named strings ⟨0, 0, 0⟩ ts := by
  have run : ∀ strings ts, Streams blob strings ts →
      ((∃ r, ts.foldlM (Reading.step strings) ⟨0, .empty⟩ = .ok r) ↔
        (∃ rest, IsContent (ts ++ rest)) ∧ Named strings ⟨0, 0, 0⟩ ts) := by
    rintro strings ts ⟨offsets, -, -, -, cut⟩
    have unended := (Reader.startingAt blob offsets.structureOffset).finish_not_mem_tokens
    rw [cut] at unended
    rw [← exists_after_iff]
    exact exists_foldlM_step_iff unended rfl
  constructor
  · rintro ⟨info, read⟩
    obtain ⟨strings, ts, depth, holds, read⟩ := decode_eq_ok_iff.mp read
    exact ⟨strings, ts, holds, (run strings ts holds).mp ⟨_, read⟩⟩
  · rintro ⟨strings, ts, holds, nested⟩
    obtain ⟨⟨depth, info⟩, read⟩ := (run strings ts holds).mpr nested
    exact ⟨info, decode_eq_ok_iff.mpr ⟨strings, ts, depth, holds, read⟩⟩

/-- A blob is read exactly if its tokens are the beginning of well-nested ones, up to the end token,
and the names of those properties can be read that are taken for the root's. So they need not be a
tree: they are one if at the end token no node is open, one node was opened while none was, and no
property stood outside all nodes. -/
theorem accepts_iff_nested (blob : List UInt8) :
    ((∃ info, decode blob = .ok info) ↔ ∃ strings ts, Streams blob strings ts ∧
      (∃ rest, IsContent (ts ++ rest)) ∧ Named strings ⟨0, 0, 0⟩ ts) ∧
    ∀ info strings ts, decode blob = .ok info → Streams blob strings ts →
      ∃ n, Nesting.after ⟨0, 0, 0⟩ ts = some n ∧
        (IsTree ts ↔ n.openNodes = 0 ∧ n.roots = 1 ∧ n.strays = 0) := by
  refine ⟨exists_decode_iff, fun info strings ts read holds => ?_⟩
  obtain ⟨strings', ts', holds', nested, -⟩ := exists_decode_iff.mp ⟨info, read⟩
  have same : ts' = ts := (holds'.unique holds).2
  subst same
  obtain ⟨n, met⟩ := exists_after_iff.mpr nested
  refine ⟨n, met, ?_⟩
  rw [isTree_iff, met, Option.some.injEq, Nesting.mk.injEq]

/-- Nodes one after the other, with a property before them and one in the second. -/
def looseBlob : List UInt8 :=
  word magicNumber ++ word 109 ++ word 40 ++ word 96 ++ List.replicate 24 0 ++
    (word 3 ++ word 0 ++ word 0) ++ (word 1 ++ [0, 0, 0, 0]) ++ word 2 ++
    (word 1 ++ [0, 0, 0, 0]) ++ (word 3 ++ word 2 ++ word 0 ++ [66, 0, 0, 0]) ++ word 2 ++ word 9 ++
    Text.encodeUtf8 "overlay-name" ++ [0]

/-- Its tokens. -/
def looseTokens : List Token :=
  [.property 0 [], .beginNode, .endNode, .beginNode, .property 0 [66, 0], .endNode]

/-- The name that the second root says is read as that of the overlay. -/
theorem accepts_iff_nested_two_roots :
    decode looseBlob = .ok ⟨some "B", none, []⟩ ∧
    Streams looseBlob (Text.encodeUtf8 "overlay-name" ++ [0]) looseTokens ∧
    Nesting.after ⟨0, 0, 0⟩ looseTokens = some ⟨0, 2, 1⟩ ∧ ¬ IsTree looseTokens := by
  have holds : Streams looseBlob (Text.encodeUtf8 "overlay-name" ++ [0]) looseTokens := by
    refine ⟨⟨40, 96⟩, by rfl, by decide +kernel, by decide +kernel, ?_⟩
    refine Reader.tokens_cons rfl (by decide) ?_
    refine Reader.tokens_cons rfl (by decide) ?_
    refine Reader.tokens_cons rfl (by decide) ?_
    refine Reader.tokens_cons rfl (by decide) ?_
    refine Reader.tokens_cons rfl (by decide) ?_
    exact Reader.tokens_cons rfl (by decide) (Reader.tokens_of_finish rfl)
  have read : decode looseBlob = .ok ⟨some "B", none, []⟩ :=
    decode_eq_ok_iff.mpr ⟨_, _, 0, holds, by decide +kernel⟩
  have met : Nesting.after ⟨0, 0, 0⟩ looseTokens = some ⟨0, 2, 1⟩ := by decide
  obtain ⟨n, met', tree⟩ := (accepts_iff_nested looseBlob).2 _ _ _ read holds
  rw [met, Option.some.injEq] at met'
  subst met'
  exact ⟨read, holds, met, fun one => absurd (tree.mp one).2.1 (by decide)⟩

/-- A blob whose only node is open when the tokens end. -/
def unclosedBlob : List UInt8 :=
  word magicNumber ++ word 52 ++ word 40 ++ word 52 ++ List.replicate 24 0 ++
    (word 1 ++ [0, 0, 0, 0]) ++ word 9

/-- The end token may come while a node is open. -/
theorem accepts_unclosed_node : decode unclosedBlob = .ok .empty ∧
    Streams unclosedBlob [] [.beginNode] ∧ ¬ IsTree [.beginNode] := by
  have holds : Streams unclosedBlob [] [.beginNode] :=
    ⟨⟨40, 52⟩, by rfl, by decide +kernel, by decide +kernel,
      Reader.tokens_cons rfl (by decide) (Reader.tokens_of_finish rfl)⟩
  refine ⟨decode_eq_ok_iff.mpr ⟨_, _, 1, holds, rfl⟩, holds, ?_⟩
  rw [isTree_iff]
  decide

end OverlayIdentity

end CameraSetup
