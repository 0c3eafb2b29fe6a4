import CameraSetup.Proofs.DeviceTree.Reading

/-! What is read from a flattened tree: the strings that the properties of its root hold. The nodes
below the root are walked through and leave nothing behind, however deep they go. -/

namespace CameraSetup

open DeviceTree

namespace DeviceTree

/-! ### What a root says -/

/-- The value of the last property of a name. -/
def lastValue? (properties : List Property) (name : String) : Option (List UInt8) :=
  ((properties.filter fun p => p.name.octets = Text.encodeUtf8 name).getLast?).map (·.value)

/-- The strings of a value: the octets between zero octets, where there are any, read as text with a
replacement character for whatever is none. -/
def heldStrings (value : List UInt8) : List String :=
  ((value.splitOn 0).filter (· ≠ [])).map fun octets => String.ofList (Text.decodeLenient octets)

/-- What the properties of a root say of an overlay. -/
def identityOf (properties : List Property) : OverlayIdentity where
  overlayName := (lastValue? properties "overlay-name").bind fun value => (heldStrings value).head?
  headerName :=
    (lastValue? properties "jetson-header-name").bind fun value => (heldStrings value).head?
  compatible := ((lastValue? properties "compatible").map heldStrings).getD []

theorem splitAtZero_eq (value : List UInt8) : splitAtZero value = value.splitOn 0 := by
  induction value with
  | nil => rfl
  | cons b bs ih =>
    simp only [List.splitOn] at ih ⊢
    rw [splitAtZero, ih, List.splitOnP_cons_eq_if_modifyHead]
    simp only [beq_iff_eq]
    split
    · rfl
    · cases split : List.splitOnP (· == 0) bs with
      | nil => exact absurd split (List.splitOnP_ne_nil _ bs)
      | cons octets rest => rfl

theorem stringsIn_eq (value : List UInt8) : stringsIn value = heldStrings value := by
  have nonempty : (fun octets : List UInt8 => !octets.isEmpty) =
      fun octets => decide (octets ≠ []) := by
    funext octets
    cases octets <;> rfl
  rw [stringsIn, heldStrings, splitAtZero_eq, nonempty]

theorem encodeUtf8_inj {s t : String} : Text.encodeUtf8 s = Text.encodeUtf8 t ↔ s = t := by
  constructor
  · intro same
    have := congrArg Text.decodeUtf8? same
    simpa using this
  · rintro rfl
    rfl

theorem lastValue?_concat (properties : List Property) {p : Property} {text : String}
    (named : p.name.octets = Text.encodeUtf8 text) (name : String) :
    lastValue? (properties ++ [p]) name =
      if text = name then some p.value else lastValue? properties name := by
  rw [lastValue?, List.filter_append]
  split
  · next same =>
    subst same
    simp [named]
  · next other =>
    have out : ¬ p.name.octets = Text.encodeUtf8 name := by
      rw [named, encodeUtf8_inj]
      exact other
    simp [out, lastValue?]

/-- A property more counts in place of the earlier ones of its name. -/
theorem identityOf_concat (properties : List Property) {p : Property} {text : String}
    (named : p.name.octets = Text.encodeUtf8 text) :
    identityOf (properties ++ [p]) = (identityOf properties).withProperty text p.value := by
  simp only [identityOf, lastValue?_concat properties named, OverlayIdentity.withProperty,
    stringsIn_eq]
  by_cases overlay : text = "overlay-name"
  · subst overlay
    simp
  by_cases header : text = "jetson-header-name"
  · subst header
    simp
  by_cases compatible : text = "compatible"
  · subst compatible
    simp
  simp [overlay, header, compatible]

end DeviceTree

namespace OverlayIdentity

/-! ### Walks through trees -/

theorem foldlM_append_of_ok {α β ε : Type} {f : β → α → Except ε β} {xs : List α} {b b' : β}
    (h : xs.foldlM f b = .ok b') (ys : List α) : (xs ++ ys).foldlM f b = ys.foldlM f b' := by
  rw [List.foldlM_append, h]
  rfl

theorem foldlM_properties_below (properties : List Property) (depth : Nat)
    (info : OverlayIdentity) :
    (properties.map .property).foldlM Reading.meet ⟨depth + 2, info⟩ = .ok ⟨depth + 2, info⟩ := by
  induction properties with
  | nil => rfl
  | cons p properties ih => exact ih

mutual

/-- A walk through a node below the root ends as it began. -/
theorem foldlM_marks (node : TreeNode) (depth : Nat) (info : OverlayIdentity) :
    node.marks.foldlM Reading.meet ⟨depth + 1, info⟩ = .ok ⟨depth + 1, info⟩ := by
  cases node with
  | mk name properties children =>
    rw [TreeNode.marks, List.foldlM_cons]
    show (properties.map Mark.property ++ (marksOf children ++ [Mark.closing])).foldlM Reading.meet
      ⟨depth + 2, info⟩ = _
    rw [foldlM_append_of_ok (foldlM_properties_below properties depth info),
      foldlM_append_of_ok (foldlM_marksOf children (depth + 1) info)]
    rfl

theorem foldlM_marksOf (nodes : List TreeNode) (depth : Nat) (info : OverlayIdentity) :
    (marksOf nodes).foldlM Reading.meet ⟨depth + 1, info⟩ = .ok ⟨depth + 1, info⟩ := by
  cases nodes with
  | nil => rfl
  | cons node nodes =>
    rw [marksOf, foldlM_append_of_ok (foldlM_marks node depth info)]
    exact foldlM_marksOf nodes depth info

end

/-- The properties of the root are taken in one after the other. -/
theorem foldlM_properties {properties : List Property} (before : List Property)
    (readable : ∀ p ∈ properties, ∃ text, p.name.octets = Text.encodeUtf8 text) :
    (properties.map .property).foldlM Reading.meet ⟨1, identityOf before⟩ =
      .ok ⟨1, identityOf (before ++ properties)⟩ := by
  induction properties generalizing before with
  | nil => simp [pure, Except.pure]
  | cons p properties ih =>
    obtain ⟨text, named⟩ := readable p List.mem_cons_self
    have met : Reading.meet ⟨1, identityOf before⟩ (.property p) =
        .ok ⟨1, identityOf (before ++ [p])⟩ := by
      rw [identityOf_concat before named]
      simp [Reading.meet, named]
    rw [List.map_cons, List.foldlM_cons, met]
    have rest := ih (before ++ [p]) fun q mem => readable q (List.mem_cons_of_mem p mem)
    rwa [List.append_assoc, List.singleton_append] at rest

theorem foldlM_root {root : TreeNode}
    (readable : ∀ p ∈ root.properties, ∃ text, p.name.octets = Text.encodeUtf8 text) :
    root.marks.foldlM Reading.meet ⟨0, .empty⟩ = .ok ⟨0, identityOf root.properties⟩ := by
  cases root with
  | mk name properties children =>
    rw [TreeNode.properties] at readable ⊢
    have start : OverlayIdentity.empty = identityOf [] := rfl
    rw [TreeNode.marks, List.foldlM_cons, start]
    show (properties.map Mark.property ++ (marksOf children ++ [Mark.closing])).foldlM Reading.meet
      ⟨1, identityOf []⟩ = _
    have taken := foldlM_properties [] readable
    rw [List.nil_append] at taken
    rw [foldlM_append_of_ok taken,
      foldlM_append_of_ok (foldlM_marksOf children 0 _)]
    rfl

/-! ### Blobs -/

variable {root : TreeNode} {blob : List UInt8} {structureOffset stringsOffset : Nat}

theorem structureOffset_lt (h : root.Encodes blob structureOffset stringsOffset) :
    structureOffset < blob.length := by
  have some := h.walk.ne_nil
  rw [ne_eq, List.drop_eq_nil_iff] at some
  omega

theorem header_of_encodes (h : root.Encodes blob structureOffset stringsOffset) :
    header blob = .ok ⟨structureOffset, stringsOffset⟩ := by
  have inside := structureOffset_lt h
  obtain ⟨long, small⟩ := h.size
  obtain ⟨rest, split⟩ := h.header
  have strings := h.strings
  have whole : blob = word magicNumber ++ (word blob.length ++
      (word structureOffset ++ (word stringsOffset ++ rest))) := by
    simpa only [List.append_assoc] using split.symm
  have read := congrArg (Reader.mk 0) whole
  have short : ¬ blob.length < headerLength := by omega
  rw [header, if_neg short, show Reader.startingAt blob 0 = _ from read]
  simp only [bind, Except.bind, pure, Except.pure]
  rw [Reader.number_word (by decide)]
  dsimp only
  rw [if_neg (fun differ => differ rfl), Reader.number_word small]
  dsimp only
  rw [if_neg (Nat.lt_irrefl _), Reader.number_word (by omega)]
  dsimp only
  rw [Reader.number_word (by omega)]

/-- Where something is found the tokens are read to their end. -/
theorem of_found_eq_ok {strings : List UInt8} {reader : Reader} {r r' : Reading}
    (h : found strings reader r = .ok r') :
    reader.tokens.1.foldlM (Reading.step strings) r = .ok r' ∧ reader.tokens.2 = .ok () := by
  rw [found] at h
  obtain ⟨reading, read, h⟩ := bind_eq_ok.mp h
  obtain ⟨_, ending, h⟩ := bind_eq_ok.mp h
  cases pure_eq_ok.mp h
  exact ⟨read, ending⟩

/-- What is read from a flattened tree is what the properties of its root say. -/
theorem decode_of_encodes (h : root.Encodes blob structureOffset stringsOffset)
    (readable : ∀ p ∈ root.properties, ∃ text, p.name.octets = Text.encodeUtf8 text) :
    decode blob = .ok (identityOf root.properties) := by
  have strings := h.strings
  obtain ⟨-, small⟩ := h.size
  have walk := found_of_written h.walk (by rw [List.length_drop]; omega)
    (by rw [List.length_drop]; omega) ⟨0, .empty⟩ h.aligned
  rw [foldlM_root readable] at walk
  obtain ⟨read, ending⟩ := of_found_eq_ok walk
  have inside : ¬ blob.length < stringsOffset := by omega
  rw [decode, header_of_encodes h]
  simp only [bind, Except.bind, pure, Except.pure, if_neg inside, Reader.startingAt, read, ending]

/-- An overlay named A. A node in it has a property of the same name, which says B. -/
def nestedNames : TreeNode :=
  .mk ⟨[], by decide⟩ [⟨⟨Text.encodeUtf8 "overlay-name", by decide⟩, [65, 0]⟩]
    [.mk ⟨[110], by decide⟩ [⟨⟨Text.encodeUtf8 "overlay-name", by decide⟩, [66, 0]⟩] []]

/-- The walk through `nestedNames`, with a token that says nothing after the root is opened. -/
def nestedNamesWalk : List UInt8 :=
  word 1 ++ ([0, 0, 0, 0] ++ (word 4 ++ (word 3 ++ (word 2 ++ (word 0 ++ ([65, 0, 0, 0] ++
    (word 1 ++ ([110, 0, 0, 0] ++ (word 3 ++ (word 2 ++ (word 0 ++ ([66, 0, 0, 0] ++
      (word 2 ++ (word 2 ++ (word 9 ++ Text.encodeUtf8 "overlay-name" ++ [0])))))))))))))))

/-- `nestedNames` flattened, with the walk after the header and the strings after the walk. -/
def nestedNamesBlob : List UInt8 :=
  word magicNumber ++ word 117 ++ word 40 ++ word 104 ++ List.replicate 24 0 ++ nestedNamesWalk

theorem decode_of_encodes_nested : nestedNames.Encodes nestedNamesBlob 40 104 ∧
    decode nestedNamesBlob = .ok ⟨some "A", none, []⟩ := by
  have named : Text.encodeUtf8 "overlay-name" ++ [0] <+: (nestedNamesBlob.drop 104).drop 0 := by
    decide +kernel
  have flattened : nestedNames.Encodes nestedNamesBlob 40 104 := {
    size := by decide +kernel
    header := by decide +kernel
    aligned := by decide
    strings := by decide +kernel
    walk := by
      refine .opening ⟨[0, 0, 0], rfl, by decide, by decide⟩ (.nop ?_)
      refine .property named ⟨[0, 0], rfl, by decide, by decide⟩ ?_
      refine .opening ⟨[0, 0], rfl, by decide, by decide⟩ ?_
      refine .property named ⟨[0, 0], rfl, by decide, by decide⟩ ?_
      exact .closing (.closing (.finish _)) }
  have readable : ∀ p ∈ nestedNames.properties, ∃ text, p.name.octets = Text.encodeUtf8 text := by
    intro p mem
    rw [nestedNames, TreeNode.properties, List.mem_singleton] at mem
    exact ⟨"overlay-name", by rw [mem]⟩
  have said : identityOf nestedNames.properties = ⟨some "A", none, []⟩ := by decide +kernel
  refine ⟨flattened, ?_⟩
  rw [decode_of_encodes flattened readable, said]

end OverlayIdentity

end CameraSetup
