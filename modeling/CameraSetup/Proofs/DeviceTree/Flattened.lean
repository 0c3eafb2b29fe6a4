import CameraSetup.DeviceTree.OverlayIdentity

/-! Device trees and the octets that they are flattened to. A tree is walked in order, and each mark
of the walk is written as a token; between tokens there may be any number of tokens that say
nothing. The names of properties stand in a block of strings, where one may be the end of
another. -/

namespace CameraSetup.DeviceTree

/-! ### Trees -/

/-- A name, which holds no zero octet. -/
structure Name where
  octets : List UInt8
  zeroFree : 0 ∉ octets

/-- A property, whose value can be anything. -/
structure Property where
  name : Name
  value : List UInt8

/-- A node with its properties and the nodes below it. -/
inductive TreeNode
  | mk (name : Name) (properties : List Property) (children : List TreeNode)

/-- The properties of a node. -/
def TreeNode.properties : TreeNode → List Property
  | .mk _ properties _ => properties

/-- What a walk through a tree meets. -/
inductive Mark
  | opening (name : Name)
  | property (property : Property)
  | closing

mutual

/-- The walk through a node: it is opened, its properties come before the nodes below it, and it is
closed. -/
def TreeNode.marks : TreeNode → List Mark
  | .mk name properties children =>
    .opening name :: (properties.map .property ++ (marksOf children ++ [.closing]))

/-- The walk through some nodes, one after the other. -/
def marksOf : List TreeNode → List Mark
  | [] => []
  | node :: nodes => node.marks ++ marksOf nodes

end

/-! ### Octets -/

/-- A number in four octets, the highest first. -/
def word (n : Nat) : List UInt8 :=
  [UInt8.ofNat (n / 0x1000000), UInt8.ofNat (n / 0x10000), UInt8.ofNat (n / 0x100), UInt8.ofNat n]

/-- The octets with some more after them, up to the next multiple of four. -/
def Padded (octets block : List UInt8) : Prop :=
  ∃ filler, block = octets ++ filler ∧ filler.length < 4 ∧ 4 ∣ block.length

theorem Padded.dvd_length {octets block : List UInt8} (h : Padded octets block) :
    4 ∣ block.length := by
  obtain ⟨_, -, -, whole⟩ := h
  exact whole

theorem Padded.length_le {octets block : List UInt8} (h : Padded octets block) :
    octets.length ≤ block.length := by
  obtain ⟨_, rfl, -, -⟩ := h
  simp

/-- The octets of a walk, with property names in a block of strings. What follows the end of the
walk does not matter. -/
inductive Written (strings : List UInt8) : List Mark → List UInt8 → Prop
  | opening {name : Name} {block octets : List UInt8} {marks : List Mark}
      (padded : Padded (name.octets ++ [0]) block) (later : Written strings marks octets) :
      Written strings (.opening name :: marks) (word 1 ++ (block ++ octets))
  | property {p : Property} {offset : Nat} {block octets : List UInt8} {marks : List Mark}
      (named : p.name.octets ++ [0] <+: strings.drop offset) (padded : Padded p.value block)
      (later : Written strings marks octets) :
      Written strings (.property p :: marks)
        (word 3 ++ (word p.value.length ++ (word offset ++ (block ++ octets))))
  | closing {octets : List UInt8} {marks : List Mark} (later : Written strings marks octets) :
      Written strings (.closing :: marks) (word 2 ++ octets)
  | nop {octets : List UInt8} {marks : List Mark} (later : Written strings marks octets) :
      Written strings marks (word 4 ++ octets)
  | finish (rest : List UInt8) : Written strings [] (word 9 ++ rest)

theorem Written.ne_nil {strings octets : List UInt8} {marks : List Mark}
    (h : Written strings marks octets) : octets ≠ [] := by
  cases h <;> simp [word]

/-- The octets are a flattened tree: a header, and the walk through the tree and the strings where
the header says. -/
structure TreeNode.Encodes (root : TreeNode) (blob : List UInt8)
    (structureOffset stringsOffset : Nat) : Prop where
  size : headerLength ≤ blob.length ∧ blob.length < 0x100000000
  header :
    word magicNumber ++ (word blob.length ++ (word structureOffset ++ word stringsOffset)) <+: blob
  aligned : 4 ∣ structureOffset
  strings : stringsOffset ≤ blob.length
  walk : Written (blob.drop stringsOffset) root.marks (blob.drop structureOffset)

end CameraSetup.DeviceTree
