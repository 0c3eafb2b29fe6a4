import CameraSetup.Proofs.Overlay.Distinct

/-! What the names of overlays are made of. Whatever was read from descriptors or arguments, the
names made of it can be names of files and items of a list: they hold no separator of paths, no
comma and no white space. -/

namespace CameraSetup

namespace Text

/-- The characters of overlay names. -/
def isFileNameChar (c : Char) : Bool := c.isAlphanum || c == '-' || c == '_' || c == '.'

variable {c : Char}

theorem isFileNameChar_of_isAlphanum (h : c.isAlphanum = true) : isFileNameChar c = true := by
  simp [isFileNameChar, h]

theorem isFileNameChar_of_isSensorChar (h : Descriptor.isSensorChar c = true) :
    isFileNameChar c = true := by
  simp only [Descriptor.isSensorChar, Bool.or_eq_true, beq_iff_eq] at h
  rcases h with h | rfl
  · exact isFileNameChar_of_isAlphanum h
  · decide

theorem toNat_lt_of_isFileNameChar (h : isFileNameChar c = true) : c.toNat < 128 := by
  simp only [isFileNameChar, Bool.or_eq_true, beq_iff_eq] at h
  rcases h with ((h | rfl) | rfl) | rfl
  · exact toNat_lt_of_isAlphanum h
  · decide
  · decide
  · decide

theorem plain_of_isFileNameChar (h : isFileNameChar c = true) :
    c ≠ '/' ∧ c ≠ ',' ∧ isBlank c = false := by
  have := of_ascii (fun c => !isFileNameChar c || (c != '/' && c != ',' && !isBlank c)) (by decide)
    (toNat_lt_of_isFileNameChar h)
  simpa [h, and_assoc] using this

theorem isFileNameChar_of_mem_lower {s : List Char} (h : ∀ d ∈ s, isFileNameChar d = true)
    (mem : c ∈ lower s) : isFileNameChar c = true := by
  rw [lower_of_ascii fun d hd => toNat_lt_of_isFileNameChar (h d hd)] at mem
  obtain ⟨d, hd, rfl⟩ := List.mem_map.mp mem
  have := of_ascii (fun c => !isFileNameChar c || isFileNameChar c.toLower) (by decide)
    (toNat_lt_of_isFileNameChar (h d hd))
  simpa [h d hd] using this

theorem isFileNameChars {s : String} (h : s.toList.all isFileNameChar = true) :
    ∀ c ∈ s.toList, isFileNameChar c = true :=
  List.all_eq_true.mp h

end Text

namespace OverlayName

open Text

variable {connector : Connector} {board : BoardId} {c : Char}

theorem isFileNameChar_of_mem_boardPart
    (h : ∀ c ∈ board.text.toList, Descriptor.isIdChar c = true)
    (mem : c ∈ (boardPart board).toList) : isFileNameChar c = true := by
  have small : ∀ d ∈ board.text.toList, d.toNat < 128 := fun d hd =>
    toNat_lt_of_isNameChar (isNameChar_of_isIdChar (h d hd))
  have lowered : ∀ d ∈ board.text.toList, d.toLower = '/' ∨ isFileNameChar d.toLower = true := by
    intro d hd
    have := of_ascii (fun d => !Descriptor.isIdChar d || (d.toLower == '/' ||
      isFileNameChar d.toLower)) (by decide) (small d hd)
    simpa [h d hd] using this
  simp only [boardPart, String.toList_ofList, List.mem_map, List.mem_filter] at mem
  obtain ⟨_, ⟨lower, -⟩, rfl⟩ := mem
  rw [lower_of_ascii small] at lower
  obtain ⟨d, hd, rfl⟩ := List.mem_map.mp lower
  -- The one character of an id that has no place in a file name is replaced.
  split
  · decide
  · next other => exact (lowered d hd).resolve_left other

/-- A text that can be the name of a file, and end an item of a list. -/
structure IsFileName (name : String) : Prop where
  chars : ∀ c ∈ name.toList, isFileNameChar c = true
  proper : name ≠ "" ∧ name ≠ "." ∧ name ≠ ".."

theorem IsFileName.slash_not_mem {name : String} (h : IsFileName name) : '/' ∉ name.toList :=
  fun mem => (plain_of_isFileNameChar (h.chars _ mem)).1 rfl

theorem isFileName_of_eq {name rest : String} (split : name = connector.fileNameStart ++ rest)
    (hrest : ∀ c ∈ rest.toList, isFileNameChar c = true) : IsFileName name := by
  have start : ∀ c ∈ connector.fileNameStart.toList, isFileNameChar c = true := by
    cases connector <;> exact isFileNameChars (by decide)
  have first : name.toList.head? = some 't' := by
    rw [split, String.toList_append]
    cases connector <;> rfl
  refine ⟨fun c mem => ?_, ?_, ?_, ?_⟩
  · rw [split, String.toList_append] at mem
    exact (List.mem_append.mp mem).elim (start c) (hrest c)
  all_goals
    rintro rfl
    exact absurd first (by decide)

theorem isFileName_ofBoard (h : ∀ c ∈ board.text.toList, Descriptor.isIdChar c = true) :
    IsFileName (ofBoard connector board) := by
  refine isFileName_of_eq (ofBoard_eq board) ?_
  simp only [String.toList_append, List.forall_mem_append]
  exact ⟨⟨⟨isFileNameChars (by decide), fun _ => isFileNameChar_of_mem_boardPart h⟩,
    isFileNameChars (by decide)⟩, isFileNameChars (by decide)⟩

variable {port sensor : String} {setup : PortSetup} {o : OverlayName}

theorem isFileNameChar_of_mem_lowered {s : String} (h : ∀ d ∈ s.toList, isFileNameChar d = true)
    (mem : c ∈ (lowered s).toList) : isFileNameChar c = true := by
  rw [lowered, String.toList_ofList] at mem
  exact isFileNameChar_of_mem_lower h mem

theorem isFileName_ofSensor (hsensor : ∀ c ∈ sensor.toList, isFileNameChar c = true)
    (hport : ∀ c ∈ port.toList, isFileNameChar c = true) (lanes : Nat) :
    IsFileName (ofSensor connector sensor port lanes) := by
  have digits : ∀ c ∈ (toString lanes).toList, isFileNameChar c = true := by
    intro c mem
    have digit := isDigit_of_mem_toString mem
    exact isFileNameChar_of_isAlphanum (by simp [Char.isAlphanum, digit])
  refine isFileName_of_eq (ofSensor_eq sensor port lanes) ?_
  simp only [String.toList_append, List.forall_mem_append]
  have hyphen : ∀ c ∈ "-".toList, isFileNameChar c = true := isFileNameChars (by decide)
  exact ⟨⟨⟨⟨⟨⟨⟨fun _ => isFileNameChar_of_mem_lowered hsensor, hyphen⟩,
    fun _ => isFileNameChar_of_mem_lowered hport⟩, hyphen⟩, digits⟩, isFileNameChars (by decide)⟩,
    hyphen⟩, isFileNameChars (by decide)⟩

theorem isFileName_ofLinkBooster (hport : ∀ c ∈ port.toList, isFileNameChar c = true) :
    IsFileName (ofLinkBooster connector port) := by
  refine isFileName_of_eq (ofLinkBooster_eq port) ?_
  simp only [String.toList_append, List.forall_mem_append]
  have hyphen : ∀ c ∈ "-".toList, isFileNameChar c = true := isFileNameChars (by decide)
  exact ⟨⟨⟨⟨fun _ => isFileNameChar_of_mem_lowered hport, hyphen⟩, isFileNameChars (by decide)⟩,
    hyphen⟩, isFileNameChars (by decide)⟩

theorem isFileName_of_mem_ofPort (hport : ∀ c ∈ port.toList, isFileNameChar c = true)
    (hsensor : ∀ c ∈ setup.sensor.toList, isFileNameChar c = true)
    (mem : o ∈ ofPort connector port setup) : IsFileName o.name := by
  have sensor := @isFileName_ofSensor connector _ _ hsensor hport setup.lanes
  unfold ofPort at mem
  dsimp only at mem
  split at mem
  · rw [List.mem_singleton.mp mem]
    exact sensor
  · rcases List.mem_cons.mp mem with rfl | mem
    · exact sensor
    · rw [List.mem_singleton.mp mem]
      exact isFileName_ofLinkBooster hport

end OverlayName

theorem Selection.isFileName_of_mem_overlays {s : Selection} (worded : s.IsWorded)
    {connector : Connector} {o : OverlayName} (mem : o ∈ s.overlays connector) :
    OverlayName.IsFileName o.name := by
  rcases List.mem_cons.mp mem with rfl | mem
  · exact OverlayName.isFileName_ofBoard worded.board
  · obtain ⟨e, he, mem⟩ := List.mem_flatMap.mp mem
    obtain ⟨hport, hsensor⟩ := worded.ports e.1 e.2 (SortedMap.get?_eq_some_iff.mpr he)
    exact OverlayName.isFileName_of_mem_ofPort
      (fun c hc => Text.isFileNameChar_of_isAlphanum (hport c hc))
      (fun c hc => Text.isFileNameChar_of_isSensorChar (hsensor c hc)) mem

end CameraSetup
