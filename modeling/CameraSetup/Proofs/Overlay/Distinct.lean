import CameraSetup.Overlay.Name
import CameraSetup.Proofs.Descriptor
import CameraSetup.Proofs.SortedMap
import CameraSetup.Proofs.Text.Digits
import CameraSetup.Proofs.Text.Fields

/-! The overlays of a selection have names of their own. The hyphens in an overlay's name tell what
it is for, and the port in it can be read off in lower case, so two overlays share a name only when
their ports differ in the case of letters alone. -/

namespace CameraSetup

namespace Text

theorem sameIgnoringCase_iff {s t : List Char} :
    sameIgnoringCase s t = true ↔ s.map Char.toLower = t.map Char.toLower := beq_iff_eq

theorem sameIgnoringCase_comm (s t : List Char) : sameIgnoringCase s t = sameIgnoringCase t s := by
  rw [Bool.eq_iff_iff, sameIgnoringCase_iff, sameIgnoringCase_iff, eq_comm]

/-- The characters of names: those of ASCII other than the hyphen. -/
def isNameChar (c : Char) : Bool := c.toNat < 128 && c != '-'

theorem toNat_lt_of_isAlphanum {c : Char} (h : c.isAlphanum = true) : c.toNat < 128 := by
  rcases Bool.or_eq_true_iff.mp h with letter | digit
  · rcases Bool.or_eq_true_iff.mp letter with upper | lower
    · have := UInt32.le_iff_toNat_le.mp (of_decide_eq_true upper).2
      exact Nat.lt_of_le_of_lt this (by decide)
    · have := UInt32.le_iff_toNat_le.mp (of_decide_eq_true (Bool.and_eq_true_iff.mp lower).2)
      exact Nat.lt_of_le_of_lt this (by decide)
  · have := UInt32.le_iff_toNat_le.mp (of_decide_eq_true (Bool.and_eq_true_iff.mp digit).2)
    exact Nat.lt_of_le_of_lt this (by decide)

theorem isNameChar_of_isAlphanum {c : Char} (h : c.isAlphanum = true) : isNameChar c = true := by
  have : c ≠ '-' := by
    rintro rfl
    exact absurd h (by decide)
  simp [isNameChar, toNat_lt_of_isAlphanum h, this]

theorem isNameChar_of_isIdChar {c : Char} (h : Descriptor.isIdChar c = true) :
    isNameChar c = true := by
  simp only [Descriptor.isIdChar, Bool.or_eq_true, beq_iff_eq] at h
  rcases h with (h | rfl) | rfl
  · exact isNameChar_of_isAlphanum h
  · decide
  · decide

theorem isNameChar_of_isSensorChar {c : Char} (h : Descriptor.isSensorChar c = true) :
    isNameChar c = true := by
  simp only [Descriptor.isSensorChar, Bool.or_eq_true, beq_iff_eq] at h
  rcases h with h | rfl
  · exact isNameChar_of_isAlphanum h
  · decide

/-- What holds of the first 128 characters holds of those of ASCII. -/
theorem of_ascii (p : Char → Bool) (all : ∀ n < 128, p (Char.ofNat n) = true) {c : Char}
    (small : c.toNat < 128) : p c = true := by
  have := all c.toNat small
  rwa [Char.ofNat_toNat] at this

theorem toNat_lt_of_isNameChar {c : Char} (h : isNameChar c = true) : c.toNat < 128 := by
  simp only [isNameChar, Bool.and_eq_true, decide_eq_true_eq] at h
  exact h.1

theorem isNameChar_toLower {c : Char} (h : isNameChar c = true) : isNameChar c.toLower = true := by
  have := of_ascii (fun c => !isNameChar c || isNameChar c.toLower) (by decide)
    (toNat_lt_of_isNameChar h)
  simpa [h] using this

theorem lower_of_isNameChar {s : List Char} (h : ∀ c ∈ s, isNameChar c = true) :
    lower s = s.map Char.toLower :=
  lower_of_ascii fun c hc => toNat_lt_of_isNameChar (h c hc)

theorem hyphen_not_mem_lower {s : List Char} (h : ∀ c ∈ s, isNameChar c = true) :
    '-' ∉ lower s := by
  rw [lower_of_isNameChar h]
  intro mem
  obtain ⟨c, hc, same⟩ := List.mem_map.mp mem
  have := isNameChar_toLower (h c hc)
  rw [same] at this
  exact absurd this (by decide)

end Text

/-- The selection's names are words of the kinds that descriptors have. -/
structure Selection.IsWorded (s : Selection) : Prop where
  board : ∀ c ∈ s.board.text.toList, Descriptor.isIdChar c = true
  ports : ∀ port setup, s.get? port = some setup →
    (∀ c ∈ port.toList, c.isAlphanum = true) ∧
      ∀ c ∈ setup.sensor.toList, Descriptor.isSensorChar c = true

/-- No two ports of the selection are the same in any case of letters. -/
def Selection.OncePerPort (s : Selection) : Prop :=
  ∀ p ∈ s.ports.keys, ∀ q ∈ s.ports.keys, Text.sameIgnoringCase p.toList q.toList = true → p = q

namespace OverlayName

variable {connector : Connector}

/-- The parts of a file name between the hyphens after its start. -/
def parts (connector : Connector) (name : String) : List (List Char) :=
  Text.fields '-' (name.toList.drop connector.fileNameStart.toList.length)

/-- The port in the parts of a file name; there is none in that of a board. -/
def portIn? : List (List Char) → Option (List Char)
  | [port, _, _] => some port
  | [_, port, _, _] => some port
  | _ => none

theorem ofBoard_eq (board : BoardId) : ofBoard connector board =
    connector.fileNameStart ++ ("fpa_" ++ boardPart board ++ "-" ++ "overlay.dtbo") := by
  simp only [ofBoard, String.append_assoc]
  rfl

theorem ofSensor_eq (sensor port : String) (lanes : Nat) : ofSensor connector sensor port lanes =
    connector.fileNameStart ++ (lowered sensor ++ "-" ++ lowered port ++ "-" ++ toString lanes ++
      "lane" ++ "-" ++ "overlay.dtbo") := by
  simp only [ofSensor, String.append_assoc]
  rfl

theorem ofLinkBooster_eq (port : String) : ofLinkBooster connector port =
    connector.fileNameStart ++ (lowered port ++ "-" ++ "gmsl" ++ "-" ++ "overlay.dtbo") := by
  simp only [ofLinkBooster, String.append_assoc]
  rfl

theorem parts_of_eq {name rest : String} (h : name = connector.fileNameStart ++ rest) :
    parts connector name = Text.fields '-' rest.toList := by
  simp [h, parts]

theorem parts_ofBoard {board : BoardId}
    (h : ∀ c ∈ board.text.toList, Descriptor.isIdChar c = true) :
    parts connector (ofBoard connector board) =
      [("fpa_" ++ boardPart board).toList, "overlay.dtbo".toList] := by
  have free : '-' ∉ ("fpa_" ++ boardPart board).toList := by
    have named : ∀ c ∈ board.text.toList, Text.isNameChar c = true :=
      fun c hc => Text.isNameChar_of_isIdChar (h c hc)
    intro mem
    rcases List.mem_append.mp (String.toList_append ▸ mem) with mem | mem
    · exact absurd mem (by decide)
    · simp only [boardPart, String.toList_ofList, List.mem_map, List.mem_filter] at mem
      obtain ⟨c, ⟨hc, -⟩, same⟩ := mem
      split at same
      · exact absurd same (by decide)
      · exact Text.hyphen_not_mem_lower named (same ▸ hc)
  have cut : ("fpa_" ++ boardPart board ++ "-" ++ "overlay.dtbo").toList =
      ("fpa_" ++ boardPart board).toList ++ '-' :: "overlay.dtbo".toList := by simp
  rw [parts_of_eq (ofBoard_eq board), cut, Text.fields_append free,
    Text.fields_of_not_mem (by decide)]

theorem parts_ofSensor {sensor port : String} {lanes : Nat}
    (hsensor : ∀ c ∈ sensor.toList, Text.isNameChar c = true)
    (hport : ∀ c ∈ port.toList, Text.isNameChar c = true) :
    parts connector (ofSensor connector sensor port lanes) =
      [Text.lower sensor.toList, Text.lower port.toList, (toString lanes ++ "lane").toList,
        "overlay.dtbo".toList] := by
  have free : '-' ∉ (toString lanes ++ "lane").toList := by
    intro mem
    rcases List.mem_append.mp (String.toList_append ▸ mem) with mem | mem
    · exact absurd (Text.isDigit_of_mem_toString mem) (by decide)
    · exact absurd mem (by decide)
  have cut : (lowered sensor ++ "-" ++ lowered port ++ "-" ++ toString lanes ++ "lane" ++ "-" ++
      "overlay.dtbo").toList = Text.lower sensor.toList ++ '-' :: (Text.lower port.toList ++
        '-' :: ((toString lanes ++ "lane").toList ++ '-' :: "overlay.dtbo".toList)) := by
    simp [lowered]
  rw [parts_of_eq (ofSensor_eq sensor port lanes), cut,
    Text.fields_append (Text.hyphen_not_mem_lower hsensor),
    Text.fields_append (Text.hyphen_not_mem_lower hport), Text.fields_append free,
    Text.fields_of_not_mem (by decide)]

theorem parts_ofLinkBooster {port : String}
    (hport : ∀ c ∈ port.toList, Text.isNameChar c = true) :
    parts connector (ofLinkBooster connector port) =
      [Text.lower port.toList, "gmsl".toList, "overlay.dtbo".toList] := by
  have cut : (lowered port ++ "-" ++ "gmsl" ++ "-" ++ "overlay.dtbo").toList =
      Text.lower port.toList ++ '-' :: ("gmsl".toList ++ '-' :: "overlay.dtbo".toList) := by
    simp [lowered]
  rw [parts_of_eq (ofLinkBooster_eq port), cut,
    Text.fields_append (Text.hyphen_not_mem_lower hport),
    Text.fields_append (by decide), Text.fields_of_not_mem (by decide)]

variable {port : String} {setup : PortSetup}

/-- The overlays of a port carry the port in lower case. -/
theorem portIn?_of_mem_ofPort (hport : ∀ c ∈ port.toList, Text.isNameChar c = true)
    (hsensor : ∀ c ∈ setup.sensor.toList, Text.isNameChar c = true) {o : OverlayName}
    (mem : o ∈ ofPort connector port setup) :
    portIn? (parts connector o.name) = some (Text.lower port.toList) := by
  have sensor := @parts_ofSensor connector setup.sensor port setup.lanes hsensor hport
  have booster := @parts_ofLinkBooster connector port hport
  unfold ofPort at mem
  dsimp only at mem
  split at mem
  · rw [List.mem_singleton.mp mem, sensor, portIn?]
  · rcases List.mem_cons.mp mem with rfl | mem
    · rw [sensor, portIn?]
    · rw [List.mem_singleton.mp mem, booster, portIn?]

theorem pairwise_ofPort (hport : ∀ c ∈ port.toList, Text.isNameChar c = true)
    (hsensor : ∀ c ∈ setup.sensor.toList, Text.isNameChar c = true) :
    (ofPort connector port setup).Pairwise fun o o' => o.name ≠ o'.name := by
  have sensor := @parts_ofSensor connector setup.sensor port setup.lanes hsensor hport
  have booster := @parts_ofLinkBooster connector port hport
  unfold ofPort
  dsimp only
  split
  · exact List.pairwise_singleton _ _
  · refine List.pairwise_pair.mpr fun same => ?_
    have := congrArg (fun name => (parts connector name).length) same
    simp only [sensor, booster] at this
    exact absurd this (by simp)

end OverlayName

/-- The overlays of a selection have names of their own. -/
theorem Selection.nodup_overlays {s : Selection} (worded : s.IsWorded) (once : s.OncePerPort)
    (connector : Connector) : ((s.overlays connector).map (·.name)).Nodup := by
  have named : ∀ e ∈ s.ports.toList, (∀ c ∈ e.1.toList, Text.isNameChar c = true) ∧
      ∀ c ∈ e.2.sensor.toList, Text.isNameChar c = true := by
    intro e he
    obtain ⟨hport, hsensor⟩ := worded.ports e.1 e.2 (SortedMap.get?_eq_some_iff.mpr he)
    exact ⟨fun c hc => Text.isNameChar_of_isAlphanum (hport c hc),
      fun c hc => Text.isNameChar_of_isSensorChar (hsensor c hc)⟩
  refine List.pairwise_map.mpr (List.pairwise_cons.mpr ⟨?_, List.pairwise_flatMap.mpr ⟨?_, ?_⟩⟩)
  · intro o mem same
    obtain ⟨e, he, mem⟩ := List.mem_flatMap.mp mem
    have ofBoard := @OverlayName.parts_ofBoard connector s.board worded.board
    have ofPort := OverlayName.portIn?_of_mem_ofPort (named e he).1 (named e he).2 mem
    rw [← same, ofBoard] at ofPort
    exact absurd ofPort (by simp [OverlayName.portIn?])
  · intro e he
    exact OverlayName.pairwise_ofPort (named e he).1 (named e he).2
  · refine s.ports.sorted.imp_of_mem fun {d e} hd he before o mem o' mem' same => ?_
    have first := OverlayName.portIn?_of_mem_ofPort (named d hd).1 (named d hd).2 mem
    have second := OverlayName.portIn?_of_mem_ofPort (named e he).1 (named e he).2 mem'
    rw [same, second, Option.some.injEq, Text.lower_of_isNameChar (named d hd).1,
      Text.lower_of_isNameChar (named e he).1] at first
    have := once d.1 (List.mem_map_of_mem hd) e.1 (List.mem_map_of_mem he)
      (Text.sameIgnoringCase_iff.mpr first.symm)
    rw [this] at before
    simp at before

end CameraSetup
