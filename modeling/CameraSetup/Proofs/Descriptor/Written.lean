import CameraSetup.Proofs.Overlay.Distinct

/-! Written descriptors are read back. What a matcher makes of a body depends on its hyphens: the
body of a board has one and that of a sensor has two, so no sensor is taken for a board, whatever
it is called. -/

namespace CameraSetup

namespace Text

theorem trimStart_of_head? {s : List Char} (first : ∀ c, s.head? = some c → isBlank c = false) :
    trimStart s = s := by
  cases s with
  | nil => rfl
  | cons c cs =>
    have solid : ¬ isBlank c = true := by
      rw [first c rfl]
      decide
    rw [trimStart, List.dropWhile_cons_of_neg solid]

theorem trim_of_ends {s : List Char} (first : ∀ c, s.head? = some c → isBlank c = false)
    (last : ∀ c, s.getLast? = some c → isBlank c = false) : trim s = s := by
  rw [trim, trimStart_of_head? first, trimStart_of_head? fun c h => ?_, List.reverse_reverse]
  rw [List.head?_reverse] at h
  exact last c h

theorem isBlank_of_isAlphanum {c : Char} (h : c.isAlphanum = true) : isBlank c = false := by
  have all := of_ascii (fun c => !c.isAlphanum || !isBlank c) (by decide)
    (toNat_lt_of_isAlphanum h)
  simpa [h] using all

end Text

namespace Descriptor

variable {raw tag sensor port : String} {body : List Char} {id : BoardId} {d : Descriptor}
  {lanes : Nat}

/-! ### Lane counts -/

/-- A number that descriptors can give as a lane count. -/
def IsLaneCount (lanes : Nat) : Prop :=
  ∃ digits, isWordOf isLaneDigit digits = true ∧ decimalValue digits = lanes ∧ lanes < laneBound

theorem digitChar_of_isLaneDigit {c : Char} (h : isLaneDigit c = true) :
    Nat.digitChar (c.toNat - '0'.toNat) = c ∧
      0 < c.toNat - '0'.toNat ∧ c.toNat - '0'.toNat < 10 := by
  have small : c.toNat < 128 := by
    have le := UInt32.le_iff_toNat_le.mp (of_decide_eq_true (Bool.and_eq_true_iff.mp h).2)
    exact Nat.lt_of_le_of_lt le (by decide)
  have all := Text.of_ascii (fun c => !isLaneDigit c ||
    (Nat.digitChar (c.toNat - '0'.toNat) == c && decide (0 < c.toNat - '0'.toNat) &&
      decide (c.toNat - '0'.toNat < 10))) (by decide) small
  simpa [h, and_assoc] using all

/-- Further digits are written after the number that they continue. -/
theorem toDigits_foldl {digits : List Char} (all : ∀ c ∈ digits, isLaneDigit c = true) {n : Nat}
    (pos : 0 < n) :
    Nat.toDigits 10 (digits.foldl (fun n d => 10 * n + (d.toNat - '0'.toNat)) n) =
      Nat.toDigits 10 n ++ digits := by
  induction digits generalizing n with
  | nil => simp
  | cons c digits ih =>
    obtain ⟨same, -, small⟩ := digitChar_of_isLaneDigit (all c List.mem_cons_self)
    have last : Nat.toDigits 10 (c.toNat - '0'.toNat) = [c] := by
      rw [Nat.toDigits_of_lt_base small, same]
    rw [List.foldl_cons, ih (fun d mem => all d (List.mem_cons_of_mem c mem)) (by omega),
      ← Nat.toDigits_append_toDigits (by decide) pos small, last, List.append_assoc,
      List.singleton_append]

/-- Without zeros no digit is lost. -/
theorem toDigits_decimalValue {digits : List Char} (h : isWordOf isLaneDigit digits = true) :
    Nat.toDigits 10 (decimalValue digits) = digits := by
  obtain ⟨some, all⟩ := isWordOf_iff.mp h
  cases digits with
  | nil => exact absurd rfl some
  | cons c digits =>
    obtain ⟨same, pos, small⟩ := digitChar_of_isLaneDigit (all c List.mem_cons_self)
    have start : 10 * 0 + (c.toNat - '0'.toNat) = c.toNat - '0'.toNat := by omega
    rw [decimalValue, List.foldl_cons, start,
      toDigits_foldl (fun d mem => all d (List.mem_cons_of_mem c mem)) pos,
      Nat.toDigits_of_lt_base small, same, List.singleton_append]

theorem IsLaneCount.toDigits (h : IsLaneCount lanes) :
    isWordOf isLaneDigit (Nat.toDigits 10 lanes) = true ∧
      decimalValue (Nat.toDigits 10 lanes) = lanes ∧ lanes < laneBound := by
  obtain ⟨digits, word, rfl, small⟩ := h
  rw [toDigits_decimalValue word]
  exact ⟨word, rfl, small⟩

theorem isLaneCount_of_parse? (h : parse? raw = some (.sensorLane sensor port lanes)) :
    IsLaneCount lanes := by
  obtain ⟨body, parts, -, admitted, -, same⟩ := exists_parts_of_parse? h
  cases parts with
  | sensorLane sensor port digits =>
    cases same
    obtain ⟨-, -, word, small⟩ := admitted
    exact ⟨digits, word, rfl, small⟩
  | addOnBoard | linkBooster => cases same

/-! ### Matchers -/

theorem addOnBoardOf?_of_parse? (h : parse? raw = some (.addOnBoard id)) :
    ∃ body, body? raw.toList = some body ∧ addOnBoardOf? body = some (.addOnBoard id) := by
  obtain ⟨body, parts, held, admitted, made, same⟩ := exists_parts_of_parse? h
  cases parts with
  | addOnBoard kind id =>
    exact ⟨body, held, addOnBoardOf?_eq_some_iff.mpr ⟨kind, id, admitted, made, same⟩⟩
  | sensorLane | linkBooster => cases same

/-- The id of a board has no hyphen, so a body with two is none of a board. -/
theorem addOnBoardOf?_two_hyphens (sensor port rest : List Char) :
    addOnBoardOf? (sensor ++ '-' :: (port ++ '-' :: rest)) = none := by
  cases matched : addOnBoardOf? (sensor ++ '-' :: (port ++ '-' :: rest)) with
  | none => rfl
  | some d =>
    obtain ⟨kind, id, ⟨hkind, hid⟩, made, -⟩ := addOnBoardOf?_eq_some_iff.mp matched
    have once : ((kind ++ '-' :: id).count '-') = 1 := by
      rw [List.count_append, List.count_cons_self,
        List.count_eq_zero.mpr (not_mem_of_isWordOf hkind (by decide)),
        List.count_eq_zero.mpr (not_mem_of_isWordOf hid (by decide))]
    rw [show kind ++ '-' :: id = _ from made, List.count_append, List.count_cons_self,
      List.count_append, List.count_cons_self] at once
    omega

/-- The body that names a board. -/
def boardBody (id : BoardId) : List Char := ['F', 'P', 'A'] ++ '-' :: id.text.toList

theorem addOnBoardOf?_boardBody (h : IsWorded (.addOnBoard id)) :
    addOnBoardOf? (boardBody id) = some (.addOnBoard id) := by
  have kind : isWordOf (fun c => ['F', 'P', 'A'].contains c) ['F', 'P', 'A'] = true := by decide
  exact addOnBoardOf?_eq_some_iff.mpr
    ⟨['F', 'P', 'A'], id.text.toList, ⟨kind, h⟩, rfl, by simp [Parts.meaning]⟩

/-- The body that names a sensor on a port. -/
def sensorBody (sensor port : String) (lanes : Nat) : List Char :=
  sensor.toList ++ '-' :: (port.toList ++ '-' :: (Nat.toDigits 10 lanes ++ ['L', 'a', 'n', 'e']))

theorem sensorLaneOf?_sensorBody (h : IsWorded (.sensorLane sensor port lanes))
    (count : IsLaneCount lanes) :
    sensorLaneOf? (sensorBody sensor port lanes) = some (.sensorLane sensor port lanes) := by
  obtain ⟨hsensor, hport⟩ := h
  obtain ⟨digits, value, small⟩ := count.toDigits
  exact sensorLaneOf?_eq_some_iff.mpr ⟨sensor.toList, port.toList, Nat.toDigits 10 lanes,
    ⟨hsensor, hport, digits, value.symm ▸ small⟩, rfl, by simp [Parts.meaning, value]⟩

/-! ### Whole descriptors -/

/-- The characters of the bodies that are written. -/
def isBodyChar (c : Char) : Bool :=
  c.isAlphanum || c == '/' || c == '.' || c == '_' || c == '-'

theorem isBlank_of_isBodyChar {c : Char} (h : isBodyChar c = true) : Text.isBlank c = false := by
  simp only [isBodyChar, Bool.or_eq_true, beq_iff_eq] at h
  rcases h with (((h | rfl) | rfl) | rfl) | rfl
  · exact Text.isBlank_of_isAlphanum h
  · decide
  · decide
  · decide
  · decide

theorem body?_append (htag : isWordOf Char.isAlphanum tag.toList = true)
    (hbody : isWordOf isBodyChar body = true) :
    body? (tag.toList ++ ' ' :: body) = some body := by
  obtain ⟨some, alphanumeric⟩ := isWordOf_iff.mp htag
  obtain ⟨some', inner⟩ := isWordOf_iff.mp hbody
  have first : ∀ c, (tag.toList ++ ' ' :: body).head? = .some c → Text.isBlank c = false := by
    intro c h
    obtain ⟨d, ds, split⟩ := List.exists_cons_of_ne_nil some
    rw [split, List.cons_append, List.head?_cons, Option.some.injEq] at h
    exact Text.isBlank_of_isAlphanum (alphanumeric c (by rw [split, h]; exact List.mem_cons_self))
  have last : ∀ c, (tag.toList ++ ' ' :: body).getLast? = .some c → Text.isBlank c = false := by
    intro c h
    rw [List.append_cons, List.getLast?_append, List.getLast?_eq_some_getLast some',
      Option.some_or, Option.some.injEq] at h
    exact isBlank_of_isBodyChar (inner c (h ▸ List.getLast_mem some'))
  have solid : isWordOf (fun c => !Text.isBlank c) body = true :=
    isWordOf_iff.mpr ⟨some', fun c mem => by rw [isBlank_of_isBodyChar (inner c mem)]; rfl⟩
  exact body?_eq_some_iff.mpr ⟨tag.toList, Text.trim_of_ends first last, htag, solid⟩

theorem isWordOf_append {kind : Char → Bool} {s t : List Char} (hs : isWordOf kind s = true)
    (ht : ∀ c ∈ t, kind c = true) : isWordOf kind (s ++ t) = true := by
  obtain ⟨some, all⟩ := isWordOf_iff.mp hs
  refine isWordOf_iff.mpr ⟨List.append_ne_nil_of_left_ne_nil some t, fun c mem => ?_⟩
  exact (List.mem_append.mp mem).elim (all c) (ht c)

theorem isBodyChar_sensorBody (h : IsWorded (.sensorLane sensor port lanes)) :
    isWordOf isBodyChar (sensorBody sensor port lanes) = true := by
  obtain ⟨hsensor, hport⟩ := h
  have sensorChars : isWordOf isBodyChar sensor.toList = true := by
    refine isWordOf_iff.mpr ⟨(isWordOf_iff.mp hsensor).1, fun c mem => ?_⟩
    have own := (isWordOf_iff.mp hsensor).2 c mem
    simp only [isSensorChar, Bool.or_eq_true] at own
    rcases own with own | own <;> simp [isBodyChar, own]
  have portChars : ∀ c ∈ port.toList, isBodyChar c = true := by
    intro c mem
    simp [isBodyChar, (isWordOf_iff.mp hport).2 c mem]
  have digits : ∀ c ∈ Nat.toDigits 10 lanes, isBodyChar c = true := by
    intro c mem
    have digit := Nat.isDigit_of_mem_toDigits (by decide) (by decide) mem
    simp [isBodyChar, Char.isAlphanum, digit]
  have lane : ['L', 'a', 'n', 'e'].all isBodyChar = true := by decide
  refine isWordOf_append sensorChars fun c mem => ?_
  simp only [List.mem_cons, List.mem_append] at mem
  rcases mem with rfl | mem | rfl | mem | mem
  · decide
  · exact portChars c mem
  · decide
  · exact digits c mem
  · exact List.all_eq_true.mp lane c (by simpa using mem)

theorem isBodyChar_boardBody (h : IsWorded (.addOnBoard id)) :
    isWordOf isBodyChar (boardBody id) = true := by
  refine isWordOf_append (by decide) fun c mem => ?_
  rcases List.mem_cons.mp mem with rfl | mem
  · decide
  · have own := (isWordOf_iff.mp h).2 c mem
    simp only [isIdChar, Bool.or_eq_true] at own
    rcases own with (own | own) | own <;> simp [isBodyChar, own]

theorem parse?_of_body? (held : body? raw.toList = some body) :
    parse? raw = (addOnBoardOf? body).or ((sensorLaneOf? body).or (linkBoosterOf? body)) := by
  rw [parse?, held]
  simp

theorem toList_written_addOnBoard (tag : String) (id : BoardId) :
    (written tag (.addOnBoard id)).toList = tag.toList ++ ' ' :: boardBody id := by
  simp [written, toString, boardBody]

theorem toList_written_sensorLane (tag sensor port : String) (lanes : Nat) :
    (written tag (.sensorLane sensor port lanes)).toList =
      tag.toList ++ ' ' :: sensorBody sensor port lanes := by
  simp [written, toString, sensorBody]

/-- A board is read back. -/
theorem parse?_written_addOnBoard (htag : isWordOf Char.isAlphanum tag.toList = true)
    (h : IsWorded (.addOnBoard id)) :
    parse? (written tag (.addOnBoard id)) = some (.addOnBoard id) := by
  have held : body? (written tag (.addOnBoard id)).toList = some (boardBody id) := by
    rw [toList_written_addOnBoard, body?_append htag (isBodyChar_boardBody h)]
  rw [parse?_of_body? held, addOnBoardOf?_boardBody h, Option.some_or]

/-- A sensor on a port is read back, also one called FPA or GMSL. -/
theorem parse?_written_sensorLane (htag : isWordOf Char.isAlphanum tag.toList = true)
    (h : IsWorded (.sensorLane sensor port lanes)) (count : IsLaneCount lanes) :
    parse? (written tag (.sensorLane sensor port lanes)) =
      some (.sensorLane sensor port lanes) := by
  have held : body? (written tag (.sensorLane sensor port lanes)).toList =
      some (sensorBody sensor port lanes) := by
    rw [toList_written_sensorLane, body?_append htag (isBodyChar_sensorBody h)]
  have board : addOnBoardOf? (sensorBody sensor port lanes) = none :=
    addOnBoardOf?_two_hyphens _ _ _
  rw [parse?_of_body? held, board, sensorLaneOf?_sensorBody h count, Option.none_or, Option.some_or]

example : parse? "x1 FPA-P0-4Lane" = some (.sensorLane "FPA" "P0" 4) := rfl

end Descriptor

end CameraSetup
