import CameraSetup.Descriptor
import CameraSetup.Proofs.Text.Fields

/-! The parts of a descriptor. Each matcher takes the bodies that are made of such parts, in the
characters that descriptors admit for them, and what it reads is what the parts tell. -/

namespace CameraSetup.Descriptor

theorem isWordOf_iff {kind : Char → Bool} {s : List Char} :
    isWordOf kind s = true ↔ s ≠ [] ∧ ∀ c ∈ s, kind c = true := by
  simp [isWordOf]

theorem not_mem_of_isWordOf {kind : Char → Bool} {s : List Char} {c : Char}
    (word : isWordOf kind s = true) (excluded : kind c = false) : c ∉ s := by
  intro mem
  rw [(isWordOf_iff.mp word).2 c mem] at excluded
  cases excluded

/-! ### Parts -/

/-- The parts that a body can be taken apart into, as that of a board, of a sensor on a port, or of
a link booster. -/
inductive Parts
  | addOnBoard (kind id : List Char)
  | sensorLane (sensor port digits : List Char)
  | linkBooster (kind letters digits rest : List Char)

namespace Parts

/-- The body with these parts. -/
def body : Parts → List Char
  | addOnBoard kind id => kind ++ '-' :: id
  | sensorLane sensor port digits =>
    sensor ++ '-' :: (port ++ '-' :: (digits ++ ['L', 'a', 'n', 'e']))
  | linkBooster kind letters digits rest => kind ++ '-' :: (letters ++ (digits ++ rest))

/-- Each part has the characters that are admitted for it. -/
def Admitted : Parts → Prop
  | addOnBoard kind id =>
    isWordOf (fun c => ['F', 'P', 'A'].contains c) kind = true ∧ isWordOf isIdChar id = true
  | sensorLane sensor port digits =>
    isWordOf isSensorChar sensor = true ∧ isWordOf Char.isAlphanum port = true ∧
      isWordOf isLaneDigit digits = true ∧ decimalValue digits < laneBound
  | linkBooster kind letters digits rest =>
    isWordOf (fun c => ['G', 'M', 'S', 'L'].contains c) kind = true ∧
      isWordOf Char.isUpper letters = true ∧ isWordOf Char.isDigit digits = true ∧
      (∀ c ∈ rest, Text.isBlank c = false) ∧ ∀ c, rest.head? = some c → c.isDigit = false

/-- What a body with these parts tells. -/
def meaning : Parts → Descriptor
  | addOnBoard _ id => .addOnBoard ⟨String.ofList id⟩
  | sensorLane sensor port digits =>
    .sensorLane (String.ofList sensor) (String.ofList port) (decimalValue digits)
  | linkBooster _ letters digits _ => .linkBooster (String.ofList (letters ++ digits))

end Parts

variable {raw : String} {body kind id sensor port digits letters rest : List Char} {parts : Parts}
  {d : Descriptor}

/-! ### What the matchers take -/

theorem addOnBoardOf?_eq_some_iff : addOnBoardOf? body = some d ↔
    ∃ kind id, (Parts.addOnBoard kind id).Admitted ∧ (Parts.addOnBoard kind id).body = body ∧
      (Parts.addOnBoard kind id).meaning = d := by
  simp only [addOnBoardOf?, Option.bind_eq_bind, Option.bind_eq_some_iff]
  constructor
  · rintro ⟨⟨kind, id⟩, cut, taken⟩
    dsimp only at taken
    split at taken
    · next words =>
      cases taken
      exact ⟨kind, id, Bool.and_eq_true_iff.mp words, (Text.cut?_eq_some_iff.mp cut).1.symm, rfl⟩
    · cases taken
  · rintro ⟨kind, id, ⟨hkind, hid⟩, rfl, rfl⟩
    have free : '-' ∉ kind := not_mem_of_isWordOf hkind (by decide)
    refine ⟨(kind, id), Text.cut?_eq_some_iff.mpr ⟨rfl, free⟩, ?_⟩
    simp only [hkind, hid, Bool.and_self, if_true]
    rfl

theorem sensorLaneOf?_eq_some_iff : sensorLaneOf? body = some d ↔
    ∃ sensor port digits, (Parts.sensorLane sensor port digits).Admitted ∧
      (Parts.sensorLane sensor port digits).body = body ∧
      (Parts.sensorLane sensor port digits).meaning = d := by
  constructor
  · intro taken
    simp only [sensorLaneOf?, Option.bind_eq_bind, Option.bind_eq_some_iff] at taken
    obtain ⟨start, ends, taken⟩ := taken
    split at taken
    · next sensor port digits fields =>
      split at taken
      · next words =>
        cases taken
        simp only [Bool.and_eq_true, decide_eq_true_eq] at words
        obtain ⟨⟨⟨hsensor, hport⟩, hdigits⟩, small⟩ := words
        refine ⟨sensor, port, digits, ⟨hsensor, hport, hdigits, small⟩, ?_, rfl⟩
        have joined := Text.joinWith_fields '-' start
        rw [fields] at joined
        rw [← Text.dropSuffix?_eq_some_iff.mp ends, ← joined]
        simp [Parts.body, Text.joinWith]
      · cases taken
    · cases taken
  · rintro ⟨sensor, port, digits, ⟨hsensor, hport, hdigits, small⟩, rfl, rfl⟩
    have ends : Text.dropSuffix? ['L', 'a', 'n', 'e'] (Parts.sensorLane sensor port digits).body =
        some (sensor ++ '-' :: (port ++ '-' :: digits)) := by
      rw [Text.dropSuffix?_eq_some_iff]
      simp [Parts.body]
    have fields : Text.fields '-' (sensor ++ '-' :: (port ++ '-' :: digits)) =
        [sensor, port, digits] := by
      rw [Text.fields_append (not_mem_of_isWordOf hsensor (by decide)),
        Text.fields_append (not_mem_of_isWordOf hport (by decide)),
        Text.fields_of_not_mem (not_mem_of_isWordOf hdigits (by decide))]
    simp only [sensorLaneOf?, ends, Option.bind_eq_bind, Option.bind_some, fields, hsensor, hport,
      hdigits, small, decide_true, Bool.and_self, if_true]
    rfl

theorem isUpper_of_isDigit {c : Char} (h : c.isDigit = true) : c.isUpper = false := by
  have digit := UInt32.le_iff_toNat_le.mp (of_decide_eq_true (Bool.and_eq_true_iff.mp h).2)
  refine Bool.eq_false_iff.mpr fun upper => ?_
  have letter := UInt32.le_iff_toNat_le.mp (of_decide_eq_true upper).1
  exact absurd (Nat.le_trans letter digit) (by decide)

theorem isWordOf_takeWhile (admits : Char → Bool) (s : List Char) :
    isWordOf admits (s.takeWhile admits) = !(s.takeWhile admits).isEmpty := by
  simp [isWordOf]

/-- The port of a link booster ends with its digits. -/
theorem portOf_linkBooster (admitted : (Parts.linkBooster kind letters digits rest).Admitted) :
    (letters ++ (digits ++ rest)).takeWhile Char.isUpper = letters ∧
      ((letters ++ (digits ++ rest)).dropWhile Char.isUpper).takeWhile Char.isDigit = digits := by
  obtain ⟨-, hletters, hdigits, -, stop⟩ := admitted
  obtain ⟨some, all⟩ := isWordOf_iff.mp hdigits
  have first : ∀ c, (digits ++ rest).head? = .some c → c.isUpper = false := by
    intro c head
    obtain ⟨digit, digits, rfl⟩ := List.exists_cons_of_ne_nil some
    cases head
    exact isUpper_of_isDigit (all c List.mem_cons_self)
  obtain ⟨front, behind⟩ := Text.takeWhile_append_word (isWordOf_iff.mp hletters).2 first
  refine ⟨front, ?_⟩
  rw [behind]
  exact (Text.takeWhile_append_word all stop).1

theorem linkBoosterOf?_eq_some_iff (solid : ∀ c ∈ body, Text.isBlank c = false) :
    linkBoosterOf? body = some d ↔
      ∃ kind letters digits rest, (Parts.linkBooster kind letters digits rest).Admitted ∧
        (Parts.linkBooster kind letters digits rest).body = body ∧
        (Parts.linkBooster kind letters digits rest).meaning = d := by
  simp only [linkBoosterOf?, Option.bind_eq_bind, Option.bind_eq_some_iff]
  constructor
  · rintro ⟨⟨kind, after⟩, cut, taken⟩
    dsimp only at taken
    split at taken
    · next words =>
      cases taken
      obtain ⟨whole, -⟩ := Text.cut?_eq_some_iff.mp cut
      rw [← isWordOf_takeWhile, ← isWordOf_takeWhile, Bool.and_eq_true, Bool.and_eq_true] at words
      obtain ⟨⟨hkind, hletters⟩, hdigits⟩ := words
      refine ⟨kind, _, _, (after.dropWhile Char.isUpper).dropWhile Char.isDigit,
        ⟨hkind, hletters, hdigits, fun c mem => solid c ?_, fun c head => ?_⟩, ?_, rfl⟩
      · have inside := (List.dropWhile_sublist _).trans (List.dropWhile_sublist _) |>.subset mem
        rw [whole]
        exact List.mem_append_right _ (List.mem_cons_of_mem _ inside)
      · have stops := List.head?_dropWhile_not Char.isDigit (after.dropWhile Char.isUpper)
        simpa [head] using stops
      · rw [Parts.body, List.takeWhile_append_dropWhile, List.takeWhile_append_dropWhile, whole]
    · cases taken
  · rintro ⟨kind, letters, digits, rest, admitted, rfl, rfl⟩
    obtain ⟨front, behind⟩ := portOf_linkBooster admitted
    obtain ⟨hkind, hletters, hdigits, -⟩ := admitted
    have free : '-' ∉ kind := not_mem_of_isWordOf hkind (by decide)
    refine ⟨(kind, letters ++ (digits ++ rest)), Text.cut?_eq_some_iff.mpr ⟨rfl, free⟩, ?_⟩
    have some : letters.isEmpty = false ∧ digits.isEmpty = false := by
      simp only [List.isEmpty_eq_false_iff]
      exact ⟨(isWordOf_iff.mp hletters).1, (isWordOf_iff.mp hdigits).1⟩
    simp only [front, behind, hkind, some, Bool.not_false, Bool.and_self, if_true]
    rfl

/-! ### What is read -/

theorem body?_eq_some_iff {s : List Char} : body? s = some body ↔
    ∃ tag, Text.trim s = tag ++ ' ' :: body ∧ isWordOf Char.isAlphanum tag = true ∧
      isWordOf (fun c => !Text.isBlank c) body = true := by
  simp only [body?, Option.bind_eq_bind, Option.bind_eq_some_iff]
  constructor
  · rintro ⟨⟨tag, after⟩, cut, taken⟩
    dsimp only at taken
    split at taken
    · next words =>
      cases taken
      exact ⟨tag, (Text.cut?_eq_some_iff.mp cut).1, Bool.and_eq_true_iff.mp words⟩
    · cases taken
  · rintro ⟨tag, split, tagged, solid⟩
    have free : ' ' ∉ tag := not_mem_of_isWordOf tagged (by decide)
    refine ⟨(tag, body), Text.cut?_eq_some_iff.mpr ⟨split, free⟩, ?_⟩
    simp only [tagged, solid, Bool.and_self, if_true]

/-- Whatever is read is what the parts of the body tell. -/
theorem exists_parts_of_parse? (h : parse? raw = some d) :
    ∃ (body : List Char) (parts : Parts), body? raw.toList = some body ∧ parts.Admitted ∧
      parts.body = body ∧ parts.meaning = d := by
  obtain ⟨body, held, taken⟩ := Option.bind_eq_some_iff.mp h
  simp only [Option.orElse_eq_orElse, Option.orElse_eq_or, Option.or_eq_some_iff] at taken
  rcases taken with board | ⟨-, sensor | ⟨-, booster⟩⟩
  · obtain ⟨kind, id, made⟩ := addOnBoardOf?_eq_some_iff.mp board
    exact ⟨body, _, held, made⟩
  · obtain ⟨sensor, port, digits, made⟩ := sensorLaneOf?_eq_some_iff.mp sensor
    exact ⟨body, _, held, made⟩
  · obtain ⟨tag, -, -, solid⟩ := body?_eq_some_iff.mp held
    obtain ⟨kind, letters, digits, rest, made⟩ :=
      (linkBoosterOf?_eq_some_iff (by simpa using (isWordOf_iff.mp solid).2)).mp booster
    exact ⟨body, _, held, made⟩

/-- The names in a descriptor are words of their kinds. -/
def IsWorded : Descriptor → Prop
  | .addOnBoard id => isWordOf isIdChar id.text.toList = true
  | .sensorLane sensor port _ =>
    isWordOf isSensorChar sensor.toList = true ∧ isWordOf Char.isAlphanum port.toList = true
  | .linkBooster _ => True

theorem Parts.Admitted.isWorded (h : parts.Admitted) : parts.meaning.IsWorded := by
  cases parts with
  | addOnBoard kind id => simpa [IsWorded, Parts.meaning] using h.2
  | sensorLane sensor port digits => simpa [IsWorded, Parts.meaning] using ⟨h.1, h.2.1⟩
  | linkBooster => trivial

theorem isWorded_of_parse? (h : parse? raw = some d) : d.IsWorded := by
  obtain ⟨body, parts, -, admitted, -, rfl⟩ := exists_parts_of_parse? h
  exact admitted.isWorded

end CameraSetup.Descriptor
