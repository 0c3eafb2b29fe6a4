import CameraSetup.Proofs.Descriptor.Written

/-! The grammar of descriptors. What is read is what the parts of a text tell, and a text can be
taken apart in one way only, except that the body of a sensor can have the parts of a link booster
too: then it is the sensor that is read. -/

namespace CameraSetup.Descriptor

variable {raw : String} {t tag tag' body kind id sensor port digits letters rest : List Char}
  {parts parts' : Parts} {d : Descriptor}

/-! ### Whole texts -/

/-- A text is a tag word, a space, and a body with these parts. -/
structure HasParts (t tag : List Char) (parts : Parts) : Prop where
  split : t = tag ++ ' ' :: parts.body
  tagged : isWordOf Char.isAlphanum tag = true
  admitted : parts.Admitted

/-- How a text is read: not as a link booster when it has the parts of a sensor too. -/
def IsReading (t tag : List Char) (parts : Parts) : Prop :=
  HasParts t tag parts ∧
    match parts with
    | .linkBooster .. => ¬ ∃ tag sensor port digits, HasParts t tag (.sensorLane sensor port digits)
    | _ => True

/-- A text has one tag word and one body, whatever their parts. -/
theorem HasParts.unique (h : HasParts t tag parts) (h' : HasParts t tag' parts') :
    tag = tag' ∧ parts.body = parts'.body :=
  Text.eq_of_append_cons (not_mem_of_isWordOf h.tagged (by decide))
    (not_mem_of_isWordOf h'.tagged (by decide)) (h.split.symm.trans h'.split)

/-- No word in the characters of a body has white space. -/
theorem isBlank_of_isWordOf {admits : Char → Bool} {s : List Char} (word : isWordOf admits s = true)
    (among : ∀ c, admits c = true → isBodyChar c = true) : ∀ c ∈ s, Text.isBlank c = false :=
  fun c mem => isBlank_of_isBodyChar (among c ((isWordOf_iff.mp word).2 c mem))

theorem isBodyChar_of_contains {letters : List Char} (all : letters.all isBodyChar = true) (c : Char)
    (h : letters.contains c = true) : isBodyChar c = true :=
  List.all_eq_true.mp all c (List.contains_iff_mem.mp h)

/-- The body of a sensor is the one that is written. -/
theorem Parts.body_sensorLane (hdigits : isWordOf isLaneDigit digits = true) :
    (sensorLane sensor port digits).body =
      sensorBody (String.ofList sensor) (String.ofList port) (decimalValue digits) := by
  simp [body, sensorBody, toDigits_decimalValue hdigits]

theorem Parts.Admitted.solid (h : parts.Admitted) : ∀ c ∈ parts.body, Text.isBlank c = false := by
  intro c mem
  cases parts with
  | addOnBoard kind id =>
    obtain ⟨hkind, hid⟩ := h
    rcases List.mem_append.mp mem with mem | mem
    · exact isBlank_of_isWordOf hkind (isBodyChar_of_contains (by decide)) c mem
    rcases List.mem_cons.mp mem with rfl | mem
    · decide
    · refine isBlank_of_isWordOf hid (fun c admitted => ?_) c mem
      simp only [isIdChar, Bool.or_eq_true] at admitted
      rcases admitted with (admitted | admitted) | admitted <;> simp [isBodyChar, admitted]
  | sensorLane sensor port digits =>
    rw [Parts.body_sensorLane h.2.2.1] at mem
    have word := isBodyChar_sensorBody h.isWorded
    exact isBlank_of_isWordOf word (fun _ admitted => admitted) c mem
  | linkBooster kind letters digits rest =>
    obtain ⟨hkind, hletters, hdigits, solid, -⟩ := h
    simp only [Parts.body, List.mem_append, List.mem_cons] at mem
    rcases mem with mem | rfl | mem | mem | mem
    · exact isBlank_of_isWordOf hkind (isBodyChar_of_contains (by decide)) c mem
    · decide
    · refine isBlank_of_isWordOf hletters (fun c upper => ?_) c mem
      have letter : c.isAlpha = true := Bool.or_eq_true_iff.mpr (.inl upper)
      simp [isBodyChar, Char.isAlphanum, letter]
    · refine isBlank_of_isWordOf hdigits (fun c digit => ?_) c mem
      simp [isBodyChar, Char.isAlphanum, digit]
    · exact solid c mem

/-! ### What is read -/

/-- A body with the parts of a link booster is none of a board. -/
theorem addOnBoardOf?_linkBooster
    (admitted : (Parts.linkBooster kind letters digits rest).Admitted) :
    addOnBoardOf? (Parts.linkBooster kind letters digits rest).body = none := by
  cases matched : addOnBoardOf? (Parts.linkBooster kind letters digits rest).body with
  | none => rfl
  | some d =>
    obtain ⟨kind', id, ⟨hkind', -⟩, same, -⟩ := addOnBoardOf?_eq_some_iff.mp matched
    obtain ⟨hkind, -⟩ := admitted
    obtain ⟨rfl, -⟩ := Text.eq_of_append_cons (not_mem_of_isWordOf hkind' (by decide))
      (not_mem_of_isWordOf hkind (by decide)) same
    -- The letters before the hyphen would be of both kinds, and no letter is.
    obtain ⟨c, mem⟩ := List.exists_mem_of_ne_nil _ (isWordOf_iff.mp hkind).1
    have apart : ['F', 'P', 'A'].all (fun c => ['G', 'M', 'S', 'L'].contains c == false) = true := by
      decide
    have other := List.all_eq_true.mp apart c
      (List.contains_iff_mem.mp ((isWordOf_iff.mp hkind').2 c mem))
    rw [(isWordOf_iff.mp hkind).2 c mem] at other
    cases other

theorem HasParts.body?_eq (h : HasParts (Text.trim raw.toList) tag parts) :
    body? raw.toList = some parts.body := by
  refine body?_eq_some_iff.mpr ⟨tag, h.split, h.tagged, isWordOf_iff.mpr ⟨?_, fun c mem => ?_⟩⟩
  · cases parts <;> simp [Parts.body]
  · rw [h.admitted.solid c mem]
    rfl

/-- A text is read as what the parts of its reading tell. -/
theorem IsReading.parse?_eq (h : IsReading (Text.trim raw.toList) tag parts) :
    parse? raw = some parts.meaning := by
  obtain ⟨has, preferred⟩ := h
  rw [parse?_of_body? has.body?_eq]
  cases parts with
  | addOnBoard kind id =>
    rw [addOnBoardOf?_eq_some_iff.mpr ⟨kind, id, has.admitted, rfl, rfl⟩, Option.some_or]
  | sensorLane sensor port digits =>
    have board : addOnBoardOf? (Parts.sensorLane sensor port digits).body = none :=
      addOnBoardOf?_two_hyphens _ _ _
    rw [board, sensorLaneOf?_eq_some_iff.mpr ⟨sensor, port, digits, has.admitted, rfl, rfl⟩,
      Option.none_or, Option.some_or]
  | linkBooster kind letters digits rest =>
    have sensor : sensorLaneOf? (Parts.linkBooster kind letters digits rest).body = none := by
      cases matched : sensorLaneOf? (Parts.linkBooster kind letters digits rest).body with
      | none => rfl
      | some d =>
        obtain ⟨sensor, port, digits', admitted, same, -⟩ := sensorLaneOf?_eq_some_iff.mp matched
        exact absurd ⟨tag, sensor, port, digits', same ▸ has.split, has.tagged, admitted⟩ preferred
    rw [addOnBoardOf?_linkBooster has.admitted, sensor, Option.none_or, Option.none_or,
      linkBoosterOf?_eq_some_iff has.admitted.solid]
    exact ⟨kind, letters, digits, rest, has.admitted, rfl, rfl⟩

/-- What is read is what the parts of a reading tell. -/
theorem exists_isReading_of_parse? (h : parse? raw = some d) :
    ∃ tag parts, IsReading (Text.trim raw.toList) tag parts ∧ parts.meaning = d := by
  obtain ⟨body, parts, held, admitted, rfl, rfl⟩ := exists_parts_of_parse? h
  obtain ⟨tag, split, tagged, -⟩ := body?_eq_some_iff.mp held
  refine ⟨tag, parts, ⟨⟨split, tagged, admitted⟩, ?_⟩, rfl⟩
  cases parts with
  | addOnBoard | sensorLane => trivial
  | linkBooster =>
    -- With the parts of a sensor too, it would be the sensor that is read.
    rintro ⟨tag', sensor, port, digits, other⟩
    have sensorRead : parse? raw = _ := IsReading.parse?_eq ⟨other, trivial⟩
    cases h.symm.trans sensorRead

theorem parse?_eq_some_iff : parse? raw = some d ↔
    ∃ tag parts, IsReading (Text.trim raw.toList) tag parts ∧ parts.meaning = d := by
  constructor
  · exact exists_isReading_of_parse?
  · rintro ⟨tag, parts, reading, rfl⟩
    exact reading.parse?_eq

theorem parse?_eq_addOnBoard_iff {id : BoardId} : parse? raw = some (.addOnBoard id) ↔
    ∃ tag kind, HasParts (Text.trim raw.toList) tag (.addOnBoard kind id.text.toList) := by
  constructor
  · intro read
    obtain ⟨tag, parts, ⟨has, -⟩, means⟩ := parse?_eq_some_iff.mp read
    cases parts with
    | addOnBoard kind id =>
      cases means
      exact ⟨tag, kind, by simpa using has⟩
    | sensorLane | linkBooster => cases means
  · rintro ⟨tag, kind, has⟩
    exact parse?_eq_some_iff.mpr ⟨tag, _, ⟨has, trivial⟩, by simp [Parts.meaning]⟩

theorem parse?_eq_sensorLane_iff {sensor port : String} {lanes : Nat} :
    parse? raw = some (.sensorLane sensor port lanes) ↔
      ∃ tag digits, HasParts (Text.trim raw.toList) tag
        (.sensorLane sensor.toList port.toList digits) ∧ decimalValue digits = lanes := by
  constructor
  · intro read
    obtain ⟨tag, parts, ⟨has, -⟩, means⟩ := parse?_eq_some_iff.mp read
    cases parts with
    | sensorLane sensor port digits =>
      cases means
      exact ⟨tag, digits, by simpa using has, rfl⟩
    | addOnBoard | linkBooster => cases means
  · rintro ⟨tag, digits, has, rfl⟩
    exact parse?_eq_some_iff.mpr ⟨tag, _, ⟨has, trivial⟩, by simp [Parts.meaning]⟩

theorem parse?_eq_linkBooster_iff {port : String} : parse? raw = some (.linkBooster port) ↔
    (∃ tag kind letters digits rest, HasParts (Text.trim raw.toList) tag
      (.linkBooster kind letters digits rest) ∧ letters ++ digits = port.toList) ∧
    ¬ ∃ tag sensor port digits, HasParts (Text.trim raw.toList) tag
      (.sensorLane sensor port digits) := by
  constructor
  · intro read
    obtain ⟨tag, parts, ⟨has, preferred⟩, means⟩ := parse?_eq_some_iff.mp read
    cases parts with
    | linkBooster kind letters digits rest =>
      cases means
      exact ⟨⟨tag, kind, letters, digits, rest, has, by simp⟩, preferred⟩
    | addOnBoard | sensorLane => cases means
  · rintro ⟨⟨tag, kind, letters, digits, rest, has, ends⟩, preferred⟩
    exact parse?_eq_some_iff.mpr ⟨tag, _, ⟨has, preferred⟩, by simp [Parts.meaning, ends]⟩

theorem HasParts.exists_isReading (h : HasParts t tag parts) :
    ∃ tag parts, IsReading t tag parts := by
  by_cases sensor : ∃ tag sensor port digits, HasParts t tag (.sensorLane sensor port digits)
  · obtain ⟨tag', sensor, port, digits, has⟩ := sensor
    exact ⟨tag', _, has, trivial⟩
  · refine ⟨tag, parts, h, ?_⟩
    cases parts with
    | addOnBoard | sensorLane => trivial
    | linkBooster => exact sensor

theorem parse?_eq_none_iff : parse? raw = none ↔
    ∀ tag parts, ¬ HasParts (Text.trim raw.toList) tag parts := by
  constructor
  · intro unread tag parts has
    obtain ⟨tag', parts', reading⟩ := has.exists_isReading
    rw [reading.parse?_eq] at unread
    cases unread
  · intro unfit
    cases read : parse? raw with
    | none => rfl
    | some d =>
      obtain ⟨tag, parts, reading, -⟩ := parse?_eq_some_iff.mp read
      exact absurd reading.1 (unfit tag parts)

/-- Parts of one body that tell the same are the same. -/
theorem Parts.eq_of_meaning (h : parts.Admitted) (h' : parts'.Admitted)
    (same : parts.body = parts'.body) (means : parts.meaning = parts'.meaning) :
    parts = parts' := by
  cases parts with
  | addOnBoard kind id =>
    cases parts' with
    | addOnBoard kind' id' =>
      obtain ⟨rfl, rfl⟩ := Text.eq_of_append_cons (not_mem_of_isWordOf h.1 (by decide))
        (not_mem_of_isWordOf h'.1 (by decide)) same
      rfl
    | sensorLane | linkBooster => cases means
  | sensorLane sensor port digits =>
    cases parts' with
    | sensorLane sensor' port' digits' =>
      obtain ⟨rfl, behind⟩ := Text.eq_of_append_cons (not_mem_of_isWordOf h.1 (by decide))
        (not_mem_of_isWordOf h'.1 (by decide)) same
      obtain ⟨rfl, last⟩ := Text.eq_of_append_cons (not_mem_of_isWordOf h.2.1 (by decide))
        (not_mem_of_isWordOf h'.2.1 (by decide)) behind
      rw [List.append_cancel_right last]
    | addOnBoard | linkBooster => cases means
  | linkBooster kind letters digits rest =>
    cases parts' with
    | linkBooster kind' letters' digits' rest' =>
      obtain ⟨rfl, after⟩ := Text.eq_of_append_cons (not_mem_of_isWordOf h.1 (by decide))
        (not_mem_of_isWordOf h'.1 (by decide)) same
      obtain ⟨front, behind⟩ := portOf_linkBooster h
      obtain ⟨front', behind'⟩ := portOf_linkBooster h'
      rw [← after] at front' behind'
      obtain rfl := front.symm.trans front'
      obtain rfl := behind.symm.trans behind'
      rw [List.append_cancel_left (List.append_cancel_left after)]
    | addOnBoard | sensorLane => cases means

/-- A text has one reading. -/
theorem IsReading.unique (h : IsReading (Text.trim raw.toList) tag parts)
    (h' : IsReading (Text.trim raw.toList) tag' parts') : tag = tag' ∧ parts = parts' := by
  obtain ⟨tags, bodies⟩ := h.1.unique h'.1
  have means := Option.some.inj (h.parse?_eq.symm.trans h'.parse?_eq)
  exact ⟨tags, Parts.eq_of_meaning h.1.admitted h'.1.admitted bodies means⟩

/-- A text is read exactly as the grammar has it. A board, a sensor on a port with a number of lanes,
and a port with a link booster are each read from the texts with such parts and from no others,
where a text with the parts of a sensor and of a link booster is that of the sensor; all other texts
are not read. No text has two readings. And a board or a sensor that is written with any tag word is
read back. -/
theorem parse?_reads_grammar :
    (∀ raw : String, let t := Text.trim raw.toList
      (∀ id, parse? raw = some (.addOnBoard id) ↔
        ∃ tag kind, HasParts t tag (.addOnBoard kind id.text.toList)) ∧
      (∀ sensor port lanes, parse? raw = some (.sensorLane sensor port lanes) ↔
        ∃ tag digits, HasParts t tag (.sensorLane sensor.toList port.toList digits) ∧
          decimalValue digits = lanes) ∧
      (∀ port, parse? raw = some (.linkBooster port) ↔
        (∃ tag kind letters digits rest, HasParts t tag (.linkBooster kind letters digits rest) ∧
          letters ++ digits = port.toList) ∧
        ¬ ∃ tag sensor port digits, HasParts t tag (.sensorLane sensor port digits)) ∧
      (parse? raw = none ↔ ∀ tag parts, ¬ HasParts t tag parts) ∧
      ∀ tag parts tag' parts', IsReading t tag parts → IsReading t tag' parts' →
        tag = tag' ∧ parts = parts') ∧
    ∀ tag : String, isWordOf Char.isAlphanum tag.toList = true →
      (∀ id, IsWorded (.addOnBoard id) →
        parse? (written tag (.addOnBoard id)) = some (.addOnBoard id)) ∧
      ∀ sensor port lanes, IsWorded (.sensorLane sensor port lanes) → IsLaneCount lanes →
        parse? (written tag (.sensorLane sensor port lanes)) =
          some (.sensorLane sensor port lanes) := by
  constructor
  · intro raw t
    refine ⟨fun _ => parse?_eq_addOnBoard_iff, fun _ _ _ => parse?_eq_sensorLane_iff,
      fun _ => parse?_eq_linkBooster_iff, parse?_eq_none_iff, ?_⟩
    intro tag parts tag' parts' reading reading'
    exact reading.unique reading'
  · intro tag tagged
    exact ⟨fun _ worded => parse?_written_addOnBoard tagged worded,
      fun _ _ _ worded count => parse?_written_sensorLane tagged worded count⟩

/-- With too many lanes for a sensor, a body has the parts of a link booster only. With fewer it is
that of a sensor called GMSL. -/
theorem parse?_reads_grammar_with_many_lanes :
    let t := Text.trim "\tx1 GMSL-P0-99999999999Lane\n".toList
    let parts := Parts.linkBooster "GMSL".toList ['P'] ['0'] "-99999999999Lane".toList
    IsReading t ['x', '1'] parts ∧
    (∀ tag' parts', IsReading t tag' parts' → ['x', '1'] = tag' ∧ parts = parts') ∧
    parse? "x1 GMSL-P0-9Lane" = some (.sensorLane "GMSL" "P0" 9) ∧
    parse? "x1 FPA-4.A/4.B" = some (.addOnBoard ⟨"4.A/4.B"⟩) := by
  intro t parts
  obtain ⟨grammar, recovered⟩ := parse?_reads_grammar
  obtain ⟨-, -, booster, -, unique⟩ := grammar "\tx1 GMSL-P0-99999999999Lane\n"
  obtain ⟨-, none⟩ := (booster "P0").mp (by decide +kernel)
  have solid : "-99999999999Lane".toList.all (fun c => Text.isBlank c == false) = true := by decide
  have has : HasParts t ['x', '1'] parts := by
    refine ⟨by decide +kernel, by decide, by decide, by decide, by decide, fun c mem => ?_,
      fun c head => ?_⟩
    · exact beq_iff_eq.mp (List.all_eq_true.mp solid c mem)
    · cases head
      decide
  refine ⟨⟨has, none⟩, fun tag' parts' => unique _ _ tag' parts' ⟨has, none⟩, ?_, ?_⟩
  · exact (recovered "x1" (by decide)).2 "GMSL" "P0" 9 ⟨by decide, by decide⟩
      ⟨['9'], by decide, by decide, by decide⟩
  · exact (recovered "x1" (by decide)).1 ⟨"4.A/4.B"⟩ (by rw [IsWorded]; decide)

end CameraSetup.Descriptor
