import CameraSetup.BootConfig
import CameraSetup.Proofs.Text.Lines

/-! Which boot configurations are read back from their text. One whose lines hold no line feed,
where a last line without a line feed is not empty, is read back line by line, but for a carriage
return at the end of a line; without such carriage returns it is read back as it is. What is read
from a text is such a configuration. -/

namespace CameraSetup.BootConfig

theorem toList_intercalate_concat (front : List String) (last : String) :
    (String.intercalate "\n" (front ++ [last])).toList =
      (front.map String.toList).flatMap (· ++ ['\n']) ++ last.toList := by
  induction front with
  | nil => simp
  | cons line front ih =>
    rw [List.cons_append, String.intercalate_cons_of_ne_nil (by simp)]
    simp only [String.toList_append, ih]
    simp

/-- A configuration whose text has a line for each of its lines. -/
structure Writable (c : BootConfig) : Prop where
  lines : ∀ line ∈ c.lines, '\n' ∉ line.toList
  ended : c.endsInNewline = true → c.lines ≠ []
  last : c.endsInNewline = false → c.lines.getLast? ≠ some ""

/-- A configuration that its text is read back as. -/
structure Readable (c : BootConfig) : Prop extends c.Writable where
  whole : ∀ line ∈ c.lines, line.toList.getLast? ≠ some '\r'

/-- What a line of a configuration can be read back as: itself, or without a carriage return at its
end. -/
def ReadAs (line line' : String) : Prop := Text.IsReadAs line.toList line'.toList

/-! ### The text of a configuration -/

/-- The lines that a line feed ends. -/
def endedLines (c : BootConfig) : List String :=
  if c.endsInNewline then c.lines else c.lines.dropLast

/-- The line that no line feed ends. -/
def openLine? (c : BootConfig) : Option String :=
  if c.endsInNewline then none else c.lines.getLast?

theorem lines_eq (c : BootConfig) : c.lines = c.endedLines ++ c.openLine?.toList := by
  unfold endedLines openLine?
  split
  · simp
  · rcases List.eq_nil_or_concat c.lines with none | ⟨front, last, some⟩
    · simp [none]
    · simp [some]

theorem toList_render (c : BootConfig) : c.render.toList =
    Text.terminated (c.endedLines.map String.toList) ++ c.openLine?.elim [] String.toList := by
  unfold render endedLines openLine?
  rcases List.eq_nil_or_concat c.lines with none | ⟨front, last, some⟩
  · cases c.endsInNewline <;> simp [none, Text.terminated]
  · rw [List.concat_eq_append] at some
    have joined := toList_intercalate_concat front last
    rw [some, String.toList_append, joined]
    cases c.endsInNewline <;> simp [Text.terminated]

/-- The line without a carriage return at its end. -/
def withoutReturn (line : String) : String := String.ofList (Text.withoutReturn line.toList)

variable {c : BootConfig}

theorem Writable.openLine (h : c.Writable) {line : String} (last : c.openLine? = some line) :
    line.toList ≠ [] ∧ '\n' ∉ line.toList := by
  unfold openLine? at last
  split at last
  · cases last
  · next feed =>
    refine ⟨fun empty => h.last (by simpa using feed) ?_, h.lines line (List.mem_of_getLast? last)⟩
    rw [last, String.toList_eq_nil_iff.mp empty]

theorem lines_parse_render (h : c.Writable) :
    (parse c.render).lines = c.endedLines.map withoutReturn ++ c.openLine?.toList := by
  have feeds := h.lines
  rw [c.lines_eq] at feeds
  have ended : ∀ l ∈ c.endedLines.map String.toList, '\n' ∉ l := by
    simpa using fun line mem => feeds line (List.mem_append_left _ mem)
  have last : Text.lines (c.openLine?.elim [] String.toList) =
      c.openLine?.toList.map String.toList := by
    cases final : c.openLine? with
    | none => rfl
    | some line =>
      obtain ⟨nonempty, inline⟩ := h.openLine final
      exact Text.lines_unterminated inline nonempty
  rw [parse, toList_render, Text.lines_terminated ended, last]
  simp [withoutReturn, Function.comp_def]

theorem endsInNewline_parse_render (h : c.Writable) :
    (parse c.render).endsInNewline = c.endsInNewline := by
  rw [parse, toList_render]
  cases feed : c.endsInNewline with
  | true =>
    have closed : c.openLine? = none := if_pos feed
    have whole : c.endedLines = c.lines := if_pos feed
    obtain ⟨front, last, some⟩ := (List.eq_nil_or_concat c.lines).resolve_left (h.ended feed)
    simp [closed, whole, some, Text.terminated, List.getLast?_append]
  | false =>
    cases final : c.openLine? with
    | none =>
      have none : c.lines = [] := by
        rw [openLine?, feed] at final
        exact List.getLast?_eq_none_iff.mp final
      simp [endedLines, none, Text.terminated]
    | some line =>
      obtain ⟨nonempty, inline⟩ := h.openLine final
      have unfed : line.toList.getLast nonempty ≠ '\n' := fun ends =>
        inline (ends ▸ List.getLast_mem nonempty)
      rw [Option.elim_some, List.getLast?_append, List.getLast?_eq_some_getLast nonempty]
      simpa using unfed

/-- The lines that a line feed ends lose a carriage return at their end, and nothing else
changes. -/
theorem parse_render_eq (h : c.Writable) : parse c.render =
    { c with lines := c.endedLines.map withoutReturn ++ c.openLine?.toList } := by
  have lines := lines_parse_render h
  have ended := endsInNewline_parse_render h
  generalize parse c.render = read at lines ended
  cases read
  cases lines
  cases ended
  rfl

theorem parse_render_eq_iff (h : c.Writable) :
    parse c.render = c ↔ ∀ line ∈ c.endedLines, line.toList.getLast? ≠ some '\r' := by
  have kept : ∀ line, withoutReturn line = line ↔ line.toList.getLast? ≠ some '\r' := by
    intro line
    rw [← Text.withoutReturn_eq_self_iff, withoutReturn, ← String.toList_inj, String.toList_ofList]
  have same : parse c.render = c ↔
      c.endedLines.map withoutReturn ++ c.openLine?.toList = c.lines := by
    rw [parse_render_eq h]
    constructor
    · intro same
      exact congrArg BootConfig.lines same
    · intro lines
      rw [lines]
  have each := @List.map_inj_left _ _ c.endedLines withoutReturn id
  rw [List.map_id] at each
  rw [same, c.lines_eq, List.append_left_inj, each]
  exact forall₂_congr fun line _ => kept line

theorem readAs_render {c : BootConfig} (h : c.Writable) :
    List.Forall₂ ReadAs c.lines (parse c.render).lines ∧
      (parse c.render).endsInNewline = c.endsInNewline := by
  rw [parse_render_eq h]
  refine ⟨?_, rfl⟩
  have ended : List.Forall₂ ReadAs c.endedLines (c.endedLines.map withoutReturn) := by
    rw [List.forall₂_map_right_iff, List.forall₂_same]
    intro line _
    rw [ReadAs, withoutReturn, String.toList_ofList]
    exact Text.isReadAs_withoutReturn line.toList
  have last : List.Forall₂ ReadAs c.openLine?.toList c.openLine?.toList :=
    List.forall₂_same.mpr fun line _ => .inl rfl
  conv => lhs; rw [c.lines_eq]
  exact List.rel_append ended last

theorem parse_render (h : c.Readable) : parse c.render = c := by
  rw [parse_render_eq_iff h.toWritable]
  intro line mem
  exact h.whole line (c.lines_eq ▸ List.mem_append_left _ mem)

theorem writable_parse (text : String) : (parse text).Writable where
  lines line mem := by
    obtain ⟨l, hl, rfl⟩ := List.mem_map.mp mem
    simpa using Text.feed_not_mem_of_mem_lines hl
  ended feed := by
    have nonempty : text.toList ≠ [] := by
      rintro empty
      simp [parse, empty] at feed
    simpa [parse] using Text.lines_ne_nil nonempty
  last feed := by
    have last := @Text.getLast?_lines text.toList (by simpa [parse] using feed)
    simp only [parse, List.getLast?_map]
    intro empty
    obtain ⟨l, hl, empty⟩ := Option.map_eq_some_iff.mp empty
    rw [hl] at last
    exact last (by simpa using empty)

/-- What is read from a text is readable, unless a line ends in a carriage return. -/
theorem readable_parse {text : String}
    (h : ∀ line ∈ (parse text).lines, line.toList.getLast? ≠ some '\r') :
    (parse text).Readable :=
  ⟨writable_parse text, h⟩

end CameraSetup.BootConfig
