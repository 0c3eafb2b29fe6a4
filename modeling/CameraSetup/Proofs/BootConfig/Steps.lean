import CameraSetup.Proofs.BootConfig.Keyword
import CameraSetup.Proofs.BootConfig.RoundTrip

/-! The steps of an edit: a line is put in where it belongs or nothing is, and then the lists are.
Each of them keeps a configuration readable, and none takes a keyword away. -/

namespace CameraSetup.BootConfig

variable {c : BootConfig} {paths : List String}

/-! ### Lines put in -/

theorem insertIdx_eq (lines : List String) (line : String) {position : Nat}
    (h : position ≤ lines.length) :
    lines.insertIdx position line = lines.take position ++ line :: lines.drop position := by
  induction lines generalizing position with
  | nil =>
    rw [Nat.le_zero.mp h]
    rfl
  | cons l lines ih =>
    cases position with
    | zero => rfl
    | succ position =>
      rw [List.insertIdx_succ_cons, ih (Nat.le_of_succ_le_succ h), List.take_succ_cons,
        List.drop_succ_cons, List.cons_append]

theorem lines_withLineAt (c : BootConfig) (position : Nat) (line : String) :
    (c.withLineAt position line).lines =
      c.lines.take position ++ line :: c.lines.drop position := by
  rw [withLineAt, insertIdx_eq _ _ (Nat.min_le_right _ _)]
  rcases Nat.le_total position c.lines.length with inside | outside
  · rw [Nat.min_eq_left inside]
  · rw [Nat.min_eq_right outside, List.take_length, List.drop_length,
      List.take_of_length_le outside, List.drop_of_length_le outside]

theorem mentions_withLineAt (c : BootConfig) (position : Nat) (line keyword : String) :
    (c.withLineAt position line).mentions keyword =
      (hasKeyword keyword line || c.mentions keyword) := by
  have whole := congrArg (List.any · (hasKeyword keyword)) (List.take_append_drop position c.lines)
  simp only [List.any_append] at whole
  rw [mentions, mentions, lines_withLineAt, ← whole]
  simp only [List.any_append, List.any_cons]
  exact Bool.or_left_comm _ _ _

theorem forall_withLineAt {P : String → Prop} (h : ∀ l ∈ c.lines, P l) (position : Nat)
    {line : String} (hline : P line) : ∀ l ∈ (c.withLineAt position line).lines, P l := by
  intro l mem
  rw [lines_withLineAt] at mem
  rcases List.mem_append.mp mem with mem | mem
  · exact h l (List.mem_of_mem_take mem)
  · rcases List.mem_cons.mp mem with rfl | mem
    · exact hline
    · exact h l (List.mem_of_mem_drop mem)

theorem Writable.withLineAt (h : c.Writable) (position : Nat) {line : String}
    (nonempty : line ≠ "") (hline : '\n' ∉ line.toList) :
    (c.withLineAt position line).Writable := by
  refine ⟨forall_withLineAt h.lines position hline, fun _ => by simp [lines_withLineAt],
    fun ended => ?_⟩
  have last := h.last ended
  have whole := List.take_append_drop position c.lines
  rw [lines_withLineAt]
  cases after : c.lines.drop position with
  | nil => simpa using nonempty
  | cons d after' =>
    rw [after] at whole
    rw [← whole] at last
    simpa using last

theorem Readable.withLineAt (h : c.Readable) (position : Nat) {line : String}
    (nonempty : line ≠ "") (hline : Text.IsLine line.toList) :
    (c.withLineAt position line).Readable :=
  ⟨h.toWritable.withLineAt position nonempty hline.1, forall_withLineAt h.whole position hline.2⟩

/-! ### Lists put in -/

/-- A keyword that a list leaves on its line is on as many lines as before. -/
theorem mentions_withOverlays {keyword : String} (c : BootConfig) (paths : List String)
    (kept : ∀ line, hasKeyword overlaysKeyword line = true →
      hasKeyword keyword (overlaysLine paths line) = hasKeyword keyword line) :
    (c.withOverlays paths).mentions keyword = c.mentions keyword := by
  rw [mentions, mentions, withOverlays, List.any_map]
  congr 1
  funext line
  by_cases h : hasKeyword overlaysKeyword line = true
  · simp [h, kept line h]
  · simp [h]

theorem mentions_overlays_withOverlays (c : BootConfig) (paths : List String) :
    (c.withOverlays paths).mentions overlaysKeyword = c.mentions overlaysKeyword :=
  c.mentions_withOverlays paths fun line h => by rw [h, hasKeyword_overlaysLine]

theorem mentions_base_withOverlays (c : BootConfig) (paths : List String) :
    (c.withOverlays paths).mentions baseKeyword = c.mentions baseKeyword := by
  refine c.mentions_withOverlays paths fun line h => ?_
  have written := hasKeyword_overlaysLine paths line
  rw [hasKeyword_base_of_overlays h, hasKeyword_base_of_overlays written]

theorem withOverlays_withOverlays (c : BootConfig) (paths paths' : List String) :
    (c.withOverlays paths).withOverlays paths' = c.withOverlays paths' := by
  simp only [withOverlays, List.map_map]
  congr 2
  funext line
  by_cases h : hasKeyword overlaysKeyword line = true
  · simp [h, hasKeyword_overlaysLine, overlaysLine_overlaysLine]
  · simp [h]

theorem Writable.withOverlays (h : c.Writable) (hpaths : ∀ path ∈ paths, IsInline path) :
    (c.withOverlays paths).Writable := by
  refine ⟨fun l mem => ?_, fun ended => ?_, fun ended => ?_⟩
  · obtain ⟨line, hline, rfl⟩ := List.mem_map.mp mem
    split
    · exact (isLine_overlaysLine hpaths (h.lines line hline)).1
    · exact h.lines line hline
  · simpa [BootConfig.withOverlays] using h.ended ended
  · intro empty
    simp only [BootConfig.withOverlays, List.getLast?_map, Option.map_eq_some_iff] at empty
    obtain ⟨line, last, empty⟩ := empty
    split at empty
    · exact overlaysLine_ne_empty paths line empty
    · exact h.last ended (empty ▸ last)

theorem Readable.withOverlays (h : c.Readable) (hpaths : ∀ path ∈ paths, IsInline path) :
    (c.withOverlays paths).Readable := by
  refine ⟨h.toWritable.withOverlays hpaths, fun l mem => ?_⟩
  obtain ⟨line, hline, rfl⟩ := List.mem_map.mp mem
  split
  · exact (isLine_overlaysLine hpaths (h.lines line hline)).2
  · exact h.whole line hline

/-! ### Lines read back -/

/-- A carriage return at the end of a line does not change its keyword. -/
theorem ReadAs.hasKeyword {line line' : String} (h : ReadAs line line') (keyword : String) :
    hasKeyword keyword line' = hasKeyword keyword line := by
  have words : Text.firstWord line'.toList = Text.firstWord line.toList := by
    rcases h with same | ending
    · rw [same]
    · rw [ending, Text.firstWord_concat (by decide)]
  rw [BootConfig.hasKeyword, BootConfig.hasKeyword, words]

/-! ### The steps -/

/-- The lines that an edit needs. -/
def IsComplete (c : BootConfig) : Prop :=
  c.mentions baseKeyword = true ∧ c.mentions overlaysKeyword = true

theorem IsComplete.withOverlays (h : c.IsComplete) (paths : List String) :
    (c.withOverlays paths).IsComplete :=
  ⟨by rw [mentions_base_withOverlays, h.1], by rw [mentions_overlays_withOverlays, h.2]⟩

variable {based complete : BootConfig} {added : Bool} {path : String}

theorem withBaseLine_ok (h : c.withBaseLine path = .ok (based, added)) :
    based.mentions baseKeyword = true ∧
      (based = c ∨ ∃ position, based = c.withLineAt position (deviceTreeLine path)) := by
  unfold withBaseLine at h
  split at h
  · next has =>
    cases h
    exact ⟨has, .inl rfl⟩
  · split at h
    · cases h
    · cases h
      refine ⟨?_, .inr ⟨_, rfl⟩⟩
      rw [mentions_withLineAt, hasKeyword_deviceTreeLine, Bool.true_or]

theorem withOverlayLine_ok (h : based.withOverlayLine = .ok (complete, added)) :
    complete.mentions overlaysKeyword = true ∧ (complete = based ∨
      ∃ position, complete = based.withLineAt position (addedIndent ++ overlaysKeyword)) := by
  unfold withOverlayLine at h
  split at h
  · next has =>
    cases h
    exact ⟨has, .inl rfl⟩
  · split at h
    · cases h
    · cases h
      refine ⟨?_, .inr ⟨_, rfl⟩⟩
      rw [mentions_withLineAt, hasKeyword_added, Bool.true_or]

end CameraSetup.BootConfig
