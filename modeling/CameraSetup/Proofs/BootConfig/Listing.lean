import CameraSetup.Proofs.BootConfig.LastList

/-! The lines of an edited text, read back one by one: an `OVERLAYS` line is the list on its own
indentation, every other line is as it was. The list is the second word of its line, so paths
without white space and commas are read off the line as they were given. -/

namespace CameraSetup

namespace Text

/-- The word after the first one. -/
def secondWord (s : List Char) : List Char :=
  firstWord ((trimStart s).dropWhile fun c => !isBlank c)

theorem secondWord_append {i w v : List Char} (blank : ∀ b ∈ i, isBlank b = true)
    (nonempty : w ≠ []) (word : ∀ c ∈ w, isBlank c = false) (nonempty' : v ≠ [])
    (word' : ∀ c ∈ v, isBlank c = false) : secondWord (i ++ w ++ ' ' :: v) = v := by
  obtain ⟨c, w', rfl⟩ := List.exists_cons_of_ne_nil nonempty
  have first : isBlank c = false := word c List.mem_cons_self
  have second := @firstWord_append [' '] v [] (List.all_eq_true.mp (by decide)) nonempty' word'
    (by simp)
  rw [secondWord, List.append_assoc, List.cons_append, trimStart_append blank first,
    ← List.cons_append, List.dropWhile_append_of_pos (by simpa using word),
    List.dropWhile_cons_of_neg (by decide)]
  rwa [List.append_nil] at second

end Text

namespace BootConfig

variable {ε : Type} {base : Except ε String} {paths : List String} {text result line line' : String}

/-! ### Lines that become others -/

theorem exists_of_mem_forall₂ {R : String → String → Prop} {ls ls' : List String}
    (h : List.Forall₂ R ls ls') (mem : line' ∈ ls') : ∃ line, R line line' := by
  induction h with
  | nil => cases mem
  | cons first _ ih =>
    rcases List.mem_cons.mp mem with rfl | mem
    · exact ⟨_, first⟩
    · exact ih mem

theorem any_eq_of_forall₂ {R : String → String → Prop} {p : String → Bool}
    (keeps : ∀ l l', R l l' → p l' = p l) {ls ls' : List String} (h : List.Forall₂ R ls ls') :
    ls'.any p = ls.any p := by
  induction h with
  | nil => rfl
  | cons first _ ih => rw [List.any_cons, List.any_cons, keeps _ _ first, ih]

/-! ### Lines of an edited text -/

/-- What a line can be read back as after an edit: an `OVERLAYS` line has the list. -/
def Relisted (paths : List String) (line line' : String) : Prop :=
  if hasKeyword overlaysKeyword line then line' = overlaysLine paths line else ReadAs line line'

theorem relisted_of_readAs (hpaths : ∀ path ∈ paths, IsInline path) (feed : '\n' ∉ line.toList)
    (h : ReadAs (if hasKeyword overlaysKeyword line then overlaysLine paths line else line) line') :
    Relisted paths line line' := by
  unfold Relisted
  split
  · next lists =>
    rw [if_pos lists] at h
    have whole := isLine_overlaysLine hpaths feed
    have same := h.resolve_right fun ending => whole.2 (by rw [ending, List.getLast?_concat])
    exact String.toList_injective same
  · next lists => rwa [if_neg lists] at h

theorem Relisted.hasKeyword (h : Relisted paths line line') (keyword : String) :
    hasKeyword keyword line' = hasKeyword keyword line := by
  unfold Relisted at h
  split at h
  · next lists =>
    rw [h]
    by_cases same : keyword = overlaysKeyword
    · rw [same, hasKeyword_overlaysLine, lists]
    · have other : ∀ l, BootConfig.hasKeyword overlaysKeyword l = true →
          BootConfig.hasKeyword keyword l = false := fun l overlays =>
        Bool.eq_false_iff.mpr fun here => same (hasKeyword_unique here overlays)
      rw [other _ lists, other _ (hasKeyword_overlaysLine paths line)]
  · exact ReadAs.hasKeyword h keyword

theorem Relisted.eq_overlaysLine (h : Relisted paths line line')
    (lists : BootConfig.hasKeyword overlaysKeyword line' = true) :
    line' = overlaysLine paths line' := by
  rw [h.hasKeyword] at lists
  rw [Relisted, if_pos lists] at h
  rw [h, overlaysLine_overlaysLine]

theorem relisted_of_edit
    (hbase : (parse text).needsBase = true → ∀ path, base = .ok path → IsInline path)
    (hpaths : ∀ path ∈ paths, IsInline path) (h : edit base paths text = .ok result) :
    ∃ c, completed base (parse text) = .ok c ∧
      List.Forall₂ (Relisted paths) c.lines (parse result).lines := by
  obtain ⟨c, hc, read⟩ := readAs_of_edit hbase hpaths h
  have feeds := ((writable_parse text).completed hbase hc).lines
  rw [withOverlays, List.forall₂_map_left_iff] at read
  exact ⟨c, hc, ((List.forall₂_and_left _ _).mpr ⟨feeds, read⟩).imp fun _ _ both =>
    relisted_of_readAs hpaths both.1 both.2⟩

theorem mentions_of_edit
    (hbase : (parse text).needsBase = true → ∀ path, base = .ok path → IsInline path)
    (hpaths : ∀ path ∈ paths, IsInline path) (h : edit base paths text = .ok result) :
    (parse result).mentions baseKeyword = true ∧
      (parse result).mentions overlaysKeyword = true := by
  obtain ⟨c, hc, relisted⟩ := relisted_of_edit hbase hpaths h
  have same : ∀ keyword, (parse result).mentions keyword = c.mentions keyword := fun keyword =>
    any_eq_of_forall₂ (fun _ _ h => h.hasKeyword keyword) relisted
  rw [same, same]
  exact isComplete_of_completed hc

/-! ### The list of a line -/

/-- The overlays that a line lists. -/
def listed (line : String) : List String :=
  (Text.fields ',' (Text.secondWord line.toList)).map String.ofList

/-- A text that can be told apart in a list. -/
def IsItem (path : String) : Prop :=
  path ≠ "" ∧ ∀ c ∈ path.toList, c ≠ ',' ∧ Text.isBlank c = false

theorem IsItem.isInline {path : String} (h : IsItem path) : IsInline path :=
  ⟨fun feed => absurd (h.2 _ feed).2 (by decide), fun ret => absurd (h.2 _ ret).2 (by decide)⟩

theorem listed_overlaysLine (some : paths ≠ []) (items : ∀ path ∈ paths, IsItem path)
    (line : String) : listed (overlaysLine paths line) = paths := by
  have fields := @Text.fields_intercalate ',' "," rfl paths some fun path mem comma =>
    ((items path mem).2 _ comma).1 rfl
  have word : ∀ c ∈ (String.intercalate "," paths).toList, Text.isBlank c = false := by
    intro c mem
    rcases Text.mem_of_mem_intercalate mem with mem | ⟨path, hpath, mem⟩
    · rw [List.mem_singleton.mp mem]
      decide
    · exact ((items path hpath).2 c mem).2
  have nonempty : (String.intercalate "," paths).toList ≠ [] := by
    intro empty
    obtain ⟨path, rest, rfl⟩ := List.exists_cons_of_ne_nil some
    rw [empty, List.map_cons] at fields
    have first := (List.cons.inj fields).1
    exact (items path List.mem_cons_self).1 (String.toList_injective first.symm)
  rw [listed, toList_overlaysLine, Text.secondWord_append
    (fun _ => Text.isBlank_of_mem_indentation) (by decide) (by simp [overlaysKeyword]; decide)
    nonempty word, fields, List.map_map]
  simp [Function.comp_def]

/-- Every `OVERLAYS` line of an edited text lists the paths. -/
theorem listed_of_edit
    (hbase : (parse text).needsBase = true → ∀ path, base = .ok path → IsInline path)
    (some : paths ≠ []) (items : ∀ path ∈ paths, IsItem path)
    (h : edit base paths text = .ok result) :
    ∀ line ∈ (parse result).lines, hasKeyword overlaysKeyword line = true →
      listed line = paths := by
  intro line mem lists
  obtain ⟨c, -, relisted⟩ := relisted_of_edit hbase (fun path mem => (items path mem).isInline) h
  obtain ⟨_, same⟩ := exists_of_mem_forall₂ relisted mem
  rw [same.eq_overlaysLine lists, listed_overlaysLine some items]

end BootConfig

end CameraSetup
