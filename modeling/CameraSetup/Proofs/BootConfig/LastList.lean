import CameraSetup.Proofs.BootConfig.Steps
import CameraSetup.Proofs.Except

/-! Editing again. An edited text names its base device tree and has its `OVERLAYS` lines, and it is
read back as it was written, so another edit only replaces the lists: what it gives is what it would
have given on the first text. -/

namespace CameraSetup.BootConfig

variable {c : BootConfig} {paths : List String}

/-- The configuration with an `FDT` line. -/
def withBase {ε : Type} (base : Except ε String) (config : BootConfig) :
    Except (EditError ε) (BootConfig × Bool) :=
  if config.needsBase then
    match base with
    | .error cause => .error (.base cause)
    | .ok path => (config.withBaseLine path).mapError .anchor
  else .ok (config, false)

/-- The configuration with an `FDT` line and an `OVERLAYS` line, before the lists are put in. -/
def completed {ε : Type} (base : Except ε String) (config : BootConfig) :
    Except (EditError ε) BootConfig := do
  let (based, _) ← withBase base config
  let (complete, _) ← based.withOverlayLine.mapError .anchor
  pure complete

variable {ε : Type} {base : Except ε String} {text result : String}

theorem edit_eq (base : Except ε String) (paths : List String) (text : String) :
    edit base paths text =
      completed base (parse text) >>= fun c => .ok (c.withOverlays paths).render := by
  unfold edit completed withBase
  by_cases needs : (parse text).needsBase = true
  · cases base with
    | error cause => simp only [needs, if_true]; rfl
    | ok path => simp only [needs, if_true, bind_assoc]; rfl
  · simp only [needs, if_false, Bool.false_eq_true, bind_assoc]
    rfl

theorem edit_eq_ok_iff : edit base paths text = .ok result ↔
    ∃ c, completed base (parse text) = .ok c ∧ (c.withOverlays paths).render = result := by
  rw [edit_eq, bind_eq_ok]
  simp only [Except.ok.injEq]

/-- An edit blames the base device tree only when that is not known. -/
theorem base_of_edit_error {cause : ε} (h : edit base paths text = .error (.base cause)) :
    base = .error cause := by
  rw [edit_eq] at h
  rcases bind_eq_error.mp h with failed | ⟨_, -, failed⟩
  · rcases bind_eq_error.mp failed with failed | ⟨_, -, failed⟩
    · unfold withBase at failed
      split at failed
      · split at failed
        · cases failed
          rfl
        · obtain ⟨_, -, other⟩ := mapError_eq_error.mp failed
          cases other
      · cases failed
    · rcases bind_eq_error.mp failed with failed | ⟨_, -, failed⟩
      · obtain ⟨_, -, other⟩ := mapError_eq_error.mp failed
        cases other
      · cases failed
  · cases failed

/-- Nothing is added to a complete configuration, and the base device tree is not asked for. -/
theorem IsComplete.completed_eq (h : c.IsComplete) (base : Except ε String) :
    completed base c = .ok c := by
  have kept : c.withOverlayLine = .ok (c, false) := by rw [withOverlayLine, if_pos h.2]
  have based : withBase base c = .ok (c, false) := by
    unfold withBase
    rw [if_neg (by simp [needsBase, h.1])]
  exact bind_eq_ok.mpr ⟨_, based, bind_eq_ok.mpr ⟨_, mapError_eq_ok.mpr kept, rfl⟩⟩

theorem withBase_ok (h : withBase base c = .ok (based, added)) :
    based.mentions baseKeyword = true ∧ (based = c ∨
      ∃ path position, c.needsBase = true ∧ base = .ok path ∧
        based = c.withLineAt position (deviceTreeLine path)) := by
  unfold withBase at h
  split at h
  · next needs =>
    split at h
    · cases h
    · next path =>
      obtain ⟨has, same | ⟨position, put⟩⟩ := withBaseLine_ok (mapError_eq_ok.mp h)
      · exact ⟨has, .inl same⟩
      · exact ⟨has, .inr ⟨path, position, needs, rfl, put⟩⟩
  · next has =>
    cases h
    exact ⟨by simpa [needsBase] using has, .inl rfl⟩

theorem completed_ok {complete : BootConfig} (h : completed base c = .ok complete) :
    ∃ based added added', withBase base c = .ok (based, added) ∧
      based.withOverlayLine = .ok (complete, added') := by
  obtain ⟨⟨based, added⟩, first, h⟩ := bind_eq_ok.mp h
  obtain ⟨⟨complete, added'⟩, second, h⟩ := bind_eq_ok.mp h
  cases pure_eq_ok.mp h
  exact ⟨based, added, added', first, mapError_eq_ok.mp second⟩

theorem isComplete_of_completed {complete : BootConfig} (h : completed base c = .ok complete) :
    complete.IsComplete := by
  obtain ⟨based, added, added', first, second⟩ := completed_ok h
  have has := (withBase_ok first).1
  obtain ⟨hasList, same | ⟨position, rfl⟩⟩ := withOverlayLine_ok second
  · exact ⟨same ▸ has, hasList⟩
  · exact ⟨by rw [mentions_withLineAt, has, Bool.or_true], hasList⟩

/-- What holds whatever lines are put in holds of a completed configuration. -/
theorem of_completed {P : BootConfig → Prop} {complete : BootConfig} (start : P c)
    (put : ∀ (d : BootConfig) (position : Nat) (line : String), P d → line ≠ "" → IsInline line →
      P (d.withLineAt position line))
    (hbase : c.needsBase = true → ∀ path, base = .ok path → IsInline path)
    (h : completed base c = .ok complete) : P complete := by
  obtain ⟨based, added, added', first, second⟩ := completed_ok h
  have hbased : P based := by
    rcases (withBase_ok first).2 with rfl | ⟨path, position, needs, known, rfl⟩
    · exact start
    · exact put c position _ start (deviceTreeLine_ne_empty path)
        (isInline_deviceTreeLine (hbase needs path known))
  rcases (withOverlayLine_ok second).2 with rfl | ⟨position, rfl⟩
  · exact hbased
  · exact put based position _ hbased (by decide) (by decide +kernel)

theorem Readable.completed {complete : BootConfig} (readable : c.Readable)
    (hbase : c.needsBase = true → ∀ path, base = .ok path → IsInline path)
    (h : completed base c = .ok complete) : complete.Readable :=
  of_completed readable (fun _ position _ kept nonempty inline =>
    kept.withLineAt position nonempty inline.isLine) hbase h

theorem Writable.completed {complete : BootConfig} (writable : c.Writable)
    (hbase : c.needsBase = true → ∀ path, base = .ok path → IsInline path)
    (h : completed base c = .ok complete) : complete.Writable :=
  of_completed writable (fun _ position _ kept nonempty inline =>
    kept.withLineAt position nonempty inline.1) hbase h

theorem readAs_of_edit
    (hbase : (parse text).needsBase = true → ∀ path, base = .ok path → IsInline path)
    (hpaths : ∀ path ∈ paths, IsInline path) (h : edit base paths text = .ok result) :
    ∃ c, completed base (parse text) = .ok c ∧
      List.Forall₂ ReadAs (c.withOverlays paths).lines (parse result).lines := by
  obtain ⟨c, hc, rfl⟩ := edit_eq_ok_iff.mp h
  have writable := (writable_parse text).completed hbase hc
  exact ⟨c, hc, (readAs_render (writable.withOverlays hpaths)).1⟩

/-! ### Editing again -/

/-- The text after edits one after another, each with a base device tree and a list of its own. -/
def edits (text : String) : List (Except ε String × List String) → Except (EditError ε) String
  | [] => .ok text
  | (base, paths) :: runs => edit base paths text >>= fun next => edits next runs

/-- An edited text is read back as the complete configuration that was written. -/
theorem parse_of_edit
    (uncarriaged : ∀ line ∈ (parse text).lines, line.toList.getLast? ≠ some '\r')
    (hbase : (parse text).needsBase = true → ∀ path, base = .ok path → IsInline path)
    (hpaths : ∀ path ∈ paths, IsInline path)
    (h : edit base paths text = .ok result) :
    ∃ c, completed base (parse text) = .ok c ∧ c.IsComplete ∧
      parse result = c.withOverlays paths := by
  obtain ⟨c, hc, rfl⟩ := edit_eq_ok_iff.mp h
  have readable := (readable_parse uncarriaged).completed hbase hc
  exact ⟨c, hc, isComplete_of_completed hc, parse_render (readable.withOverlays hpaths)⟩

theorem edit_of_edit
    (uncarriaged : ∀ line ∈ (parse text).lines, line.toList.getLast? ≠ some '\r')
    (hbase : (parse text).needsBase = true → ∀ path, base = .ok path → IsInline path)
    (hpaths : ∀ path ∈ paths, IsInline path)
    (h : edit base paths text = .ok result) (base' : Except ε String) (paths' : List String) :
    edit base' paths' result = edit base paths' text ∧
      ∃ result', edit base' paths' result = .ok result' := by
  obtain ⟨c, hc, complete, read⟩ := parse_of_edit uncarriaged hbase hpaths h
  have again := (complete.withOverlays paths).completed_eq base'
  have second : edit base' paths' result = .ok (c.withOverlays paths').render :=
    edit_eq_ok_iff.mpr ⟨_, by rw [read, again], by rw [withOverlays_withOverlays]⟩
  exact ⟨by rw [second, edit_eq_ok_iff.mpr ⟨c, hc, rfl⟩], _, second⟩

/-- The last list wins: an edited text no longer needs the base device tree, and any further edits
give what the last of them gives on the first text. The texts that are put in may hold no line end,
which would make several lines of one. -/
theorem edits_of_edit
    (uncarriaged : ∀ line ∈ (parse text).lines, line.toList.getLast? ≠ some '\r')
    (hbase : (parse text).needsBase = true → ∀ path, base = .ok path → IsInline path)
    (hpaths : ∀ path ∈ paths, IsInline path)
    (h : edit base paths text = .ok result) :
    (parse result).needsBase = false ∧
    (∀ (base' : Except ε String) (paths' : List String),
      edit base' paths' result = edit base paths' text ∧
        ∃ result', edit base' paths' result = .ok result') ∧
    (∀ runs : List (Except ε String × List String),
      (∀ run ∈ runs, ∀ path ∈ run.2, IsInline path) →
        edits result runs = edit base ((runs.map (·.2)).getLastD paths) text) ∧
    ∀ (base' : Except ε String) (n : Nat),
      edits result (List.replicate n (base', paths)) = .ok result := by
  have runs_eq : ∀ runs : List (Except ε String × List String),
      (∀ run ∈ runs, ∀ path ∈ run.2, IsInline path) →
        edits result runs = edit base ((runs.map (·.2)).getLastD paths) text := by
    intro runs hruns
    induction runs generalizing result paths with
    | nil => exact h.symm
    | cons run runs ih =>
      obtain ⟨same, next, ok⟩ := edit_of_edit uncarriaged hbase hpaths h run.1 run.2
      rw [edits, ok]
      rw [ok] at same
      rw [List.map_cons, List.getLastD_cons]
      exact ih (hruns run List.mem_cons_self) same.symm
        fun later hlater => hruns later (List.mem_cons_of_mem run hlater)
  refine ⟨?_, edit_of_edit uncarriaged hbase hpaths h, runs_eq, fun base' n => ?_⟩
  · obtain ⟨c, -, complete, read⟩ := parse_of_edit uncarriaged hbase hpaths h
    rw [read, needsBase, (complete.withOverlays paths).1]
    rfl
  · rw [runs_eq _ (by simpa using fun _ => hpaths), ← h]
    have last : (List.replicate n paths).getLastD paths = paths := by
      cases n <;> simp [List.getLast?_replicate]
    rw [List.map_replicate, last]

/-- Two further edits of a text that the first edit added both lines to; neither base device tree
is asked for. -/
theorem edits_of_edit_primary : ∃ result : String,
    edit (.ok "/base.dtb" : Except Unit String) ["/a.dtbo", "/b.dtbo"]
      "\u00a0 MENU LABEL primary kernel\nLINUX /Image" = .ok result ∧
    edits result
        [((.error () : Except Unit String), ["/c.dtbo"]), (.ok "/other.dtb", ["/d.dtbo"])] =
      .ok ("\u00a0 MENU LABEL primary kernel\nLINUX /Image\n" ++
        "      FDT /base.dtb\n      OVERLAYS /d.dtbo") := by
  have first : ∃ result, edit (.ok "/base.dtb" : Except Unit String) ["/a.dtbo", "/b.dtbo"]
      "\u00a0 MENU LABEL primary kernel\nLINUX /Image" = .ok result := ⟨_, rfl⟩
  obtain ⟨result, first⟩ := first
  have hbase : ∀ path, (.ok "/base.dtb" : Except Unit String) = .ok path → IsInline path := by
    rintro path known
    cases known
    decide +kernel
  have later := (edits_of_edit (by decide +kernel) (fun _ => hbase) (by decide +kernel) first).2.2.1
    [(.error (), ["/c.dtbo"]), (.ok "/other.dtb", ["/d.dtbo"])] (by decide +kernel)
  exact ⟨result, first, later.trans rfl⟩

end CameraSetup.BootConfig
