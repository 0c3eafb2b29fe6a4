import CameraSetup.Proofs.Overlay.Grouping
import CameraSetup.Proofs.SortedMap
import Mathlib.Data.List.Nodup

/-! What a check makes of the overlays of a selection. Main statement: `checkedAs_of_check`. The
overlays that are left are the board's and those of the ports that lack none, and the other ports
are skipped, each once and with just what it lacks. -/

namespace CameraSetup

namespace OverlayName

/-- The overlays of a port that are not installed. -/
def lacking (installed : String → Bool) (connector : Connector) (port : String)
    (setup : PortSetup) : List OverlayName :=
  (ofPort connector port setup).filter fun o => !installed o.name

variable {installed : String → Bool} {connector : Connector} {port : String} {setup : PortSetup}
  {o : OverlayName}

theorem port?_of_mem_ofPort (mem : o ∈ ofPort connector port setup) :
    o.role.port? = some port := by
  unfold ofPort at mem
  dsimp only at mem
  split at mem
  · rw [List.mem_singleton.mp mem, OverlayRole.port?]
  · rcases List.mem_cons.mp mem with rfl | mem
    · rfl
    · rw [List.mem_singleton.mp mem, OverlayRole.port?]

theorem installed_of_lacking_eq_nil (none : lacking installed connector port setup = [])
    (mem : o ∈ ofPort connector port setup) : installed o.name = true := by
  have := List.filter_eq_nil_iff.mp none o mem
  simpa using this

theorem exists_mem_ofPort_of_lacking (some : lacking installed connector port setup ≠ []) :
    ∃ o ∈ ofPort connector port setup, installed o.name = false := by
  obtain ⟨o, mem⟩ := List.exists_mem_of_ne_nil _ some
  obtain ⟨mem, absent⟩ := List.mem_filter.mp mem
  exact ⟨o, mem, by simpa using absent⟩

/-! ### Overlays that belong to the ports of a list -/

section
variable {es : List (String × PortSetup)} {f : String × PortSetup → List OverlayName}

theorem portsOf_flatMap (nodup : (es.map (·.1)).Nodup)
    (belongs : ∀ e ∈ es, ∀ o ∈ f e, o.role.port? = some e.1) :
    portsOf (es.flatMap f) = (es.filter fun e => !(f e).isEmpty).map (·.1) := by
  induction es with
  | nil => rfl
  | cons e es ih =>
    obtain ⟨fresh, nodup⟩ := List.nodup_cons.mp nodup
    have ih := ih nodup fun e' mem => belongs e' (List.mem_cons_of_mem e mem)
    have own := belongs e List.mem_cons_self
    have others : ∀ p ∈ (es.flatMap f).filterMap (·.role.port?), (!p == e.1) = true := by
      intro p mem
      obtain ⟨o, mem, port⟩ := List.mem_filterMap.mp mem
      obtain ⟨e', he', mem⟩ := List.mem_flatMap.mp mem
      rw [belongs e' (List.mem_cons_of_mem e he') o mem, Option.some.injEq] at port
      have : p ≠ e.1 := fun same => fresh (List.mem_map.mpr ⟨e', he', port.trans same⟩)
      simpa using this
    rw [List.flatMap_cons, portsOf, List.filterMap_append]
    cases here : f e with
    | nil =>
      rw [List.filterMap_nil, List.nil_append, List.filter_cons_of_neg (by simp [here])]
      exact ih
    | cons o os =>
      rw [here] at own
      have same : ∀ p ∈ os.filterMap (·.role.port?), ¬ (!p == e.1) = true := by
        intro p mem
        obtain ⟨o', mem, port⟩ := List.mem_filterMap.mp mem
        rw [own o' (List.mem_cons_of_mem o mem), Option.some.injEq] at port
        simp [port]
      have first : (o :: os).filterMap (·.role.port?) = e.1 :: os.filterMap (·.role.port?) :=
        List.filterMap_cons_some (own o List.mem_cons_self)
      rw [first, List.cons_append, List.eraseDups_cons, List.filter_append,
        List.filter_eq_nil_iff.mpr same, List.filter_eq_self.mpr others, List.nil_append,
        List.filter_cons_of_pos (by simp [here]), List.map_cons, ← ih, portsOf]

theorem filter_flatMap_of_nodup {β : Type} {f : String × PortSetup → List β}
    {port? : β → Option String} (nodup : (es.map (·.1)).Nodup)
    (belongs : ∀ e ∈ es, ∀ b ∈ f e, port? b = some e.1) {e : String × PortSetup} (mem : e ∈ es) :
    (es.flatMap f).filter (fun b => port? b = some e.1) = f e := by
  induction es with
  | nil => cases mem
  | cons d es ih =>
    obtain ⟨fresh, nodup⟩ := List.nodup_cons.mp nodup
    have belongs' := fun e' mem => belongs e' (List.mem_cons_of_mem d mem)
    rw [List.flatMap_cons, List.filter_append]
    rcases List.mem_cons.mp mem with rfl | mem
    · have own : ∀ b ∈ f e, decide (port? b = some e.1) = true := fun b mem =>
        decide_eq_true (belongs e List.mem_cons_self b mem)
      have others : ∀ b ∈ es.flatMap f, ¬ decide (port? b = some e.1) = true := by
        intro b mem same
        obtain ⟨e', he', mem⟩ := List.mem_flatMap.mp mem
        rw [belongs' e' he' b mem] at same
        exact fresh (List.mem_map.mpr ⟨e', he', by simpa using same⟩)
      rw [List.filter_eq_self.mpr own, List.filter_eq_nil_iff.mpr others, List.append_nil]
    · have other : ∀ b ∈ f d, ¬ decide (port? b = some e.1) = true := by
        intro b hb same
        rw [belongs d List.mem_cons_self b hb] at same
        have : d.1 = e.1 := by simpa using same
        exact fresh (List.mem_map.mpr ⟨e, mem, this.symm⟩)
      rw [List.filter_eq_nil_iff.mpr other, List.nil_append, ih nodup belongs' mem]

theorem filter_isLeft_flatMap (missing : List OverlayName)
    (belongs : ∀ e ∈ es, ∀ o ∈ f e, o.role.port? = some e.1) :
    (es.flatMap f).filter (isLeft (listing missing)) =
      (es.filter fun e => !(portsOf missing).contains e.1).flatMap f := by
  induction es with
  | nil => rfl
  | cons e es ih =>
    have ih := ih fun e' mem => belongs e' (List.mem_cons_of_mem e mem)
    have own : ∀ o ∈ f e, isLeft (listing missing) o = !(portsOf missing).contains e.1 :=
      fun o mem => isLeft_listing (belongs e List.mem_cons_self o mem)
    rw [List.flatMap_cons, List.filter_append, List.filter_congr own, ih]
    cases skipped : (portsOf missing).contains e.1 with
    | true =>
      rw [List.filter_cons_of_neg (by rw [skipped]; decide)]
      simp
    | false =>
      rw [List.filter_cons_of_pos (by rw [skipped]; rfl), List.flatMap_cons]
      simp

end

end OverlayName

namespace Selection

open OverlayName

variable {s : Selection} {connector : Connector} {installed : String → Bool}
  {policy : MissingPolicy} {checked : CheckedOverlays}

/-- The ports of a selection that lack no overlay. -/
def equipped (s : Selection) (connector : Connector) (installed : String → Bool) :
    List (String × PortSetup) :=
  s.ports.toList.filter fun e => (lacking installed connector e.1 e.2).isEmpty

/-- The ports of a selection that lack an overlay, each with the names of what it lacks. -/
def unequipped (s : Selection) (connector : Connector) (installed : String → Bool) :
    List SkippedPort :=
  (s.ports.toList.filter fun e => !(lacking installed connector e.1 e.2).isEmpty).map fun e =>
    ⟨e.1, (lacking installed connector e.1 e.2).map (·.name)⟩

/-- What is left after a check: the overlays of the board and of the ports that lack none, in order.
The other ports are skipped. -/
structure CheckedAs (s : Selection) (connector : Connector) (installed : String → Bool)
    (checked : CheckedOverlays) : Prop where
  board : installed (OverlayName.ofBoard connector s.board) = true
  names : checked.names = ⟨OverlayName.ofBoard connector s.board, .board⟩ ::
    (s.equipped connector installed).flatMap fun e => ofPort connector e.1 e.2
  skipped : checked.skipped = s.unequipped connector installed

/-- The overlays that the ports of a selection lack. -/
def lacked (s : Selection) (connector : Connector) (installed : String → Bool) :
    List OverlayName :=
  s.ports.toList.flatMap fun e => lacking installed connector e.1 e.2

/-- The overlays that are missing are those that the ports lack, unless the board's is. -/
theorem absent_overlays (board : installed (OverlayName.ofBoard connector s.board) = true) :
    absent installed (s.overlays connector) = s.lacked connector installed := by
  rw [absent, overlays, List.filter_cons_of_neg (by simp [board]), List.filter_flatMap]
  rfl

theorem belongs_lacking (s : Selection) (connector : Connector) (installed : String → Bool) :
    ∀ e ∈ s.ports.toList, ∀ o ∈ lacking installed connector e.1 e.2, o.role.port? = some e.1 :=
  fun _ _ _ mem => port?_of_mem_ofPort (List.mem_filter.mp mem).1

theorem portsOf_lacked (s : Selection) (connector : Connector) (installed : String → Bool) :
    portsOf (s.lacked connector installed) =
      (s.ports.toList.filter fun e => !(lacking installed connector e.1 e.2).isEmpty).map (·.1) :=
  portsOf_flatMap s.ports.nodup_keys (belongs_lacking s connector installed)

/-- A port is among those of the missing overlays when it lacks one itself. -/
theorem contains_portsOf_lacked {e : String × PortSetup} (mem : e ∈ s.ports.toList) :
    (portsOf (s.lacked connector installed)).contains e.1 =
      !(lacking installed connector e.1 e.2).isEmpty := by
  rw [portsOf_lacked, Bool.eq_iff_iff, List.contains_iff_mem, List.mem_map]
  constructor
  · rintro ⟨e', lacks, same⟩
    obtain ⟨mem', lacks⟩ := List.mem_filter.mp lacks
    rwa [← List.inj_on_of_nodup_map s.ports.nodup_keys mem' mem same]
  · exact fun lacks => ⟨e, List.mem_filter.mpr ⟨mem, lacks⟩, rfl⟩

theorem checkedAs_of_absent_eq_nil (none : absent installed (s.overlays connector) = []) :
    s.CheckedAs connector installed ⟨s.overlays connector, []⟩ := by
  have board : installed (OverlayName.ofBoard connector s.board) = true :=
    absent_eq_nil_iff.mp none _ List.mem_cons_self
  rw [absent_overlays board, lacked, List.flatMap_eq_nil_iff] at none
  refine ⟨board, ?_, ?_⟩
  · have whole : s.equipped connector installed = s.ports.toList :=
      List.filter_eq_self.mpr fun e mem => by rw [none e mem]; rfl
    rw [whole]
    rfl
  · have nobody : s.ports.toList.filter
        (fun e => !(lacking installed connector e.1 e.2).isEmpty) = [] :=
      List.filter_eq_nil_iff.mpr fun e mem => by rw [none e mem]; decide
    rw [unequipped, nobody, List.map_nil]

/-- The ports that missing overlays belong to are left out with all their overlays. -/
theorem checkedAs_of_board (board : installed (OverlayName.ofBoard connector s.board) = true)
    {missing : List OverlayName}
    (same : absent installed (s.overlays connector) = missing) :
    s.CheckedAs connector installed
      ⟨(s.overlays connector).filter (isLeft (listing missing)), listing missing⟩ := by
  rw [absent_overlays board] at same
  subst same
  refine ⟨board, ?_, ?_⟩
  · have kept : s.ports.toList.filter
        (fun e => !(portsOf (s.lacked connector installed)).contains e.1) =
          s.equipped connector installed :=
      List.filter_congr fun e mem => by rw [contains_portsOf_lacked mem, Bool.not_not]
    have names := filter_isLeft_flatMap (s.lacked connector installed)
      fun (e : String × PortSetup) (_ : e ∈ s.ports.toList) o
        (mem : o ∈ ofPort connector e.1 e.2) => port?_of_mem_ofPort mem
    rw [kept] at names
    exact congrArg (⟨OverlayName.ofBoard connector s.board, .board⟩ :: ·) names
  · rw [listing, portsOf_lacked, List.map_map]
    refine List.map_congr_left fun e mem => ?_
    have own := filter_flatMap_of_nodup s.ports.nodup_keys (belongs_lacking s connector installed)
      (List.mem_filter.mp mem).1
    rw [Function.comp_apply, missingFor, lacked, own]

theorem checkedAs_of_check (h : check installed policy (s.overlays connector) = .ok checked) :
    s.CheckedAs connector installed checked := by
  cases policy with
  | abort =>
    rw [check_abort] at h
    split at h
    · next none =>
      cases h
      exact checkedAs_of_absent_eq_nil none
    · cases h
  | skipPort =>
    rw [check_skipPort] at h
    split at h
    · cases h
    · next found =>
      cases h
      refine checkedAs_of_board ?_ rfl
      -- The board's overlay would have been found among the missing ones.
      have := List.find?_eq_none.mp found ⟨OverlayName.ofBoard connector s.board, .board⟩
      by_contra absent
      exact this (List.mem_filter.mpr ⟨List.mem_cons_self, by simpa using absent⟩) rfl

theorem CheckedAs.installed_of_mem (h : s.CheckedAs connector installed checked) {o : OverlayName}
    (mem : o ∈ checked.names) : o ∈ s.overlays connector ∧ installed o.name = true := by
  rw [h.names] at mem
  rcases List.mem_cons.mp mem with rfl | mem
  · exact ⟨List.mem_cons_self, h.board⟩
  · obtain ⟨e, kept, mem⟩ := List.mem_flatMap.mp mem
    obtain ⟨he, none⟩ := List.mem_filter.mp kept
    have belongs : o ∈ s.overlays connector :=
      List.mem_cons_of_mem _ (List.mem_flatMap.mpr ⟨e, he, mem⟩)
    exact ⟨belongs, installed_of_lacking_eq_nil (List.isEmpty_iff.mp none) mem⟩

theorem filter_unequipped {port : String} {setup : PortSetup}
    (found : s.get? port = some setup) (some : lacking installed connector port setup ≠ []) :
    (s.unequipped connector installed).filter (fun skip => skip.port = port) =
      [⟨port, (lacking installed connector port setup).map (·.name)⟩] := by
  have mem : (port, setup) ∈ s.ports.toList.filter
      (fun e => !(lacking installed connector e.1 e.2).isEmpty) :=
    List.mem_filter.mpr ⟨SortedMap.get?_eq_some_iff.mp found, by simpa using some⟩
  have nodup : ((s.ports.toList.filter
      fun e => !(lacking installed connector e.1 e.2).isEmpty).map (·.1)).Nodup :=
    s.ports.nodup_keys.sublist (List.filter_sublist.map _)
  have own := @filter_flatMap_of_nodup _ SkippedPort
    (fun e => [⟨e.1, (lacking installed connector e.1 e.2).map (·.name)⟩])
    (fun skip => Option.some skip.port) nodup (by simp) _ mem
  rw [← List.map_eq_flatMap] at own
  simpa [unequipped] using own

/-- A port is left with all its overlays, or it is skipped once. -/
theorem CheckedAs.port (h : s.CheckedAs connector installed checked) {port : String}
    {setup : PortSetup} (found : s.get? port = some setup) :
    ((∀ o ∈ ofPort connector port setup, o ∈ checked.names) ∧
      ∀ skip ∈ checked.skipped, skip.port ≠ port) ∨
    ((∃ o ∈ ofPort connector port setup, installed o.name = false) ∧
      checked.skipped.filter (fun skip => skip.port = port) =
        [⟨port, (lacking installed connector port setup).map (·.name)⟩]) := by
  by_cases none : lacking installed connector port setup = []
  · have here := SortedMap.get?_eq_some_iff.mp found
    refine .inl ⟨fun o mem => ?_, fun skip mem same => ?_⟩
    · rw [h.names]
      exact List.mem_cons_of_mem _ (List.mem_flatMap.mpr
        ⟨(port, setup), List.mem_filter.mpr ⟨here, List.isEmpty_iff.mpr none⟩, mem⟩)
    · rw [h.skipped] at mem
      obtain ⟨e, left, rfl⟩ := List.mem_map.mp mem
      obtain ⟨he, lacks⟩ := List.mem_filter.mp left
      have : e = (port, setup) := List.inj_on_of_nodup_map s.ports.nodup_keys he here same
      rw [this] at lacks
      simp [none] at lacks
  · exact .inr ⟨exists_mem_ofPort_of_lacking none, h.skipped ▸ filter_unequipped found none⟩

end Selection

end CameraSetup
