import CameraSetup.Proofs.Overlay.Grouping
import CameraSetup.SetupError

/-! What a check leaves out, for overlays of any roles in any order. A missing overlay of a board
ends the check. A missing overlay of a port takes the whole port with it, and nothing else goes.
The ports are grouped overlay by overlay, so their order is shown for one more overlay at the end of
the list. Main statement: `drops_whole_ports_only`. -/

namespace CameraSetup.OverlayName

variable {installed : String → Bool} {overlays missing : List OverlayName} {o : OverlayName}
  {port : String} {checked checked' : CheckedOverlays}

/-! ### What is left out -/

/-- The first overlay with a property. -/
def IsFirst (p : OverlayName → Prop) (overlays : List OverlayName) (o : OverlayName) : Prop :=
  ∃ before after, overlays = before ++ o :: after ∧ p o ∧ ∀ other ∈ before, ¬ p other

/-- Whether a port lacks the overlay. -/
def isLackedBy (installed : String → Bool) (port : String) (o : OverlayName) : Bool :=
  o.role.port? = some port && !installed o.name

/-- The place of the first overlay that a port lacks. -/
def firstLacked (installed : String → Bool) (overlays : List OverlayName) (port : String) : Nat :=
  overlays.findIdx (isLackedBy installed port)

/-- Ports that lack an overlay are left out as a whole: the other overlays stay in their order, and
each port left out is listed once, by its first missing overlay, with all that it lacks. -/
structure LeavesOut (installed : String → Bool) (overlays : List OverlayName)
    (checked : CheckedOverlays) : Prop where
  names : checked.names = overlays.filter fun o =>
    o.role = .board ∨ ∀ other ∈ overlays, other.role.port? = o.role.port? →
      installed other.name = true
  ports : ∀ port, port ∈ checked.skipped.map (·.port) ↔
    ∃ o ∈ overlays, o.role.port? = some port ∧ installed o.name = false
  order : checked.skipped.Pairwise fun s t =>
    firstLacked installed overlays s.port < firstLacked installed overlays t.port
  missing : ∀ s ∈ checked.skipped,
    s.missing = (overlays.filter (isLackedBy installed s.port)).map (·.name)

theorem IsFirst.mem {p : OverlayName → Prop} (h : IsFirst p overlays o) : o ∈ overlays ∧ p o := by
  obtain ⟨before, after, rfl, holds, -⟩ := h
  exact ⟨List.mem_append_right before List.mem_cons_self, holds⟩

theorem isLackedBy_iff :
    isLackedBy installed port o = true ↔ o.role.port? = some port ∧ installed o.name = false := by
  simp [isLackedBy]

/-! ### One more overlay -/

theorem firstLacked_concat (o : OverlayName)
    (lacks : ∃ other ∈ overlays, isLackedBy installed port other = true) :
    firstLacked installed (overlays ++ [o]) port = firstLacked installed overlays port := by
  rw [firstLacked, List.findIdx_append, if_pos (List.findIdx_lt_length.mpr lacks), firstLacked]

theorem firstLacked_concat_self (here : isLackedBy installed port o = true)
    (before : ∀ other ∈ overlays, isLackedBy installed port other = false) :
    firstLacked installed (overlays ++ [o]) port = overlays.length := by
  have none := List.findIdx_eq_length.mpr before
  rw [firstLacked, List.findIdx_append, if_neg (by omega), List.findIdx_cons, here]
  simp

theorem mem_portsOf_absent_iff : port ∈ portsOf (absent installed overlays) ↔
    ∃ o ∈ overlays, isLackedBy installed port o = true := by
  simp only [mem_portsOf_iff, absent, List.mem_filter, isLackedBy_iff, Bool.not_eq_true', and_assoc]
  exact exists_congr fun o => and_congr_right fun _ => and_comm

/-- The ports are listed in the order of their first missing overlays. -/
theorem pairwise_portsOf_absent (installed : String → Bool) (overlays : List OverlayName) :
    (portsOf (absent installed overlays)).Pairwise fun p q =>
      firstLacked installed overlays p < firstLacked installed overlays q := by
  induction overlays using List.reverseRecOn with
  | nil => exact .nil
  | append_singleton overlays o ih =>
    -- The ports listed so far keep their places.
    have kept : (portsOf (absent installed overlays)).Pairwise fun p q =>
        firstLacked installed (overlays ++ [o]) p < firstLacked installed (overlays ++ [o]) q := by
      refine ih.imp_of_mem fun hp hq less => ?_
      rw [firstLacked_concat o (mem_portsOf_absent_iff.mp hp),
        firstLacked_concat o (mem_portsOf_absent_iff.mp hq)]
      exact less
    rw [absent, List.filter_append, ← absent]
    by_cases here : installed o.name = true
    · rw [List.filter_cons_of_neg (by simp [here]), List.filter_nil, List.append_nil]
      exact kept
    · rw [List.filter_cons_of_pos (by simpa using here), List.filter_nil]
      cases belongs : o.role.port? with
      | none =>
        rw [portsOf_concat_board belongs]
        exact kept
      | some port =>
        rw [portsOf_concat belongs]
        split
        · exact kept
        · next fresh =>
          have before : ∀ other ∈ overlays, isLackedBy installed port other = false := by
            simpa [mem_portsOf_absent_iff] using fresh
          have last := firstLacked_concat_self
            (isLackedBy_iff.mpr ⟨belongs, by simpa using here⟩) before
          refine List.pairwise_append.mpr ⟨kept, List.pairwise_singleton _ _, fun p hp q hq => ?_⟩
          rw [List.mem_singleton.mp hq, last, firstLacked_concat o (mem_portsOf_absent_iff.mp hp)]
          exact List.findIdx_lt_length.mpr (mem_portsOf_absent_iff.mp hp)

theorem absence_eq (o : OverlayName) :
    o.absence = if o.role = .board then .board o.name else .port o.name := by
  rw [absence]
  cases o.role <;> simp

/-! ### Whole checks -/

theorem isLeft_listing_absent (o : OverlayName) :
    isLeft (listing (absent installed overlays)) o =
    decide (o.role = .board ∨ ∀ other ∈ overlays, other.role.port? = o.role.port? →
      installed other.name = true) := by
  rw [Bool.eq_iff_iff, decide_eq_true_iff, ← port?_eq_none_iff]
  cases belongs : o.role.port? with
  | none => simp [isLeft_of_board belongs]
  | some port => simp [isLeft_listing belongs, mem_portsOf_absent_iff, isLackedBy_iff]

theorem leavesOut (installed : String → Bool) (overlays : List OverlayName) :
    LeavesOut installed overlays
      ⟨overlays.filter (isLeft (listing (absent installed overlays))),
        listing (absent installed overlays)⟩ := by
  refine ⟨List.filter_congr fun o _ => isLeft_listing_absent o, fun port => ?_, ?_, ?_⟩
  · rw [map_port_listing, mem_portsOf_absent_iff]
    simp only [isLackedBy_iff]
  · exact List.pairwise_map.mpr (pairwise_portsOf_absent installed overlays)
  · intro s mem
    obtain ⟨port, -, rfl⟩ := List.mem_map.mp mem
    rw [missingFor, absent, List.filter_filter]
    rfl

section
variable (boards : ∀ o ∈ overlays, o.role = .board → installed o.name = true)
include boards

theorem LeavesOut.installed_of_mem (h : LeavesOut installed overlays checked)
    (mem : o ∈ checked.names) : installed o.name = true := by
  rw [h.names, List.mem_filter, decide_eq_true_iff] at mem
  exact mem.2.elim (boards o mem.1) fun whole => whole o mem.1 rfl

theorem LeavesOut.skipped_eq_nil_iff (h : LeavesOut installed overlays checked) :
    checked.skipped = [] ↔ ∀ o ∈ overlays, installed o.name = true := by
  constructor
  · intro nobody o mem
    by_contra missing
    cases belongs : o.role.port? with
    | none => exact missing (boards o mem (port?_eq_none_iff.mp belongs))
    | some port =>
      have listed := (h.ports port).mpr ⟨o, mem, belongs, Bool.eq_false_iff.mpr missing⟩
      rw [nobody] at listed
      cases listed
  · intro all
    refine List.eq_nil_iff_forall_not_mem.mpr fun s listed => ?_
    obtain ⟨o, mem, -, missing⟩ := (h.ports s.port).mp (List.mem_map_of_mem listed)
    rw [all o mem] at missing
    cases missing

end

theorem LeavesOut.nodup_ports (h : LeavesOut installed overlays checked) :
    (checked.skipped.map (·.port)).Nodup :=
  List.pairwise_map.mpr (h.order.imp fun less same => by simp [same] at less)

/-- When nothing is missing, nothing is left out. -/
theorem leavesOut_nothing (all : ∀ o ∈ overlays, installed o.name = true) :
    LeavesOut installed overlays ⟨overlays, []⟩ := by
  refine ⟨?_, fun port => ?_, .nil, fun s mem => absurd mem List.not_mem_nil⟩
  · refine (List.filter_eq_self.mpr fun o _ => decide_eq_true (.inr ?_)).symm
    exact fun other mem _ => all other mem
  · constructor
    · intro mem
      cases mem
    · rintro ⟨o, mem, -, missing⟩
      rw [all o mem] at missing
      cases missing

/-- What is left out is determined. -/
theorem LeavesOut.unique (h : LeavesOut installed overlays checked)
    (h' : LeavesOut installed overlays checked') : checked = checked' := by
  have among : ∀ {c c' : CheckedOverlays}, LeavesOut installed overlays c →
      LeavesOut installed overlays c' → ∀ s ∈ c.skipped, s ∈ c'.skipped := by
    intro c c' h h' s mem
    have lacks := (h.ports s.port).mp (List.mem_map_of_mem mem)
    obtain ⟨t, mem', same⟩ := List.mem_map.mp ((h'.ports s.port).mpr lacks)
    have missing : t.missing = s.missing := by rw [h'.missing t mem', h.missing s mem, same]
    obtain ⟨port, names⟩ := s
    obtain ⟨port', names'⟩ := t
    cases same
    cases missing
    exact mem'
  have nodup : ∀ {c : CheckedOverlays}, LeavesOut installed overlays c → c.skipped.Nodup :=
    fun h => h.order.imp fun less same => by simp [same] at less
  have perm := (List.perm_ext_iff_of_nodup (nodup h) (nodup h')).mpr fun s =>
    ⟨among h h' s, among h' h s⟩
  have skipped := List.Perm.eq_of_pairwise (fun s t _ _ less more => by omega) h.order h'.order perm
  have names := h.names.trans h'.names.symm
  obtain ⟨names, skipped⟩ := checked
  congr

theorem find?_eq_some_iff_isFirst {p : OverlayName → Prop} [DecidablePred p] :
    overlays.find? (fun o => p o) = some o ↔ IsFirst p overlays o := by
  rw [List.find?_eq_some_iff_append, IsFirst]
  simp only [decide_eq_true_eq, Bool.not_eq_true', decide_eq_false_iff_not]
  constructor
  · rintro ⟨holds, before, after, split, others⟩
    exact ⟨before, after, split, holds, others⟩
  · rintro ⟨before, after, split, holds, others⟩
    exact ⟨holds, before, after, split, others⟩

theorem exists_isFirst {p : OverlayName → Prop} (h : ∃ o ∈ overlays, p o) :
    ∃ o, IsFirst p overlays o := by
  classical
  obtain ⟨o, mem, holds⟩ := h
  have found : (overlays.find? fun o => p o).isSome = true :=
    List.find?_isSome.mpr ⟨o, mem, decide_eq_true holds⟩
  obtain ⟨first, found⟩ := Option.isSome_iff_exists.mp found
  exact ⟨first, find?_eq_some_iff_isFirst.mp found⟩

theorem find?_board_absent (installed : String → Bool) (overlays : List OverlayName) :
    (absent installed overlays).find? (fun o => o.role = .board) =
      overlays.find? fun o => o.role = .board ∧ installed o.name = false := by
  rw [absent, List.find?_filter]
  congr 1
  funext o
  simp [and_comm]

theorem check_skipPort_eq_error_iff {cause : MissingOverlay} :
    check installed .skipPort overlays = .error cause ↔
      ∃ o, IsFirst (fun o => o.role = .board ∧ installed o.name = false) overlays o ∧
        cause = .board o.name := by
  rw [check_skipPort, find?_board_absent]
  constructor
  · intro failed
    split at failed
    · next o found =>
      have board := find?_eq_some_iff_isFirst.mp found
      cases failed
      exact ⟨o, board, by rw [absence, board.mem.2.1]⟩
    · cases failed
  · rintro ⟨o, board, rfl⟩
    rw [find?_eq_some_iff_isFirst.mpr board]
    dsimp only
    rw [absence, board.mem.2.1]

theorem check_skipPort_of_boards
    (boards : ∀ o ∈ overlays, o.role = .board → installed o.name = true) :
    ∃ checked, check installed .skipPort overlays = .ok checked ∧
      LeavesOut installed overlays checked := by
  have none : overlays.find? (fun o => o.role = .board ∧ installed o.name = false) = none := by
    simpa using boards
  refine ⟨_, ?_, leavesOut installed overlays⟩
  rw [check_skipPort, find?_board_absent, none]

theorem check_skipPort_eq_ok_iff : check installed .skipPort overlays = .ok checked ↔
    (∀ o ∈ overlays, o.role = .board → installed o.name = true) ∧
      LeavesOut installed overlays checked := by
  constructor
  · intro passed
    have boards : ∀ o ∈ overlays, o.role = .board → installed o.name = true := by
      intro o mem board
      by_contra missing
      have absent : ∃ o ∈ overlays, o.role = .board ∧ installed o.name = false :=
        ⟨o, mem, board, Bool.eq_false_iff.mpr missing⟩
      obtain ⟨first, found⟩ := exists_isFirst absent
      rw [check_skipPort_eq_error_iff.mpr ⟨first, found, rfl⟩] at passed
      cases passed
    obtain ⟨checked', passed', leaves⟩ := check_skipPort_of_boards boards
    cases passed.symm.trans passed'
    exact ⟨boards, leaves⟩
  · rintro ⟨boards, leaves⟩
    obtain ⟨checked', passed, leaves'⟩ := check_skipPort_of_boards boards
    rw [passed, leaves.unique leaves']

theorem check_abort_eq_ok_iff : check installed .abort overlays = .ok checked ↔
    (∀ o ∈ overlays, installed o.name = true) ∧ checked = ⟨overlays, []⟩ := by
  rw [check_abort, ← absent_eq_nil_iff]
  split
  · next none => simp [eq_comm, none]
  · next some => simp [some]

theorem check_abort_eq_error_iff {cause : MissingOverlay} :
    check installed .abort overlays = .error cause ↔
      ∃ o, IsFirst (fun o => installed o.name = false) overlays o ∧
        cause = if o.role = .board then .board o.name else .port o.name := by
  have first : (absent installed overlays).head? =
      overlays.find? fun o => installed o.name = false := by
    rw [absent, List.head?_filter]
    congr 1
    funext o
    simp
  simp only [← find?_eq_some_iff_isFirst, ← first, ← absence_eq]
  rw [check_abort]
  split
  · next none => simp [none]
  · next some => simp [some, eq_comm]

/-- A check drops whole ports and nothing else. When ports may be skipped, it fails only for a
missing overlay of a board, and names the first one. Otherwise all overlays of the ports that lack
none are left in their order, and the other ports are listed with what each lacks. When ports may
not be skipped, it passes overlays that are all installed, as they are, and names the first that is
not. So the two policies differ only where something is missing. -/
theorem drops_whole_ports_only (dir : String) (installed : String → Bool)
    (overlays : List OverlayName) :
    let verdict := fun policy =>
      (check installed policy overlays).mapError (SetupError.missingOverlay dir)
    ((∃ cause, verdict .skipPort = .error cause) ↔
      ∃ o ∈ overlays, o.role = .board ∧ installed o.name = false) ∧
    (∀ cause, verdict .skipPort = .error cause ↔
      ∃ o, IsFirst (fun o => o.role = .board ∧ installed o.name = false) overlays o ∧
        cause = .missingOverlay dir (.board o.name)) ∧
    (∀ checked, verdict .skipPort = .ok checked ↔
      (∀ o ∈ overlays, o.role = .board → installed o.name = true) ∧
        LeavesOut installed overlays checked) ∧
    (∀ checked, verdict .skipPort = .ok checked →
      (∀ o ∈ checked.names, installed o.name = true) ∧ (checked.skipped.map (·.port)).Nodup ∧
        (checked.skipped = [] ↔ ∀ o ∈ overlays, installed o.name = true)) ∧
    (∀ checked, verdict .abort = .ok checked ↔
      (∀ o ∈ overlays, installed o.name = true) ∧ checked = ⟨overlays, []⟩) ∧
    (∀ cause, verdict .abort = .error cause ↔
      ∃ o, IsFirst (fun o => installed o.name = false) overlays o ∧
        cause = .missingOverlay dir (if o.role = .board then .board o.name else .port o.name)) ∧
    ((∀ o ∈ overlays, installed o.name = true) → verdict .skipPort = verdict .abort) := by
  intro verdict
  have refused : ∀ cause, verdict .skipPort = .error cause ↔
      ∃ o, IsFirst (fun o => o.role = .board ∧ installed o.name = false) overlays o ∧
        cause = .missingOverlay dir (.board o.name) := by
    intro cause
    simp only [verdict, mapError_eq_error, check_skipPort_eq_error_iff]
    constructor
    · rintro ⟨_, ⟨o, first, rfl⟩, rfl⟩
      exact ⟨o, first, rfl⟩
    · rintro ⟨o, first, rfl⟩
      exact ⟨_, ⟨o, first, rfl⟩, rfl⟩
  have passed : ∀ checked, verdict .skipPort = .ok checked ↔
      (∀ o ∈ overlays, o.role = .board → installed o.name = true) ∧
        LeavesOut installed overlays checked :=
    fun checked => mapError_eq_ok.trans check_skipPort_eq_ok_iff
  have whole : ∀ checked, verdict .abort = .ok checked ↔
      (∀ o ∈ overlays, installed o.name = true) ∧ checked = ⟨overlays, []⟩ :=
    fun checked => mapError_eq_ok.trans check_abort_eq_ok_iff
  refine ⟨⟨?_, ?_⟩, refused, passed, fun checked ok => ?_, whole, fun cause => ?_, fun all => ?_⟩
  · rintro ⟨cause, failed⟩
    obtain ⟨o, first, -⟩ := (refused cause).mp failed
    exact ⟨o, first.mem⟩
  · intro missing
    obtain ⟨o, first⟩ := exists_isFirst missing
    exact ⟨_, (refused _).mpr ⟨o, first, rfl⟩⟩
  · obtain ⟨boards, leaves⟩ := (passed checked).mp ok
    exact ⟨fun o mem => leaves.installed_of_mem boards mem, leaves.nodup_ports,
      leaves.skipped_eq_nil_iff boards⟩
  · simp only [verdict, mapError_eq_error, check_abort_eq_error_iff]
    constructor
    · rintro ⟨_, ⟨o, first, rfl⟩, rfl⟩
      exact ⟨o, first, rfl⟩
    · rintro ⟨o, first, rfl⟩
      exact ⟨_, ⟨o, first, rfl⟩, rfl⟩
  · rw [(whole _).mpr ⟨all, rfl⟩]
    exact (passed _).mpr ⟨fun o mem _ => all o mem, leavesOut_nothing all⟩

/-- Two ports with overlays among each other's lack one each. Both go as a whole, the port listed
first being the one whose missing overlay comes first. -/
theorem drops_whole_ports_only_interleaved :
    let overlays : List OverlayName := [⟨"a", .sensor "P1"⟩, ⟨"b", .linkBooster "P0"⟩, ⟨"c", .board⟩,
      ⟨"d", .sensor "P0"⟩, ⟨"e", .linkBooster "P1"⟩, ⟨"f", .sensor "P2"⟩, ⟨"g", .sensor "P0"⟩]
    let installed : String → Bool := fun name => !(["b", "e", "g"].contains name)
    let checked : CheckedOverlays := ⟨[⟨"c", .board⟩, ⟨"f", .sensor "P2"⟩],
      [⟨"P0", ["b", "g"]⟩, ⟨"P1", ["e"]⟩]⟩
    check installed .skipPort overlays = .ok checked ∧ LeavesOut installed overlays checked ∧
      (∀ o ∈ checked.names, installed o.name = true) ∧
      (check (fun _ => true) .skipPort overlays).mapError (SetupError.missingOverlay "/boot") =
        (check (fun _ => true) .abort overlays).mapError (SetupError.missingOverlay "/boot") := by
  intro overlays installed checked
  obtain ⟨-, -, passed, kept, -, -, -⟩ := drops_whole_ports_only "/boot" installed overlays
  obtain ⟨-, -, -, -, -, -, same⟩ := drops_whole_ports_only "/boot" (fun _ => true) overlays
  have ok : check installed .skipPort overlays = .ok checked := by decide
  exact ⟨ok, ((passed checked).mp (mapError_eq_ok.mpr ok)).2,
    (kept checked (mapError_eq_ok.mpr ok)).1, same fun _ _ => rfl⟩

end CameraSetup.OverlayName
