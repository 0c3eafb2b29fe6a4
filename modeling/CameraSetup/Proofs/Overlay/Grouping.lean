import CameraSetup.Overlay.Checked
import CameraSetup.Proofs.Except
import Mathlib.Data.List.Induction
import Mathlib.Data.List.Nodup

/-! How a check takes in the overlays that are missing, one after another. While no board's overlay
is among them, what it has listed so far are the ports of those taken in, each with the names of
its own. -/

namespace CameraSetup.OverlayName

variable {installed : String → Bool} {missing overlays : List OverlayName} {o : OverlayName}
  {port name : String} {skipped : List SkippedPort}

/-! ### The ports of missing overlays -/

/-- The ports that missing overlays belong to, in the order of their first one. -/
def portsOf (missing : List OverlayName) : List String :=
  (missing.filterMap (·.role.port?)).eraseDups

/-- The missing overlays that belong to a port. -/
def missingFor (missing : List OverlayName) (port : String) : SkippedPort :=
  ⟨port, (missing.filter fun o => o.role.port? = some port).map (·.name)⟩

/-- The ports that missing overlays belong to, with what each of them lacks. -/
def listing (missing : List OverlayName) : List SkippedPort :=
  (portsOf missing).map (missingFor missing)

theorem mem_portsOf_iff : port ∈ portsOf missing ↔ ∃ o ∈ missing, o.role.port? = some port := by
  rw [portsOf, List.mem_eraseDups, List.mem_filterMap]

theorem port?_eq_none_iff : o.role.port? = none ↔ o.role = .board := by
  cases o.role <;> simp [OverlayRole.port?]

theorem portsOf_concat_board (board : o.role.port? = none) :
    portsOf (missing ++ [o]) = portsOf missing := by
  have own : [o].filterMap (·.role.port?) = [] := List.filterMap_cons_none board
  rw [portsOf, List.filterMap_append, own, List.append_nil, portsOf]

/-- A port is listed when its first missing overlay comes. -/
theorem portsOf_concat (belongs : o.role.port? = some port) : portsOf (missing ++ [o]) =
    if port ∈ portsOf missing then portsOf missing else portsOf missing ++ [port] := by
  have own : [o].filterMap (·.role.port?) = [port] := List.filterMap_cons_some belongs
  rw [portsOf, List.filterMap_append, own, List.eraseDups_append, ← portsOf, List.removeAll]
  split
  · next listed =>
    rw [List.filter_cons_of_neg, List.filter_nil]
    · exact List.append_nil _
    · simpa [mem_portsOf_iff] using listed
  · next fresh =>
    rw [List.filter_cons_of_pos, List.filter_nil]
    · rfl
    · simpa [mem_portsOf_iff] using fresh

theorem missingFor_concat_self (belongs : o.role.port? = some port) :
    missingFor (missing ++ [o]) port =
      { missingFor missing port with missing := (missingFor missing port).missing ++ [o.name] } := by
  simp [missingFor, belongs]

theorem missingFor_concat_of_ne {other : String} (belongs : o.role.port? = some port)
    (ne : other ≠ port) : missingFor (missing ++ [o]) other = missingFor missing other := by
  simp [missingFor, belongs, Ne.symm ne]

theorem missingFor_of_not_mem (fresh : port ∉ portsOf missing) :
    missingFor missing port = ⟨port, []⟩ := by
  have nobody : missing.filter (fun o => o.role.port? = some port) = [] := by
    rw [List.filter_eq_nil_iff]
    intro o mem belongs
    exact fresh (mem_portsOf_iff.mpr ⟨o, mem, by simpa using belongs⟩)
  rw [missingFor, nobody, List.map_nil]

theorem nodup_portsOf (missing : List OverlayName) : (portsOf missing).Nodup := by
  induction missing using List.reverseRecOn with
  | nil => exact .nil
  | append_singleton missing o ih =>
    cases belongs : o.role.port? with
    | none =>
      rw [portsOf_concat_board belongs]
      exact ih
    | some port =>
      rw [portsOf_concat belongs]
      split
      · exact ih
      · next fresh =>
        rw [← List.concat_eq_append]
        exact ih.concat fresh

theorem map_port_listing (missing : List OverlayName) :
    (listing missing).map (·.port) = portsOf missing := by
  rw [listing, List.map_map]
  exact List.map_id _

/-! ### One more missing overlay -/

theorem addMissing_of_not_mem (fresh : port ∉ skipped.map (·.port)) :
    addMissing port name skipped = skipped ++ [⟨port, [name]⟩] := by
  induction skipped with
  | nil => rfl
  | cons s skipped ih =>
    obtain ⟨other, fresh⟩ := not_or.mp (fun here => fresh (List.mem_cons.mpr here))
    rw [addMissing, if_neg (Ne.symm other), ih fresh, List.cons_append]

/-- Of ports that are listed once each, only the one that an overlay belongs to gets its name. -/
theorem addMissing_of_mem (once : (skipped.map (·.port)).Nodup)
    (listed : port ∈ skipped.map (·.port)) : addMissing port name skipped =
      skipped.map fun s => if s.port = port then { s with missing := s.missing ++ [name] } else s := by
  induction skipped with
  | nil => cases listed
  | cons s skipped ih =>
    obtain ⟨first, once⟩ := List.nodup_cons.mp once
    rw [addMissing, List.map_cons]
    split
    · next here =>
      have others : ∀ other ∈ skipped, (if other.port = port then
          { other with missing := other.missing ++ [name] } else other) = other := by
        intro other mem
        refine if_neg fun same => first ?_
        exact List.mem_map.mpr ⟨other, mem, same.trans here.symm⟩
      rw [List.map_congr_left others, List.map_id']
    · next elsewhere =>
      rw [ih once ((List.mem_cons.mp listed).resolve_left (Ne.symm elsewhere))]

/-- One step of the loop: an overlay of a port goes where the overlays taken in so far say. -/
theorem addMissing_listing (belongs : o.role.port? = some port) :
    addMissing port o.name (listing missing) = listing (missing ++ [o]) := by
  by_cases listed : port ∈ portsOf missing
  · rw [addMissing_of_mem (map_port_listing missing ▸ nodup_portsOf missing)
      (map_port_listing missing ▸ listed), listing, listing, portsOf_concat belongs, if_pos listed,
      List.map_map]
    refine List.map_congr_left fun other _ => ?_
    show (if other = port then _ else missingFor missing other) = _
    split
    · next here => rw [here, missingFor_concat_self belongs]
    · next elsewhere => rw [missingFor_concat_of_ne belongs elsewhere]
  · rw [addMissing_of_not_mem (map_port_listing missing ▸ listed), listing, listing,
      portsOf_concat belongs, if_neg listed, List.map_append, List.map_singleton,
      missingFor_concat_self belongs, missingFor_of_not_mem listed]
    congr 1
    refine List.map_congr_left fun other mem => ?_
    exact (missingFor_concat_of_ne belongs fun same => listed (same ▸ mem)).symm

theorem takeMissing_of_board (board : o.role.port? = none) (policy : MissingPolicy) :
    takeMissing policy skipped o = .error o.absence := by
  unfold takeMissing
  rw [board]

theorem takeMissing_of_port (belongs : o.role.port? = some port) :
    takeMissing .skipPort skipped o = .ok (addMissing port o.name skipped) := by
  unfold takeMissing
  rw [belongs]

theorem takeMissing_abort : takeMissing .abort skipped o = .error o.absence := by
  unfold takeMissing
  cases o.role.port? <;> rfl

/-! ### Whole loops -/

/-- While ports may be skipped, the loop lists what the ports lack, up to the first overlay of a
board, which ends it. -/
theorem foldlM_takeMissing_skipPort (missing : List OverlayName) :
    missing.foldlM (takeMissing .skipPort) [] =
      match missing.find? fun o => o.role = .board with
      | some board => .error board.absence
      | none => .ok (listing missing) := by
  induction missing using List.reverseRecOn with
  | nil => rfl
  | append_singleton missing o ih =>
    rw [List.foldlM_append, ih, List.find?_append]
    cases missing.find? fun o => o.role = .board with
    | some board => rfl
    | none =>
      show takeMissing .skipPort (listing missing) o >>= pure = _
      rw [bind_pure]
      cases belongs : o.role.port? with
      | none =>
        rw [takeMissing_of_board belongs]
        simp [port?_eq_none_iff.mp belongs]
      | some port =>
        have other : o.role ≠ .board := fun board => by simp [board, OverlayRole.port?] at belongs
        rw [takeMissing_of_port belongs, addMissing_listing belongs]
        simp [other]

/-- While no port may be skipped, the first overlay ends the loop. -/
theorem foldlM_takeMissing_abort (missing : List OverlayName) :
    missing.foldlM (takeMissing .abort) [] =
      match missing with
      | [] => .ok []
      | first :: _ => .error first.absence := by
  cases missing with
  | nil => rfl
  | cons first rest =>
    rw [List.foldlM_cons, takeMissing_abort]
    rfl

/-! ### Checks -/

/-- The overlays that are not installed. -/
def absent (installed : String → Bool) (overlays : List OverlayName) : List OverlayName :=
  overlays.filter fun o => !installed o.name

theorem absent_eq_nil_iff :
    absent installed overlays = [] ↔ ∀ o ∈ overlays, installed o.name = true := by
  simp [absent]

theorem isLeft_of_board (board : o.role.port? = none) : isLeft skipped o = true := by
  rw [isLeft, board]

theorem isLeft_listing (belongs : o.role.port? = some port) :
    isLeft (listing missing) o = !(portsOf missing).contains port := by
  rw [isLeft, belongs, ← map_port_listing missing, Bool.eq_iff_iff]
  simp

theorem isLeft_nil (o : OverlayName) : isLeft [] o = true := by
  unfold isLeft
  split <;> rfl

theorem check_skipPort (installed : String → Bool) (overlays : List OverlayName) :
    check installed .skipPort overlays =
      match (absent installed overlays).find? fun o => o.role = .board with
      | some board => .error board.absence
      | none => .ok ⟨overlays.filter (isLeft (listing (absent installed overlays))),
        listing (absent installed overlays)⟩ := by
  rw [check, ← absent, foldlM_takeMissing_skipPort]
  split <;> rfl

theorem check_of_installed (all : ∀ o ∈ overlays, installed o.name = true)
    (policy : MissingPolicy) : check installed policy overlays = .ok ⟨overlays, []⟩ := by
  rw [check, ← absent, absent_eq_nil_iff.mpr all]
  show Except.ok (CheckedOverlays.mk (overlays.filter (isLeft [])) []) = _
  rw [List.filter_eq_self.mpr fun o _ => isLeft_nil o]

theorem check_abort (installed : String → Bool) (overlays : List OverlayName) :
    check installed .abort overlays =
      match absent installed overlays with
      | [] => .ok ⟨overlays, []⟩
      | first :: _ => .error first.absence := by
  cases missing : absent installed overlays with
  | nil => exact check_of_installed (absent_eq_nil_iff.mp missing) .abort
  | cons first rest =>
    rw [check, ← absent, missing, foldlM_takeMissing_abort]
    rfl

end CameraSetup.OverlayName
