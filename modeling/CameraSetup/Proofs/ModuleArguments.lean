import CameraSetup.ModuleArguments
import CameraSetup.Proofs.Except
import CameraSetup.Proofs.Overlay.Distinct

/-! The selections that module arguments name: their names are words, and they name no port twice in
any case of letters. -/

namespace CameraSetup.ModuleArgument

/-- What holds of the arguments read so far. -/
structure Reading.Sound (r : Reading) : Prop where
  board : ∀ id, r.board = some id → Descriptor.IsWorded (.addOnBoard id)
  ports : ∀ e ∈ r.ports, Descriptor.IsWorded (.sensorLane e.2.sensor e.1 e.2.lanes)
  once : ∀ d ∈ r.ports, ∀ e ∈ r.ports,
    Text.sameIgnoringCase d.1.toList e.1.toList = true → d.1 = e.1

variable {r r' : Reading} {argument port : String} {setup : PortSetup} {id : BoardId}

theorem isWorded_of_parse?_addOnBoard (h : parse? argument = some (.addOnBoard id)) :
    Descriptor.IsWorded (.addOnBoard id) := by
  unfold parse? at h
  split at h
  · next id' read =>
    cases h
    exact Descriptor.isWorded_of_parse? read
  · dsimp only at h
    split at h <;> cases h

theorem isWorded_of_parse?_sensorModule (h : parse? argument = some (.sensorModule port setup)) :
    Descriptor.IsWorded (.sensorLane setup.sensor port setup.lanes) := by
  unfold parse? at h
  split at h
  · cases h
  · dsimp only at h
    split at h
    · next read =>
      cases h
      exact Descriptor.isWorded_of_parse? read
    · cases h

theorem Reading.Sound.step (h : r.Sound) (read : r.step argument = .ok r') : r'.Sound := by
  unfold Reading.step at read
  split at read
  · cases read
  · next id parsed =>
    split at read
    · cases read
    · cases read
      refine ⟨fun id' same => ?_, h.ports, h.once⟩
      cases same
      exact isWorded_of_parse?_addOnBoard parsed
  · next port setup parsed =>
    split at read
    · cases read
    · next fresh =>
      cases read
      have others : ∀ e ∈ r.ports, Text.sameIgnoringCase e.1.toList port.toList = false := by
        simpa [Reading.names] using fresh
      refine ⟨h.board, ?_, ?_⟩
      · rintro e mem
        rcases List.mem_append.mp mem with mem | mem
        · exact h.ports e mem
        · rw [List.mem_singleton.mp mem]
          exact isWorded_of_parse?_sensorModule parsed
      · rintro d hd e he same
        rcases List.mem_append.mp hd with hd | hd <;> rcases List.mem_append.mp he with he | he
        · exact h.once d hd e he same
        · rw [List.mem_singleton.mp he, others d hd] at same
          cases same
        · rw [List.mem_singleton.mp hd, Text.sameIgnoringCase_comm, others e he] at same
          cases same
        · rw [List.mem_singleton.mp hd, List.mem_singleton.mp he]

theorem Reading.Sound.foldlM {arguments : List String} (h : r.Sound)
    (read : arguments.foldlM Reading.step r = .ok r') : r'.Sound := by
  induction arguments generalizing r with
  | nil =>
    cases pure_eq_ok.mp read
    exact h
  | cons argument arguments ih =>
    rw [List.foldlM_cons] at read
    obtain ⟨next, first, rest⟩ := bind_eq_ok.mp read
    exact ih (h.step first) rest

/-- A selection holds what was read of all its arguments. -/
theorem reading_of_selection {arguments : List String} {s : Selection}
    (h : selection arguments = .ok s) :
    ∃ r : Reading, r.Sound ∧ r.board = some s.board ∧ r.ports ≠ [] ∧ s.ports = .ofList r.ports := by
  unfold selection at h
  obtain ⟨r, read, h⟩ := bind_eq_ok.mp h
  have start : Reading.Sound ⟨none, []⟩ := by
    refine ⟨?_, ?_, ?_⟩ <;> simp
  refine ⟨r, start.foldlM read, ?_⟩
  split at h
  · exact absurd h throw_ne_ok
  · next board known =>
    dsimp only at h
    split at h
    · exact absurd h throw_ne_ok
    · next some =>
      cases pure_eq_ok.mp h
      exact ⟨known, by simpa using some, rfl⟩

theorem isWorded_of_selection {arguments : List String} {s : Selection}
    (h : selection arguments = .ok s) : s.IsWorded := by
  obtain ⟨r, sound, board, -, ports⟩ := reading_of_selection h
  refine ⟨?_, fun port setup found => ?_⟩
  · exact (Descriptor.isWordOf_iff.mp (sound.board _ board)).2
  · rw [Selection.get?, ports] at found
    have worded := sound.ports _ (SortedMap.mem_of_get?_ofList found)
    exact ⟨(Descriptor.isWordOf_iff.mp worded.2).2, (Descriptor.isWordOf_iff.mp worded.1).2⟩

theorem oncePerPort_of_selection {arguments : List String} {s : Selection}
    (h : selection arguments = .ok s) : s.OncePerPort := by
  obtain ⟨r, sound, -, -, ports⟩ := reading_of_selection h
  intro p hp q hq same
  rw [ports] at hp hq
  obtain ⟨u, hu⟩ := SortedMap.mem_keys_iff.mp hp
  obtain ⟨v, hv⟩ := SortedMap.mem_keys_iff.mp hq
  exact sound.once _ (SortedMap.mem_of_get?_ofList hu) _ (SortedMap.mem_of_get?_ofList hv) same

theorem isEmpty_of_selection {arguments : List String} {s : Selection}
    (h : selection arguments = .ok s) : s.isEmpty = false := by
  obtain ⟨r, -, -, some, ports⟩ := reading_of_selection h
  rw [Selection.isEmpty, ports, SortedMap.isEmpty_ofList some]

end CameraSetup.ModuleArgument
