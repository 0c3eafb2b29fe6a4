import CameraSetup.Proofs.Descriptor
import CameraSetup.Proofs.Topology.Listing
import CameraSetup.Proofs.Topology.Passes

/-! The topology that descriptors describe says what they say: it has the boards that they name, and
on each of them the ports, sensors and lane counts that they name together, and nothing else. -/

namespace CameraSetup.Topology

/-- The descriptors among some texts. -/
def known (descriptors : List String) : List Descriptor := descriptors.filterMap Descriptor.parse?

/-- Of boards with the same ports, either the first has none or no board has none. -/
theorem find?_isEmpty_mapValues (boards : SortedMap BoardId PortOptions) (ports : PortOptions) :
    (boards.mapValues fun _ _ => ports).toList.find? (fun (_, ports) => ports.isEmpty) =
      if ports.isEmpty then boards.keys.head?.map fun first => (first, ports) else none := by
  unfold SortedMap.mapValues SortedMap.keys
  dsimp only
  cases boards.toList with
  | nil => simp
  | cons first rest => cases none : ports.isEmpty <;> simp [none]

/-- Every board gets the same ports, those that descriptors name. -/
theorem ofDescriptors_eq (connector : Connector) (descriptors : List String) :
    ofDescriptors connector descriptors =
      match (boardsIn (known descriptors)).keys with
      | [] => .error .noAddOnBoard
      | first :: _ =>
        if (portsIn (known descriptors)).isEmpty then .error (.emptyBoard first)
        else .ok ⟨connector,
          (boardsIn (known descriptors)).mapValues fun _ _ => portsIn (known descriptors)⟩ := by
  unfold ofDescriptors
  dsimp only
  rw [← known, ← boardsIn, passes_eq, find?_isEmpty_mapValues]
  cases named : (boardsIn (known descriptors)).keys with
  | nil => rw [if_pos (SortedMap.keys_eq_nil_iff.mp named)]
  | cons first rest =>
    have some : ¬(boardsIn (known descriptors)).isEmpty = true := by
      rw [← SortedMap.keys_eq_nil_iff, named]
      exact List.cons_ne_nil _ _
    rw [if_neg some]
    cases (portsIn (known descriptors)).isEmpty <;> rfl

variable {connector : Connector} {descriptors : List String} {t : Topology} {board : BoardId}
  {port sensor : String} {lanes : Nat}

/-! ### At a path -/

section
variable (built : ofDescriptors connector descriptors = .ok t)
include built

theorem eq_of_ofDescriptors : t.connector = connector ∧ (boardsIn (known descriptors)).keys ≠ [] ∧
    (portsIn (known descriptors)).keys ≠ [] ∧
    t.boards = (boardsIn (known descriptors)).mapValues fun _ _ => portsIn (known descriptors) := by
  rw [ofDescriptors_eq] at built
  split at built
  · cases built
  · next first rest named =>
    split at built
    · cases built
    · next some =>
      cases built
      rw [ne_eq, ne_eq, SortedMap.keys_eq_nil_iff (m := portsIn _), named]
      exact ⟨rfl, List.cons_ne_nil _ _, some, rfl⟩

theorem mem_boards_iff : board ∈ t.boards.keys ↔ .addOnBoard board ∈ known descriptors := by
  obtain ⟨-, -, -, boards⟩ := eq_of_ofDescriptors built
  rw [boards, SortedMap.keys_mapValues, mem_keys_boardsIn]

theorem get?_boards (listed : board ∈ t.boards.keys) :
    t.boards.get? board = some (portsIn (known descriptors)) := by
  obtain ⟨-, -, -, boards⟩ := eq_of_ofDescriptors built
  obtain ⟨ports, found⟩ := SortedMap.mem_keys_iff.mp listed
  rw [found]
  rw [boards, SortedMap.get?_mapValues, Option.map_eq_some_iff] at found
  obtain ⟨-, -, rfl⟩ := found
  rfl

/-- The options under a path are there exactly when descriptors name its parts together, and then
they are those that the passes leave. -/
theorem boosterOptions?_eq (board : BoardId) (port sensor : String) (lanes : Nat) :
    t.boosterOptions? board port sensor lanes =
      if .addOnBoard board ∈ known descriptors ∧
          .sensorLane sensor port lanes ∈ known descriptors then
        some (withPresent ((known descriptors).any (boosts port)) (withAbsent none))
      else none := by
  have path : t.boosterOptions? board port sensor lanes =
      (t.boards.get? board).bind fun ports => optionsAt? ports port sensor lanes := by
    simp [boosterOptions?, laneOptions?, sensorOptions?, optionsAt?, Option.bind_assoc]
  by_cases listed : board ∈ t.boards.keys
  · have named := (mem_boards_iff built).mp listed
    rw [path, get?_boards built listed, Option.bind_some, optionsAt?_portsIn]
    simp [named]
  · have unnamed := mt (mem_boards_iff built).mpr listed
    have missing : t.boards.get? board = none :=
      Option.eq_none_iff_forall_ne_some.mpr fun ports found =>
        listed (SortedMap.mem_keys_iff.mpr ⟨ports, found⟩)
    rw [path, missing]
    simp [unnamed]

/-- A link booster need not be used. -/
theorem absent_mem_boosters (listed : lanes ∈ (t.lanes? board port sensor).getD []) :
    .absent ∈ (t.boosters? board port sensor lanes).getD [] := by
  obtain ⟨boosters, found⟩ := Option.isSome_iff_exists.mp (isSome_boosters?.mpr listed)
  rw [found]
  rw [boosters?, boosterOptions?_eq built, Option.map_eq_some_iff] at found
  obtain ⟨options, found, rfl⟩ := found
  split at found
  · cases found
    exact mem_keys_withPresent.mpr (.inr (SortedMap.mem_keys_insert.mpr (.inl rfl)))
  · cases found

end

/-! ### What descriptors say -/

/-- What a topology has, in terms of the descriptors that it was made from. -/
structure Describes (t : Topology) (ds : List Descriptor) : Prop where
  boards : ∀ board, board ∈ t.boards.keys ↔ .addOnBoard board ∈ ds
  offers : ∀ board port setup, t.offers board port setup = true ↔
    .addOnBoard board ∈ ds ∧ .sensorLane setup.sensor port setup.lanes ∈ ds ∧
      (setup.linkBooster = .present → ds.any (boosts port) = true)

section
variable (built : ofDescriptors connector descriptors = .ok t)
include built

/-- The topology that descriptors describe has what they say, and a board among it. -/
theorem describes_of_ofDescriptors : t.Describes (known descriptors) ∧ t.boards.keys ≠ [] := by
  obtain ⟨-, named, -, boards⟩ := eq_of_ofDescriptors built
  refine ⟨⟨fun board => mem_boards_iff built, fun board port setup => ?_⟩, ?_⟩
  · rw [offers_iff, boosters?, boosterOptions?_eq built]
    split
    · next path =>
      rw [Option.map_some, Option.getD_some, mem_keys_withPresent, withAbsent,
        SortedMap.mem_keys_insert]
      cases setup.linkBooster <;> simp [path]
    · next none => simpa using fun board lanes => absurd ⟨board, lanes⟩ none
  · rwa [boards, SortedMap.keys_mapValues]

/-- What a topology that descriptors describe lists has something listed below it: a board has a
port, a port a sensor, and a sensor a lane count. -/
theorem listings_ne_nil (board : BoardId) :
    (board ∈ t.boards.keys → (t.ports? board).getD [] ≠ []) ∧
    (∀ port ∈ (t.ports? board).getD [], (t.sensors? board port).getD [] ≠ []) ∧
    ∀ port, ∀ sensor ∈ (t.sensors? board port).getD [],
      (t.lanes? board port sensor).getD [] ≠ [] := by
  have filled := filled_portsIn (known descriptors)
  have sensorOptions : ∀ {port sensors}, t.sensorOptions? board port = some sensors →
      (portsIn (known descriptors)).get? port = some sensors := by
    intro port sensors found
    obtain ⟨ports, board, found⟩ := Option.bind_eq_some_iff.mp found
    rw [get?_boards built (SortedMap.mem_keys_iff.mpr ⟨ports, board⟩)] at board
    cases board
    exact found
  refine ⟨fun listed => ?_, fun port listed => ?_, fun port sensor listed => ?_⟩
  · rw [ports?, get?_boards built listed]
    exact (eq_of_ofDescriptors built).2.2.1
  · have found := isSome_sensors?.mpr listed
    rw [sensors?, Option.isSome_map] at found
    obtain ⟨sensors, found⟩ := Option.isSome_iff_exists.mp found
    rw [sensors?, found]
    exact filled.sensors port sensors (sensorOptions found)
  · have found := isSome_lanes?.mpr listed
    rw [lanes?, Option.isSome_map] at found
    obtain ⟨counts, found⟩ := Option.isSome_iff_exists.mp found
    rw [lanes?, found]
    obtain ⟨sensors, above, found⟩ := Option.bind_eq_some_iff.mp found
    exact filled.lanes port sensors (sensorOptions above) sensor counts found

end

end CameraSetup.Topology
