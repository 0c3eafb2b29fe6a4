import CameraSetup.Proofs.Topology.Content

/-! A topology is determined by the facts that its descriptors state: which boards there are, which
sensor runs at which port with how many lanes, and which ports can have a link booster. Neither the
order of descriptors nor their number counts, nor do texts that are no descriptors, and the same
holds of the error when they describe no topology. -/

namespace CameraSetup.Topology

variable {connector : Connector} {descriptors : List String} {ds ds' : List Descriptor}
  {t : Topology} {board : BoardId} {port sensor : String} {lanes : Nat}

/-! ### The passes -/

theorem boardsIn_congr (same : ∀ d, d ∈ ds ↔ d ∈ ds') : boardsIn ds = boardsIn ds' := by
  refine SortedMap.ext fun board => Option.ext fun ports => ?_
  have found : ∀ ds : List Descriptor, (boardsIn ds).get? board = some ports ↔
      .addOnBoard board ∈ ds ∧ ports = .empty := by
    intro ds
    constructor
    · exact fun found => mem_filterMap_boardOf?_iff.mp (SortedMap.mem_of_get?_ofList found)
    · rintro ⟨named, rfl⟩
      obtain ⟨ports, found⟩ := SortedMap.mem_keys_iff.mp (mem_keys_boardsIn.mpr named)
      rwa [eq_empty_of_boardsIn found] at found
  rw [found, found, same]

theorem any_boosts_iff : ds.any (boosts port) = true ↔
    ∃ name, .linkBooster name ∈ ds ∧ Text.sameIgnoringCase port.toList name.toList = true := by
  rw [List.any_eq_true]
  constructor
  · rintro ⟨d, mem, boosted⟩
    cases d with
    | addOnBoard | sensorLane => cases boosted
    | linkBooster name => exact ⟨name, mem, boosted⟩
  · rintro ⟨name, mem, same⟩
    exact ⟨_, mem, same⟩

theorem portsIn_congr (same : ∀ d, d ∈ ds ↔ d ∈ ds') : portsIn ds = portsIn ds' := by
  refine eq_of_optionsAt? (filled_portsIn ds) (filled_portsIn ds') fun port sensor lanes => ?_
  have boosted : ds.any (boosts port) = ds'.any (boosts port) := by
    rw [Bool.eq_iff_iff, any_boosts_iff, any_boosts_iff]
    simp only [same]
  simp only [optionsAt?_portsIn, same, boosted]

theorem boardsIn_eq_nil_iff : (boardsIn ds).keys = [] ↔ ∀ board, .addOnBoard board ∉ ds := by
  rw [List.eq_nil_iff_forall_not_mem]
  exact forall_congr' fun board => not_congr mem_keys_boardsIn

theorem isEmpty_portsIn_iff :
    (portsIn ds).isEmpty = true ↔ ∀ sensor port lanes, .sensorLane sensor port lanes ∉ ds := by
  constructor
  · intro none sensor port lanes mem
    have path := optionsAt?_portsIn ds port sensor lanes
    rw [if_pos mem, SortedMap.eq_empty_of_isEmpty none] at path
    cases path
  · intro none
    have same : portsIn ds = .empty :=
      eq_of_optionsAt? (filled_portsIn ds) filled_empty fun port sensor lanes => by
        rw [optionsAt?_portsIn, if_neg (none sensor port lanes), optionsAt?_empty]
    rw [same]
    rfl

/-- Of the boards that descriptors name, the one whose id comes first. -/
def IsFirstBoard (board : BoardId) (ds : List Descriptor) : Prop :=
  .addOnBoard board ∈ ds ∧
    ∀ other, .addOnBoard other ∈ ds → (compare board other).isLE = true

theorem isFirstBoard_iff {first : BoardId} {rest : List BoardId}
    (h : (boardsIn ds).keys = first :: rest) : IsFirstBoard board ds ↔ board = first := by
  have named : ∀ other, .addOnBoard other ∈ ds ↔ other ∈ (boardsIn ds).keys := fun other =>
    mem_keys_boardsIn.symm
  have least : IsFirstBoard first ds :=
    ⟨(named first).mpr (by simp [h]), fun other mem =>
      SortedMap.isLE_of_mem_keys h ((named other).mp mem)⟩
  constructor
  · rintro ⟨mem, first'⟩
    exact Std.LawfulEqOrd.eq_of_compare
      (Std.OrientedCmp.isLE_antisymm (first' _ least.1) (least.2 _ mem))
  · rintro rfl
    exact least

/-! ### What descriptors come to -/

theorem ofDescriptors_eq_noAddOnBoard_iff :
    ofDescriptors connector descriptors = .error .noAddOnBoard ↔
      ∀ board, .addOnBoard board ∉ known descriptors := by
  rw [ofDescriptors_eq, ← boardsIn_eq_nil_iff]
  cases boards : (boardsIn (known descriptors)).keys with
  | nil => simp
  | cons first rest =>
    dsimp only
    split <;> simp

theorem ofDescriptors_eq_emptyBoard_iff :
    ofDescriptors connector descriptors = .error (.emptyBoard board) ↔
      IsFirstBoard board (known descriptors) ∧
        ∀ sensor port lanes, .sensorLane sensor port lanes ∉ known descriptors := by
  rw [ofDescriptors_eq, ← isEmpty_portsIn_iff]
  cases boards : (boardsIn (known descriptors)).keys with
  | nil =>
    have none : ¬ IsFirstBoard board (known descriptors) := fun first =>
      boardsIn_eq_nil_iff.mp boards board first.1
    simp [none]
  | cons first rest =>
    rw [isFirstBoard_iff boards]
    dsimp only
    split
    · next empty => simp [empty, eq_comm]
    · next some => simp [some]

theorem exists_ofDescriptors (connector : Connector)
    (boards : ∃ board, .addOnBoard board ∈ known descriptors)
    (ports : ∃ sensor port lanes, .sensorLane sensor port lanes ∈ known descriptors) :
    ∃ t, ofDescriptors connector descriptors = .ok t ∧ t.connector = connector := by
  rw [ofDescriptors_eq]
  cases named : (boardsIn (known descriptors)).keys with
  | nil =>
    obtain ⟨board, mem⟩ := boards
    exact absurd mem (boardsIn_eq_nil_iff.mp named board)
  | cons first rest =>
    dsimp only
    split
    · next empty =>
      obtain ⟨sensor, port, lanes, mem⟩ := ports
      exact absurd mem (isEmpty_portsIn_iff.mp empty sensor port lanes)
    · exact ⟨_, rfl, rfl⟩

/-- The descriptors among texts decide what the texts describe. -/
theorem ofDescriptors_congr {descriptors' : List String}
    (same : ∀ d, d ∈ known descriptors' ↔ d ∈ known descriptors) :
    ofDescriptors connector descriptors' = ofDescriptors connector descriptors := by
  rw [ofDescriptors_eq, ofDescriptors_eq, boardsIn_congr same, portsIn_congr same]

/-! ### What a topology holds -/

/-- A topology lists what descriptors name, at every level, and nothing else. -/
structure HoldsFacts (t : Topology) (ds : List Descriptor) : Prop where
  boards : ∀ board, (t.ports? board).isSome = true ↔ .addOnBoard board ∈ ds
  ports : ∀ board port, port ∈ (t.ports? board).getD [] ↔
    .addOnBoard board ∈ ds ∧ ∃ sensor lanes, .sensorLane sensor port lanes ∈ ds
  sensors : ∀ board port sensor, sensor ∈ (t.sensors? board port).getD [] ↔
    .addOnBoard board ∈ ds ∧ ∃ lanes, .sensorLane sensor port lanes ∈ ds
  lanes : ∀ board port sensor lanes, lanes ∈ (t.lanes? board port sensor).getD [] ↔
    .addOnBoard board ∈ ds ∧ .sensorLane sensor port lanes ∈ ds
  boosters : ∀ board port sensor lanes, (t.boosters? board port sensor lanes).isSome = true ↔
    .addOnBoard board ∈ ds ∧ .sensorLane sensor port lanes ∈ ds
  options : ∀ board port sensor lanes options,
    t.boosters? board port sensor lanes = some options → .absent ∈ options ∧
      (.present ∈ options ↔
        ∃ name, .linkBooster name ∈ ds ∧ Text.sameIgnoringCase port.toList name.toList = true)
  ports_ne_nil : ∀ board ports, t.ports? board = some ports → ports ≠ []
  sensors_ne_nil : ∀ board port sensors, t.sensors? board port = some sensors → sensors ≠ []
  lanes_ne_nil : ∀ board port sensor lanes, t.lanes? board port sensor = some lanes → lanes ≠ []

section
variable (built : ofDescriptors connector descriptors = .ok t)
include built

theorem mem_lanes_iff : lanes ∈ (t.lanes? board port sensor).getD [] ↔
    .addOnBoard board ∈ known descriptors ∧
      .sensorLane sensor port lanes ∈ known descriptors := by
  rw [← isSome_boosters?, boosters?, Option.isSome_map, boosterOptions?_eq built]
  split <;> simp_all

theorem mem_sensors_iff : sensor ∈ (t.sensors? board port).getD [] ↔
    .addOnBoard board ∈ known descriptors ∧
      ∃ lanes, .sensorLane sensor port lanes ∈ known descriptors := by
  constructor
  · intro mem
    have some := (listings_ne_nil built board).2.2 port sensor mem
    obtain ⟨lanes, mem⟩ := List.exists_mem_of_ne_nil _ some
    obtain ⟨named, fact⟩ := (mem_lanes_iff built).mp mem
    exact ⟨named, lanes, fact⟩
  · rintro ⟨named, lanes, fact⟩
    exact mem_sensors_of_mem_lanes ((mem_lanes_iff built).mpr ⟨named, fact⟩)

theorem mem_ports_iff : port ∈ (t.ports? board).getD [] ↔
    .addOnBoard board ∈ known descriptors ∧
      ∃ sensor lanes, .sensorLane sensor port lanes ∈ known descriptors := by
  constructor
  · intro mem
    have some := (listings_ne_nil built board).2.1 port mem
    obtain ⟨sensor, mem⟩ := List.exists_mem_of_ne_nil _ some
    obtain ⟨named, fact⟩ := (mem_sensors_iff built).mp mem
    exact ⟨named, sensor, fact⟩
  · rintro ⟨named, sensor, fact⟩
    exact mem_ports_of_mem_sensors ((mem_sensors_iff built).mpr ⟨named, fact⟩)

theorem options_of_boosters? {options : List LinkBooster}
    (found : t.boosters? board port sensor lanes = some options) : .absent ∈ options ∧
      (.present ∈ options ↔ ∃ name, .linkBooster name ∈ known descriptors ∧
        Text.sameIgnoringCase port.toList name.toList = true) := by
  rw [boosters?, boosterOptions?_eq built, Option.map_eq_some_iff] at found
  obtain ⟨_, found, rfl⟩ := found
  split at found
  · cases found
    rw [mem_keys_withPresent, mem_keys_withPresent, withAbsent, SortedMap.mem_keys_insert,
      SortedMap.mem_keys_insert, any_boosts_iff]
    simp
  · cases found

theorem holdsFacts : t.HoldsFacts (known descriptors) where
  boards board := isSome_ports?.trans (mem_boards_iff built)
  ports _ _ := mem_ports_iff built
  sensors _ _ _ := mem_sensors_iff built
  lanes _ _ _ _ := mem_lanes_iff built
  boosters _ _ _ _ := isSome_boosters?.trans (mem_lanes_iff built)
  options _ _ _ _ _ := options_of_boosters? built
  ports_ne_nil board ports found := by
    have listed := isSome_ports?.mp (by rw [found]; rfl)
    simpa [found] using (listings_ne_nil built board).1 listed
  sensors_ne_nil board port sensors found := by
    have listed := isSome_sensors?.mp (by rw [found]; rfl)
    simpa [found] using (listings_ne_nil built board).2.1 port listed
  lanes_ne_nil board port sensor lanes found := by
    have listed := isSome_lanes?.mp (by rw [found]; rfl)
    simpa [found] using (listings_ne_nil built board).2.2 port sensor listed

end

/-- Which facts some texts state decides what they describe: no topology without a board, none
without a sensor at a port, the first board being to blame, and otherwise a topology with just these
facts. -/
theorem ofDescriptors_determined (connector : Connector) (descriptors : List String) :
    (ofDescriptors connector descriptors = .error .noAddOnBoard ↔
      ∀ board, .addOnBoard board ∉ known descriptors) ∧
    (∀ board, ofDescriptors connector descriptors = .error (.emptyBoard board) ↔
      IsFirstBoard board (known descriptors) ∧
        ∀ sensor port lanes, .sensorLane sensor port lanes ∉ known descriptors) ∧
    ((∃ board, .addOnBoard board ∈ known descriptors) →
      (∃ sensor port lanes, .sensorLane sensor port lanes ∈ known descriptors) →
        ∃ t, ofDescriptors connector descriptors = .ok t ∧ t.connector = connector ∧
          t.HoldsFacts (known descriptors)) ∧
    ∀ descriptors', (∀ d, d ∈ known descriptors' ↔ d ∈ known descriptors) →
      ofDescriptors connector descriptors' = ofDescriptors connector descriptors := by
  refine ⟨ofDescriptors_eq_noAddOnBoard_iff, fun _ => ofDescriptors_eq_emptyBoard_iff,
    fun boards ports => ?_, fun _ => ofDescriptors_congr⟩
  obtain ⟨t, built, same⟩ := exists_ofDescriptors connector boards ports
  exact ⟨t, built, same, holdsFacts built⟩

/-- Reversed, with repetitions and with a text that says nothing, the descriptors of two boards still
describe the same, and both boards have the link booster. -/
theorem ofDescriptors_determined_reversed :
    known ["Tag FPA-1.2", "Tag imx900-p0-4Lane", "Tag GMSL-P0", "Tag FPA-2"] =
      [.addOnBoard ⟨"1.2"⟩, .sensorLane "imx900" "p0" 4, .linkBooster "P0", .addOnBoard ⟨"2"⟩] ∧
    (∃ t, ofDescriptors .wide
        ["Tag FPA-1.2", "Tag imx900-p0-4Lane", "Tag GMSL-P0", "Tag FPA-2"] = .ok t ∧
      ∀ board ∈ [⟨"1.2"⟩, ⟨"2"⟩], ∃ options,
        t.boosters? board "p0" "imx900" 4 = some options ∧ .present ∈ options) ∧
    ofDescriptors .wide ["Tag FPA-2", "Tag GMSL-P0", "GMSL", "Tag imx900-p0-4Lane", "Tag FPA-1.2",
        "Tag GMSL-P0"] =
      ofDescriptors .wide
        ["Tag FPA-1.2", "Tag imx900-p0-4Lane", "Tag GMSL-P0", "Tag FPA-2"] := by
  have read : known ["Tag FPA-1.2", "Tag imx900-p0-4Lane", "Tag GMSL-P0", "Tag FPA-2"] =
      [.addOnBoard ⟨"1.2"⟩, .sensorLane "imx900" "p0" 4, .linkBooster "P0",
        .addOnBoard ⟨"2"⟩] := by decide
  have read' : known ["Tag FPA-2", "Tag GMSL-P0", "GMSL", "Tag imx900-p0-4Lane", "Tag FPA-1.2",
      "Tag GMSL-P0"] = [.addOnBoard ⟨"2"⟩, .linkBooster "P0", .sensorLane "imx900" "p0" 4,
        .addOnBoard ⟨"1.2"⟩, .linkBooster "P0"] := by decide
  obtain ⟨-, -, content, same⟩ := ofDescriptors_determined .wide
    ["Tag FPA-1.2", "Tag imx900-p0-4Lane", "Tag GMSL-P0", "Tag FPA-2"]
  refine ⟨read, ?_, same _ fun d => ?_⟩
  · obtain ⟨t, built, -, holds⟩ := content ⟨⟨"1.2"⟩, by simp [read]⟩
      ⟨"imx900", "p0", 4, by simp [read]⟩
    refine ⟨t, built, fun board listed => ?_⟩
    have named : .addOnBoard board ∈
        known ["Tag FPA-1.2", "Tag imx900-p0-4Lane", "Tag GMSL-P0", "Tag FPA-2"] := by
      rw [read]
      revert board listed
      decide
    have path := (holds.boosters board "p0" "imx900" 4).mpr ⟨named, by simp [read]⟩
    obtain ⟨options, found⟩ := Option.isSome_iff_exists.mp path
    refine ⟨options, found, (holds.options _ _ _ _ _ found).2.mpr ⟨"P0", ?_, by decide⟩⟩
    simp [read]
  · rw [read, read']
    constructor
    · revert d
      simp
    · revert d
      simp

end CameraSetup.Topology
