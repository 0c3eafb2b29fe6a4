import CameraSetup.Topology
import CameraSetup.Proofs.SortedMap

/-! The three passes over the descriptors that make a topology: what one descriptor does, and what
all of them have done at the end. The later passes treat every board alike, so they are read at the
ports of one board. There each pass is told by what it leaves under a port, a sensor and a number of
lanes. The pass for the sensors makes such a path and its option of no link booster, and the pass for
the link boosters makes no path and takes no option away. -/

namespace CameraSetup.Topology

variable {ports : PortOptions} {ds : List Descriptor} {board : BoardId} {port sensor : String}
  {lanes : Nat}

/-! ### The boards -/

/-- The boards that descriptors name, before anything is known to belong to them. -/
def boardsIn (ds : List Descriptor) : SortedMap BoardId PortOptions :=
  .ofList (ds.filterMap boardOf?)

theorem mem_filterMap_boardOf?_iff :
    (board, ports) ∈ ds.filterMap boardOf? ↔ .addOnBoard board ∈ ds ∧ ports = .empty := by
  rw [List.mem_filterMap]
  constructor
  · rintro ⟨d, mem, same⟩
    cases d with
    | addOnBoard id =>
      cases same
      exact ⟨mem, rfl⟩
    | sensorLane | linkBooster => cases same
  · rintro ⟨mem, rfl⟩
    exact ⟨_, mem, rfl⟩

theorem mem_keys_boardsIn : board ∈ (boardsIn ds).keys ↔ .addOnBoard board ∈ ds := by
  rw [boardsIn, SortedMap.mem_keys_ofList, List.mem_map]
  constructor
  · rintro ⟨⟨_, _⟩, mem, rfl⟩
    exact (mem_filterMap_boardOf?_iff.mp mem).1
  · exact fun named => ⟨(board, .empty), mem_filterMap_boardOf?_iff.mpr ⟨named, rfl⟩, rfl⟩

/-- The first pass gives no board a port. -/
theorem eq_empty_of_boardsIn (found : (boardsIn ds).get? board = some ports) : ports = .empty :=
  (mem_filterMap_boardOf?_iff.mp (SortedMap.mem_of_get?_ofList found)).2

/-! ### One board for all -/

/-- A pass over all boards is the pass over the ports of each. -/
theorem foldl_onEveryBoard (add : PortOptions → Descriptor → PortOptions) (ds : List Descriptor)
    (boards : SortedMap BoardId PortOptions) :
    ds.foldl (onEveryBoard add) boards = boards.mapValues fun _ ports => ds.foldl add ports :=
  SortedMap.foldl_mapValues add ds boards

/-- The ports that descriptors name, with what each of them offers. -/
def portsIn (ds : List Descriptor) : PortOptions :=
  ds.foldl addLinkBooster (ds.foldl addSensorLane .empty)

/-- All the passes give every board the same ports. -/
theorem passes_eq (ds : List Descriptor) :
    ds.foldl (onEveryBoard addLinkBooster) (ds.foldl (onEveryBoard addSensorLane) (boardsIn ds)) =
      (boardsIn ds).mapValues fun _ _ => portsIn ds := by
  rw [foldl_onEveryBoard, foldl_onEveryBoard, SortedMap.mapValues_mapValues]
  refine SortedMap.ext fun board => ?_
  rw [SortedMap.get?_mapValues, SortedMap.get?_mapValues]
  cases found : (boardsIn ds).get? board with
  | none => rfl
  | some ports => rw [eq_empty_of_boardsIn found]; rfl

/-! ### What is under a path -/

/-- The options under a port, a sensor and a number of lanes. -/
def optionsAt? (ports : PortOptions) (port sensor : String) (lanes : Nat) :
    Option (SortedSet LinkBooster) := do
  let sensors ← ports.get? port
  let counts ← sensors.get? sensor
  counts.get? lanes

@[simp] theorem optionsAt?_empty : optionsAt? .empty port sensor lanes = none := rfl

/-- The set with the option of no link booster added, from nothing if need be. -/
def withAbsent (options : Option (SortedSet LinkBooster)) : SortedSet LinkBooster :=
  (options.getD .empty).insert .absent ()

theorem withAbsent_withAbsent (options : Option (SortedSet LinkBooster)) :
    withAbsent (some (withAbsent options)) = withAbsent options := by
  refine SortedMap.eq_of_mem_keys_iff fun b => ?_
  rw [withAbsent, Option.getD_some, SortedMap.mem_keys_insert, withAbsent,
    SortedMap.mem_keys_insert, ← or_assoc, or_self]

/-! ### The sensors -/

theorem get?_getD_empty {κ α : Type} [Ord κ] (m? : Option (SortedMap κ α)) (k : κ) :
    (m?.getD .empty).get? k = m?.bind (·.get? k) := by
  cases m? <;> rfl

/-- A descriptor of a sensor makes its own path, and leaves what is under any other. -/
theorem optionsAt?_addSensorLane (ports : PortOptions) (d : Descriptor) (port sensor : String)
    (lanes : Nat) :
    optionsAt? (addSensorLane ports d) port sensor lanes =
      if d = .sensorLane sensor port lanes then
        some (withAbsent (optionsAt? ports port sensor lanes))
      else optionsAt? ports port sensor lanes := by
  cases d with
  | addOnBoard | linkBooster => rfl
  | sensorLane sensor' port' lanes' =>
    simp only [addSensorLane, optionsAt?, SortedMap.get?_update, Descriptor.sensorLane.injEq]
    -- The path is the descriptor's own, or parts from it at one of the three levels.
    by_cases hport : port = port'
    · subst hport
      by_cases hsensor : sensor = sensor'
      · subst hsensor
        by_cases hlanes : lanes = lanes'
        · subst hlanes
          simp [withAbsent, SortedMap.get?_update, get?_getD_empty, Option.bind_assoc]
        · simp [hlanes, Ne.symm hlanes, SortedMap.get?_update, get?_getD_empty, Option.bind_assoc]
      · simp [hsensor, Ne.symm hsensor, SortedMap.get?_update, get?_getD_empty, Option.bind_assoc]
    · simp [hport, Ne.symm hport]

theorem optionsAt?_foldl_addSensorLane (ports : PortOptions) (ds : List Descriptor)
    (port sensor : String) (lanes : Nat) :
    optionsAt? (ds.foldl addSensorLane ports) port sensor lanes =
      if .sensorLane sensor port lanes ∈ ds then
        some (withAbsent (optionsAt? ports port sensor lanes))
      else optionsAt? ports port sensor lanes := by
  induction ds generalizing ports with
  | nil => rfl
  | cons d ds ih =>
    rw [List.foldl_cons, ih, optionsAt?_addSensorLane]
    by_cases here : d = .sensorLane sensor port lanes
    · simp [here, withAbsent_withAbsent]
    · simp [here, Ne.symm here]

/-! ### The link boosters -/

/-- Whether a descriptor is of a link booster for a port. -/
def boosts (port : String) : Descriptor → Bool
  | .linkBooster name => Text.sameIgnoringCase port.toList name.toList
  | _ => false

/-- The set with the option of a link booster, if there is one. -/
def withPresent (boosted : Bool) (options : SortedSet LinkBooster) : SortedSet LinkBooster :=
  if boosted then options.insert .present () else options

theorem mem_keys_withPresent {boosted : Bool} {options : SortedSet LinkBooster} {b : LinkBooster} :
    b ∈ (withPresent boosted options).keys ↔
      b = .present ∧ boosted = true ∨ b ∈ options.keys := by
  cases boosted with
  | false => simp [withPresent]
  | true => simp [withPresent, SortedMap.mem_keys_insert]

theorem map_withPresent_false (options : Option (SortedSet LinkBooster)) :
    options.map (withPresent false) = options :=
  congrFun Option.map_id options

theorem withPresent_withPresent (a b : Bool) (options : SortedSet LinkBooster) :
    withPresent b (withPresent a options) = withPresent (a || b) options := by
  refine SortedMap.eq_of_mem_keys_iff fun option => ?_
  rw [mem_keys_withPresent, mem_keys_withPresent, mem_keys_withPresent, ← or_assoc, Bool.or_eq_true,
    ← and_or_left, or_comm (a := b = true)]

/-- A descriptor of a link booster adds its option under every path at its port, and makes none. -/
theorem optionsAt?_addLinkBooster (ports : PortOptions) (d : Descriptor) (port sensor : String)
    (lanes : Nat) :
    optionsAt? (addLinkBooster ports d) port sensor lanes =
      (optionsAt? ports port sensor lanes).map (withPresent (boosts port d)) := by
  cases d with
  | addOnBoard | sensorLane => exact (map_withPresent_false _).symm
  | linkBooster name =>
    simp only [addLinkBooster, optionsAt?, boosts, SortedMap.get?_mapValues]
    cases ports.get? port with
    | none => rfl
    | some sensors =>
      cases Text.sameIgnoringCase port.toList name.toList with
      | false => exact (map_withPresent_false _).symm
      | true =>
        simp only [Option.map_some, if_true, Option.bind_eq_bind, Option.bind_some,
          SortedMap.get?_mapValues]
        cases sensors.get? sensor with
        | none => rfl
        | some counts => exact SortedMap.get?_mapValues counts _ lanes

theorem optionsAt?_foldl_addLinkBooster (ports : PortOptions) (ds : List Descriptor)
    (port sensor : String) (lanes : Nat) :
    optionsAt? (ds.foldl addLinkBooster ports) port sensor lanes =
      (optionsAt? ports port sensor lanes).map (withPresent (ds.any (boosts port))) := by
  induction ds generalizing ports with
  | nil => exact (map_withPresent_false _).symm
  | cons d ds ih =>
    rw [List.foldl_cons, ih, optionsAt?_addLinkBooster, Option.map_map, List.any_cons]
    exact congrArg (Option.map · _) (funext (withPresent_withPresent _ _))

/-- What all the passes leave under a path. -/
theorem optionsAt?_portsIn (ds : List Descriptor) (port sensor : String) (lanes : Nat) :
    optionsAt? (portsIn ds) port sensor lanes =
      if .sensorLane sensor port lanes ∈ ds then
        some (withPresent (ds.any (boosts port)) (withAbsent none))
      else none := by
  rw [portsIn, optionsAt?_foldl_addLinkBooster, optionsAt?_foldl_addSensorLane]
  split <;> rfl

/-! ### No level is empty -/

/-- Every port has a sensor, and every sensor a lane count. -/
structure Filled (ports : PortOptions) : Prop where
  sensors : ∀ port sensors, ports.get? port = some sensors → sensors.keys ≠ []
  lanes : ∀ port sensors, ports.get? port = some sensors →
    ∀ sensor counts, sensors.get? sensor = some counts → counts.keys ≠ []

theorem filled_empty : Filled .empty where
  sensors _ _ found := nomatch found
  lanes _ _ found := nomatch found

theorem Filled.addSensorLane (h : Filled ports) (d : Descriptor) :
    Filled (addSensorLane ports d) := by
  have inserted : ∀ {κ α : Type} [Ord κ] [Std.TransOrd κ] (m : SortedMap κ α) (k : κ) (v : α),
      (m.insert k v).keys ≠ [] := fun m k v => by simp [ne_eq, SortedMap.keys_eq_nil_iff]
  cases d with
  | addOnBoard | linkBooster => exact h
  | sensorLane sensor port lanes =>
    constructor
    · intro p sensors found
      rw [Topology.addSensorLane, SortedMap.get?_update] at found
      split at found
      · cases found
        exact inserted _ _ _
      · exact h.sensors p sensors found
    · intro p sensors found s counts hcounts
      rw [Topology.addSensorLane, SortedMap.get?_update] at found
      split at found
      · cases found
        rw [SortedMap.get?_update] at hcounts
        split at hcounts
        · cases hcounts
          exact inserted _ _ _
        · rw [get?_getD_empty, Option.bind_eq_some_iff] at hcounts
          obtain ⟨old, known, hcounts⟩ := hcounts
          exact h.lanes port old known s counts hcounts
      · exact h.lanes p sensors found s counts hcounts

theorem Filled.addLinkBooster (h : Filled ports) (d : Descriptor) :
    Filled (addLinkBooster ports d) := by
  cases d with
  | addOnBoard | sensorLane => exact h
  | linkBooster name =>
    constructor
    · intro p sensors found
      rw [Topology.addLinkBooster, SortedMap.get?_mapValues, Option.map_eq_some_iff] at found
      obtain ⟨old, known, rfl⟩ := found
      have some := h.sensors p old known
      split
      · rwa [SortedMap.keys_mapValues]
      · exact some
    · intro p sensors found s counts hcounts
      rw [Topology.addLinkBooster, SortedMap.get?_mapValues, Option.map_eq_some_iff] at found
      obtain ⟨old, known, rfl⟩ := found
      split at hcounts
      · rw [SortedMap.get?_mapValues, Option.map_eq_some_iff] at hcounts
        obtain ⟨old', known', rfl⟩ := hcounts
        rw [SortedMap.keys_mapValues]
        exact h.lanes p old known s old' known'
      · exact h.lanes p old known s counts hcounts

theorem filled_portsIn (ds : List Descriptor) : Filled (portsIn ds) := by
  have run : ∀ (add : PortOptions → Descriptor → PortOptions),
      (∀ {ports}, Filled ports → ∀ d, Filled (add ports d)) →
        ∀ (ds : List Descriptor) ports, Filled ports → Filled (ds.foldl add ports) := by
    intro add step ds
    induction ds with
    | nil => exact fun _ h => h
    | cons d ds ih => exact fun ports h => ih _ (step h d)
  exact run _ Filled.addLinkBooster ds _ (run _ Filled.addSensorLane ds _ filled_empty)

/-- What is under every path makes up the ports of a board. -/
theorem eq_of_optionsAt? {m n : PortOptions} (hm : Filled m) (hn : Filled n)
    (same : ∀ port sensor lanes, optionsAt? m port sensor lanes = optionsAt? n port sensor lanes) :
    m = n := by
  have under : ∀ (ports : PortOptions) port sensor lanes,
      (((((ports.get? port).getD .empty).get? sensor).getD .empty).get? lanes) =
        optionsAt? ports port sensor lanes := fun ports port sensor lanes => by
    simp [optionsAt?, get?_getD_empty, Option.bind_assoc]
  have lanes : ∀ {ports : PortOptions}, Filled ports → ∀ port sensor counts,
      ((ports.get? port).getD .empty).get? sensor = some counts → counts.keys ≠ [] := by
    intro ports h port sensor counts found
    rw [get?_getD_empty, Option.bind_eq_some_iff] at found
    obtain ⟨sensors, known, found⟩ := found
    exact h.lanes port sensors known sensor counts found
  refine SortedMap.eq_of_getD hm.sensors hn.sensors fun port => ?_
  refine SortedMap.eq_of_getD (lanes hm port) (lanes hn port) fun sensor => ?_
  refine SortedMap.ext fun lanes => ?_
  rw [under, under, same]

end CameraSetup.Topology
