import CameraSetup.Topology
import CameraSetup.Proofs.SortedMap

/-! What a topology has on offer, as membership in its listings. A look-up succeeds exactly when
what it looks up is listed one level above, and what is listed hangs under something that is
listed. -/

namespace CameraSetup.Topology

variable {t : Topology} {board : BoardId} {port sensor : String} {lanes : Nat} {setup : PortSetup}

theorem isSome_ports? : (t.ports? board).isSome = true ↔ board ∈ t.boards.keys := by
  rw [ports?, Option.isSome_map]
  exact SortedMap.contains_iff

theorem isSome_sensors? :
    (t.sensors? board port).isSome = true ↔ port ∈ (t.ports? board).getD [] := by
  rw [sensors?, Option.isSome_map]
  exact SortedMap.isSome_bind_get?_iff

theorem isSome_lanes? :
    (t.lanes? board port sensor).isSome = true ↔ sensor ∈ (t.sensors? board port).getD [] := by
  rw [lanes?, Option.isSome_map]
  exact SortedMap.isSome_bind_get?_iff

theorem isSome_boosters? :
    (t.boosters? board port sensor lanes).isSome = true ↔
      lanes ∈ (t.lanes? board port sensor).getD [] := by
  rw [boosters?, Option.isSome_map]
  exact SortedMap.isSome_bind_get?_iff

theorem offers_iff : t.offers board port setup = true ↔
    setup.linkBooster ∈ (t.boosters? board port setup.sensor setup.lanes).getD [] := by
  rw [offers]
  split <;> simp_all

theorem isSome_of_mem_getD {α : Type} {listing : Option (List α)} {x : α}
    (h : x ∈ listing.getD []) : listing.isSome = true := by
  cases listing with
  | none => simp at h
  | some => rfl

theorem mem_boards_of_mem_ports (h : port ∈ (t.ports? board).getD []) : board ∈ t.boards.keys :=
  isSome_ports?.mp (isSome_of_mem_getD h)

theorem mem_ports_of_mem_sensors (h : sensor ∈ (t.sensors? board port).getD []) :
    port ∈ (t.ports? board).getD [] :=
  isSome_sensors?.mp (isSome_of_mem_getD h)

theorem mem_sensors_of_mem_lanes (h : lanes ∈ (t.lanes? board port sensor).getD []) :
    sensor ∈ (t.sensors? board port).getD [] :=
  isSome_lanes?.mp (isSome_of_mem_getD h)

theorem mem_lanes_of_offers (h : t.offers board port setup = true) :
    setup.lanes ∈ (t.lanes? board port setup.sensor).getD [] :=
  isSome_boosters?.mp (isSome_of_mem_getD (offers_iff.mp h))

theorem mem_ports_of_offers (h : t.offers board port setup = true) :
    port ∈ (t.ports? board).getD [] :=
  mem_ports_of_mem_sensors (mem_sensors_of_mem_lanes (mem_lanes_of_offers h))

end CameraSetup.Topology
