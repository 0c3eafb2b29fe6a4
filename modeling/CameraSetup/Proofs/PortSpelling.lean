import CameraSetup.Proofs.ModuleArguments
import CameraSetup.Proofs.Topology.Content
import CameraSetup.Proofs.Wizard.Reach

/-! One port, one setup. Module arguments tell ports apart without regard to case, while the ports
of a topology are told apart by their spelling. So the wizard sets up each port once exactly when
the descriptors spell each port in one way; otherwise two spellings of a port can be set up
together, and their overlays can have the same names. -/

namespace CameraSetup

open Wizard (start)

/-- Descriptors spell each port in one way. -/
def Topology.SpelledOneWay (ds : List Descriptor) : Prop :=
  ∀ p q, (∃ sensor lanes, .sensorLane sensor p lanes ∈ ds) →
    (∃ sensor lanes, .sensorLane sensor q lanes ∈ ds) →
      Text.sameIgnoringCase p.toList q.toList = true → p = q

namespace Selection

variable {s : Selection} {t : Topology} {ds : List Descriptor}

theorem OfferedBy.isWorded (h : s.OfferedBy t) (describes : t.Describes ds)
    (worded : ∀ d ∈ ds, d.IsWorded) : s.IsWorded := by
  refine ⟨?_, fun port setup found => ?_⟩
  · exact (Descriptor.isWordOf_iff.mp (worded _ ((describes.boards _).mp h.board))).2
  · obtain ⟨-, lane, -⟩ := (describes.offers _ _ _).mp (h.setups port setup found)
    obtain ⟨hsensor, hport⟩ := worded _ lane
    exact ⟨(Descriptor.isWordOf_iff.mp hport).2, (Descriptor.isWordOf_iff.mp hsensor).2⟩

theorem OfferedBy.sensorLane (h : s.OfferedBy t) (describes : t.Describes ds) {port : String}
    (mem : port ∈ s.ports.keys) : ∃ sensor lanes, .sensorLane sensor port lanes ∈ ds := by
  obtain ⟨setup, found⟩ := SortedMap.mem_keys_iff.mp mem
  obtain ⟨-, lane, -⟩ := (describes.offers _ _ _).mp (h.setups port setup found)
  exact ⟨_, _, lane⟩

/-- Where each port is spelled in one way, a selection on offer holds each port once. -/
theorem OfferedBy.oncePerPort (h : s.OfferedBy t) (describes : t.Describes ds)
    (oneWay : Topology.SpelledOneWay ds) : s.OncePerPort :=
  fun p hp q hq => oneWay p q (h.sensorLane describes hp) (h.sensorLane describes hq)

theorem exists_offeredBy_pair (describes : t.Describes ds) (some : t.boards.keys ≠ [])
    {p q : String} (hp : ∃ sensor lanes, .sensorLane sensor p lanes ∈ ds)
    (hq : ∃ sensor lanes, .sensorLane sensor q lanes ∈ ds) :
    ∃ s : Selection, s.OfferedBy t ∧ p ∈ s.ports.keys ∧ q ∈ s.ports.keys := by
  obtain ⟨board, hboard⟩ := List.exists_mem_of_ne_nil _ some
  have onBoard := (describes.boards board).mp hboard
  obtain ⟨sensor, lanes, hp⟩ := hp
  obtain ⟨sensor', lanes', hq⟩ := hq
  have first : t.offers board p ⟨sensor, lanes, .absent⟩ = true :=
    (describes.offers _ _ _).mpr ⟨onBoard, hp, nofun⟩
  have second : t.offers board q ⟨sensor', lanes', .absent⟩ = true :=
    (describes.offers _ _ _).mpr ⟨onBoard, hq, nofun⟩
  refine ⟨_, (offeredBy_ofBoard_insert first).insert second, ?_, ?_⟩
  · exact SortedMap.mem_keys_insert.mpr (.inr (SortedMap.mem_keys_insert.mpr (.inl rfl)))
  · exact SortedMap.mem_keys_insert.mpr (.inl rfl)

end Selection

/-- Every run of the wizard sets up each port once, with overlays of different names, exactly when
the descriptors spell each port in one way; module arguments always name such a selection. -/
theorem oncePerPort_iff_spelledOneWay {connector : Connector} {descriptors : List String}
    {t : Topology} (built : Topology.ofDescriptors connector descriptors = .ok t) :
    (Topology.SpelledOneWay (Topology.known descriptors) ↔
      ∀ capacity steps,
        (∀ s, ((start t capacity).after steps).selection = some s → s.OncePerPort) ∧
        ∀ (step : Wizard.Step) (request : Wizard.SaveRequest),
          (((start t capacity).after steps).step step).2 = .ok (.commit request) →
            request.selection.OncePerPort ∧
              ((request.selection.overlays connector).map (·.name)).Nodup) ∧
    ∀ arguments s, ModuleArgument.selection arguments = .ok s →
      s.OncePerPort ∧ ∀ connector, ((s.overlays connector).map (·.name)).Nodup := by
  obtain ⟨describes, boards⟩ := Topology.describes_of_ofDescriptors built
  have worded : ∀ d ∈ Topology.known descriptors, d.IsWorded := by
    intro d mem
    obtain ⟨raw, -, read⟩ := List.mem_filterMap.mp mem
    exact Descriptor.isWorded_of_parse? read
  refine ⟨⟨fun oneWay capacity steps => ?_, fun runs p q hp hq same => ?_⟩, ?_⟩
  · have invariant := (Wizard.invariant_start t capacity).after steps
    have offered : ∀ s, ((start t capacity).after steps).selection = some s → s.OfferedBy t :=
      invariant.selection
    refine ⟨fun s pending => (offered s pending).oncePerPort describes oneWay, ?_⟩
    intro step request handed
    have pending := offered _ (Wizard.selection_of_step handed)
    have once := pending.oncePerPort describes oneWay
    exact ⟨once, Selection.nodup_overlays (pending.isWorded describes worded) once connector⟩
  · obtain ⟨s, offered, mem, mem'⟩ := Selection.exists_offeredBy_pair describes boards hp hq
    have handed := Wizard.commit_after_stepsFor offered 15 false
    exact ((runs 15 (Wizard.stepsFor s)).2 _ _ handed).1 p mem q mem' same
  · intro arguments s named
    have once := ModuleArgument.oncePerPort_of_selection named
    exact ⟨once, Selection.nodup_overlays (ModuleArgument.isWorded_of_selection named) once⟩

/-- Two ports, each spelled in one way, are set up together. -/
theorem oncePerPort_of_two_ports : ∃ t request,
    Topology.ofDescriptors .narrow
      ["Tag FPA-1.2", "Tag imx900-P0-4Lane", "Tag imx900-P1-4Lane"] = .ok t ∧
    (((start t 15).after (Wizard.stepsFor ⟨⟨"1.2"⟩,
      .ofList [("P0", ⟨"imx900", 4, .absent⟩), ("P1", ⟨"imx900", 4, .absent⟩)]⟩)).step
        (.action .saveOnly)).2 = .ok (.commit request) ∧
    request.selection.size = 2 ∧ request.selection.OncePerPort ∧
      ((request.selection.overlays .narrow).map (·.name)).Nodup := by
  have run : ∃ t request,
      Topology.ofDescriptors .narrow
        ["Tag FPA-1.2", "Tag imx900-P0-4Lane", "Tag imx900-P1-4Lane"] = .ok t ∧
      (((start t 15).after (Wizard.stepsFor ⟨⟨"1.2"⟩,
        .ofList [("P0", ⟨"imx900", 4, .absent⟩), ("P1", ⟨"imx900", 4, .absent⟩)]⟩)).step
          (.action .saveOnly)).2 = .ok (.commit request) ∧
      request.selection.size = 2 := ⟨_, _, rfl, rfl, rfl⟩
  obtain ⟨t, request, built, handed, size⟩ := run
  have known : Topology.known ["Tag FPA-1.2", "Tag imx900-P0-4Lane", "Tag imx900-P1-4Lane"] =
      [.addOnBoard ⟨"1.2"⟩, .sensorLane "imx900" "P0" 4, .sensorLane "imx900" "P1" 4] := rfl
  have oneWay : Topology.SpelledOneWay
      (Topology.known ["Tag FPA-1.2", "Tag imx900-P0-4Lane", "Tag imx900-P1-4Lane"]) := by
    rw [known]
    rintro p q ⟨_, _, hp⟩ ⟨_, _, hq⟩ same
    simp only [List.mem_cons, Descriptor.sensorLane.injEq, reduceCtorEq, List.not_mem_nil, or_false,
      false_or] at hp hq
    rcases hp with ⟨-, rfl, -⟩ | ⟨-, rfl, -⟩ <;> rcases hq with ⟨-, rfl, -⟩ | ⟨-, rfl, -⟩
    · rfl
    · exact absurd same (by decide)
    · exact absurd same (by decide)
    · rfl
  have distinct := (((oncePerPort_iff_spelledOneWay built).1.mp oneWay 15 _).2 _ request handed)
  exact ⟨t, request, built, handed, size, distinct⟩

/-- With two spellings of one port, a run sets up the port twice, and the overlays of its two
setups have one name. -/
theorem two_spellings_of_one_port : ∃ t request,
    Topology.ofDescriptors .wide ["Tag FPA-1", "Tag imx900-P0-4Lane", "Tag imx900-p0-4Lane"] =
      .ok t ∧
    (((start t 15).after ([.openBoard ⟨"1"⟩, .openPort "P0", .openSensor "imx900", .openLanes 4,
        .choose .absent, .openPort "p0", .openSensor "imx900", .openLanes 4, .choose .absent,
        .back].map .action)).step (.action .saveOnly)).2 = .ok (.commit request) ∧
    ¬ request.selection.OncePerPort ∧
      ¬ ((request.selection.overlays .wide).map (·.name)).Nodup := by
  have run : ∃ t request,
      Topology.ofDescriptors .wide ["Tag FPA-1", "Tag imx900-P0-4Lane", "Tag imx900-p0-4Lane"] =
        .ok t ∧
      (((start t 15).after ([.openBoard ⟨"1"⟩, .openPort "P0", .openSensor "imx900", .openLanes 4,
          .choose .absent, .openPort "p0", .openSensor "imx900", .openLanes 4, .choose .absent,
          .back].map .action)).step (.action .saveOnly)).2 = .ok (.commit request) ∧
      request.selection.ports.keys = ["P0", "p0"] ∧
      (request.selection.overlays .wide).map (·.name) =
        ["tegra234-p3737-camera-fr_fpa_1-overlay.dtbo",
          "tegra234-p3737-camera-fr_imx900-p0-4lane-overlay.dtbo",
          "tegra234-p3737-camera-fr_imx900-p0-4lane-overlay.dtbo"] := ⟨_, _, rfl, rfl, rfl, rfl⟩
  obtain ⟨t, request, built, handed, keys, names⟩ := run
  refine ⟨t, request, built, handed, fun once => ?_, ?_⟩
  · have := once "P0" (by simp [keys]) "p0" (by simp [keys]) (by decide)
    exact absurd this (by decide)
  · rw [names]
    decide

end CameraSetup
