import CameraSetup.Proofs.PortSpelling
import CameraSetup.Proofs.Text.Plain
import CameraSetup.Proofs.Wizard.Drawn

/-! The labels of menu rows. A topology that descriptors describe lists words of the kinds that
descriptors have, and what is pending is what it lists. So whatever a wizard was used for, every row
that it draws has a plain label. -/

namespace CameraSetup

open Text (IsPlain isPlain_append isPlain_of_all isPlain_toString)

/-! ### What a topology lists -/

/-- What a topology lists has names of the kinds that descriptors have. -/
structure Topology.IsWorded (t : Topology) : Prop where
  boards : ∀ board ∈ t.boards.keys, ∀ c ∈ board.text.toList, Descriptor.isIdChar c = true
  ports : ∀ board, ∀ port ∈ (t.ports? board).getD [], ∀ c ∈ port.toList, c.isAlphanum = true
  sensors : ∀ board port, ∀ sensor ∈ (t.sensors? board port).getD [],
    ∀ c ∈ sensor.toList, Descriptor.isSensorChar c = true

theorem Topology.isWorded_of_ofDescriptors {connector : Connector} {descriptors : List String}
    {t : Topology} (built : ofDescriptors connector descriptors = .ok t) : t.IsWorded := by
  have describes := (describes_of_ofDescriptors built).1
  have worded : ∀ d ∈ known descriptors, d.IsWorded := by
    intro d mem
    obtain ⟨raw, -, read⟩ := List.mem_filterMap.mp mem
    exact Descriptor.isWorded_of_parse? read
  -- What is listed is part of a selection that the topology offers.
  have offered : ∀ {board port sensor}, sensor ∈ (t.sensors? board port).getD [] →
      ∃ setup : PortSetup, setup.sensor = sensor ∧
        ((Selection.ofBoard board).insert port setup).IsWorded := by
    intro board port sensor listed
    obtain ⟨lanes, mem⟩ :=
      List.exists_mem_of_ne_nil _ ((listings_ne_nil built board).2.2 port sensor listed)
    have offers : t.offers board port ⟨sensor, lanes, .absent⟩ = true :=
      offers_iff.mpr (absent_mem_boosters built mem)
    exact ⟨_, rfl, (Selection.offeredBy_ofBoard_insert offers).isWorded describes worded⟩
  refine ⟨fun board listed => ?_, fun board port listed => ?_, fun board port sensor listed => ?_⟩
  · exact (Descriptor.isWordOf_iff.mp (worded _ ((describes.boards _).mp listed))).2
  · obtain ⟨sensor, mem⟩ :=
      List.exists_mem_of_ne_nil _ ((listings_ne_nil built board).2.1 port listed)
    obtain ⟨setup, -, named⟩ := offered mem
    exact (named.ports port setup (Selection.get?_insert_self _ _ _)).1
  · obtain ⟨setup, rfl, named⟩ := offered listed
    exact (named.ports port setup (Selection.get?_insert_self _ _ _)).2

/-! ### The parts of labels -/

theorem isPlain_laneText (lanes : Nat) : IsPlain (laneText lanes) := by
  unfold laneText
  split
  · exact isPlain_of_all (by decide)
  · exact isPlain_append.mpr ⟨isPlain_toString lanes, isPlain_of_all (by decide)⟩

theorem isPlain_label_linkBooster (option : LinkBooster) : IsPlain option.label := by
  cases option <;> exact isPlain_of_all (by decide)

theorem isPlain_captionText (index count : Nat) : IsPlain (Menu.captionText index count) := by
  have space : IsPlain " " := isPlain_of_all (by decide)
  have slash : IsPlain "/" := isPlain_of_all (by decide)
  have arrow (last : Prop) [Decidable last] (text : String) (h : IsPlain text) :
      IsPlain (if last then "  " else text) := by
    split
    · exact isPlain_of_all (by decide)
    · exact h
  unfold Menu.captionText
  simp only [isPlain_append]
  exact ⟨⟨⟨⟨⟨⟨arrow _ _ (isPlain_of_all (by decide)), space⟩, isPlain_toString _⟩, slash⟩,
    isPlain_toString _⟩, space⟩, arrow _ _ (isPlain_of_all (by decide))⟩

theorem isPlain_label_board {board : BoardId}
    (named : ∀ c ∈ board.text.toList, Descriptor.isIdChar c = true) : IsPlain board.label :=
  isPlain_append.mpr
    ⟨isPlain_of_all (by decide), fun c mem => Text.isPlain_of_isIdChar (named c mem)⟩

theorem isPlain_label_setup {setup : PortSetup} (sensor : IsPlain setup.sensor) :
    IsPlain setup.label := by
  have comma : IsPlain ", " := isPlain_of_all (by decide)
  unfold PortSetup.label
  simp only [isPlain_append]
  exact ⟨⟨⟨⟨sensor, comma⟩, isPlain_laneText _⟩, comma⟩, isPlain_label_linkBooster _⟩

/-! ### The rows of a wizard -/

namespace Wizard

open Menu (Entry Paged)

variable {t : Topology} {w : Wizard}

theorem isPlain_label_boardEntry (named : t.IsWorded) {board : BoardId}
    (listed : board ∈ t.boards.keys) : IsPlain (w.boardEntry board).label := by
  have label := isPlain_label_board (named.boards board listed)
  unfold boardEntry Entry.ofAction
  dsimp only
  split
  · exact isPlain_append.mpr ⟨label, isPlain_of_all (by decide)⟩
  · exact label

/-- What is pending for a port is on offer, so its sensor is listed. -/
theorem isPlain_label_portEntry (named : t.IsWorded) (sound : Invariant t w) {board : BoardId}
    {port : String} (listed : port ∈ (t.ports? board).getD []) :
    IsPlain (w.portEntry board port).label := by
  have hport : IsPlain port := fun c mem =>
    Text.isPlain_of_isAlphanum (named.ports board port listed c mem)
  unfold portEntry Entry.ofAction
  dsimp only
  split
  · next setup pending =>
    obtain ⟨selection, held, found⟩ := Option.bind_eq_some_iff.mp pending
    split at found
    · next same =>
      have offered := (sound.selection selection held).setups port setup found
      have sensor := Topology.mem_sensors_of_mem_lanes (Topology.mem_lanes_of_offers offered)
      have hsetup := isPlain_label_setup fun c mem =>
        Text.isPlain_of_isSensorChar (named.sensors _ port _ sensor c mem)
      simp only [isPlain_append]
      exact ⟨⟨⟨isPlain_of_all (by decide), hport⟩, isPlain_of_all (by decide)⟩, hsetup⟩
    · cases found
  · exact isPlain_append.mpr ⟨isPlain_of_all (by decide), hport⟩

theorem isPlain_label_of_mem_entries (named : t.IsWorded) (sound : Invariant t w)
    {e : Entry Action} (mem : e ∈ w.entries) : IsPlain e.label := by
  rw [entries, sound.topology] at mem
  split at mem <;> obtain ⟨item, listed, rfl⟩ := List.mem_map.mp mem
  case h_1 => exact isPlain_label_boardEntry named listed
  case h_2 => exact isPlain_label_portEntry named sound listed
  case h_3 => exact fun c mem => Text.isPlain_of_isSensorChar (named.sensors _ _ item listed c mem)
  case h_4 => exact isPlain_laneText item
  case h_5 => exact isPlain_label_linkBooster item

theorem isPlain_label_of_mem_footer {e : Entry Action} (mem : e ∈ w.footer) : IsPlain e.label := by
  have all : w.footer.all (·.label.toList.all Text.isPlain) = true := by
    unfold footer
    split
    · cases w.hasPending <;> decide
    · decide
    · decide
  exact isPlain_of_all (List.all_eq_true.mp all e mem)

/-- Every row that is drawn has a plain label. -/
theorem isPlain_label_of_view (named : t.IsWorded) (sound : Invariant t w) {view : View}
    (drawn : w.view = .ok view) {row : ShownRow} (mem : row ∈ view.rows) : IsPlain row.label := by
  obtain ⟨menu, shown, -⟩ := bind_eq_ok.mp drawn
  rw [view_of_menu shown] at drawn
  cases drawn
  obtain ⟨i, here⟩ := List.mem_iff_getElem?.mp mem
  obtain ⟨e, found, rfl⟩ := Option.map_eq_some_iff.mp ((List.getElem?_mapIdx ..).symm.trans here)
  obtain ⟨rows, page, inside⟩ := Paged.exists_page_of_entry? found
  rcases Paged.row_of_mem_pages shown page inside with
    (choice | below) | rfl | ⟨index, count, rfl⟩
  · exact isPlain_label_of_mem_entries named sound choice
  · exact isPlain_label_of_mem_footer below
  · exact isPlain_of_all rfl
  · exact isPlain_captionText index count

end Wizard

end CameraSetup
