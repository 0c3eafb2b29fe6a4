import CameraSetup.Proofs.Wizard.Reach
import CameraSetup.Proofs.Wizard.Typing

/-! What can be done with keys alone: from every wizard that a run reaches, with pages that hold
every menu, keys lead to a save of any selection that the topology offers. -/

namespace CameraSetup.Wizard

open Menu (Entry)

/-- Where a wizard of a topology stands: its menu, its page capacity, and what is pending. -/
structure Stands (t : Topology) (capacity : Nat) (place : Place) (pending : Option Selection)
    (w : Wizard) : Prop where
  invariant : Invariant t w
  capacity : w.pageCapacity = capacity
  place : w.place = place
  selection : w.selection = pending

/-- From every wizard of one kind, keys lead to one of another. -/
def Passes (P Q : Wizard → Prop) : Prop := ∀ w, P w → ∃ w', Leads w w' ∧ Q w'

theorem Passes.refl (P : Wizard → Prop) : Passes P P := fun w h => ⟨w, .refl, h⟩

theorem Passes.trans {P Q R : Wizard → Prop} (first : Passes P Q) (second : Passes Q R) :
    Passes P R := by
  intro w h
  obtain ⟨v, leads, hv⟩ := first w h
  obtain ⟨u, leads', hu⟩ := second v hv
  exact ⟨u, leads.trans leads', hu⟩

variable {t : Topology} {capacity : Nat} {place : Place} {pending : Option Selection} {w : Wizard}
  {board : BoardId} {port : String} {setup : PortSetup}

theorem Stands.atCursor (h : Stands t capacity place pending w) (page row : Nat) :
    Stands t capacity place pending (w.atCursor page row) :=
  ⟨h.invariant.atCursor page row, h.capacity, h.place, h.selection⟩

theorem Stands.exists_press_enter (h : Stands t capacity place pending w)
    (enough : leastCapacity ≤ capacity) {e : Entry Action} {action : Action}
    (mem : e ∈ w.entries ∨ e ∈ w.footer) (acts : e.action = some action) :
    ∃ v w', Leads w v ∧ v.press .enter = w'.activate action ∧
      Stands t capacity place pending w' := by
  obtain ⟨menu, shown⟩ := exists_menu (h.capacity ▸ enough)
  obtain ⟨v, page, row, leads, entered⟩ := Wizard.exists_press_enter shown mem acts
  exact ⟨v, _, leads, entered, h.atCursor page row⟩

/-- What an action on the menu leads to, the enter key leads to. -/
theorem passes_enter (enough : leastCapacity ≤ capacity) (action : Action) {next : Place}
    {pending' : Option Selection}
    (mem : ∀ w, Stands t capacity place pending w →
      ∃ e, (e ∈ w.entries ∨ e ∈ w.footer) ∧ e.action = some action)
    (acts : ∀ w, Stands t capacity place pending w →
      ∃ w', w.activate action = (w', .ok .pending) ∧ w'.place = next ∧ w'.selection = pending') :
    Passes (Stands t capacity place pending) (Stands t capacity next pending') := by
  intro w h
  obtain ⟨e, hmem, hacts⟩ := mem w h
  obtain ⟨v, u, leads, entered, hu⟩ := h.exists_press_enter enough hmem hacts
  obtain ⟨w', acted, here, selection⟩ := acts u hu
  have invariant := hu.invariant.activate action
  have pageCapacity := (pageCapacity_activate u action).trans hu.capacity
  rw [acted] at invariant pageCapacity
  exact ⟨w', leads.tail ⟨.enter, by decide, entered.trans acted⟩,
    invariant, pageCapacity, here, selection⟩

/-! ### From menu to menu -/

theorem passes_open (enough : leastCapacity ≤ capacity) (action : Action) {next : Place}
    (opens : place.opens? action = some next) (listed : next.IsListed t) :
    Passes (Stands t capacity place pending) (Stands t capacity next pending) := by
  refine passes_enter enough action (fun w h => ?_) fun w h => ?_
  · obtain ⟨e, mem, acts⟩ := exists_entry_of_opens? (w := w) (h.place ▸ opens)
      (h.invariant.topology ▸ listed)
    exact ⟨e, .inl mem, acts⟩
  · exact ⟨_, activate_of_opens? (h.place ▸ opens) (h.invariant.topology ▸ listed), rfl,
      h.selection⟩

theorem passes_back (enough : leastCapacity ≤ capacity) {outer : Place} {rest : List Place}
    (behind : place.behind = outer :: rest) :
    Passes (Stands t capacity place pending) (Stands t capacity outer pending) := by
  intro w h
  obtain ⟨menu, shown⟩ := exists_menu (h.capacity ▸ enough)
  have places := h.invariant.behind
  rw [h.place, behind] at places
  obtain ⟨frame, frames, open_, here, -⟩ := List.map_eq_cons_iff.mp places
  have closed : w.press .back =
      ({ (w.settled menu).quiet with current := frame, outer := frames }, .ok .pending) := by
    rw [press_back shown (by simp [open_])]
    show (w.settled menu).quiet.goBack = _
    rw [goBack, show (w.settled menu).quiet.outer = frame :: frames from open_]
  refine ⟨_, .single ⟨.back, by decide, closed⟩, ?_, h.capacity, here, h.selection⟩
  have := h.invariant.press .back
  rwa [closed] at this

theorem passes_topLevel (enough : leastCapacity ≤ capacity) (place : Place) :
    Passes (Stands t capacity place pending) (Stands t capacity .topLevel pending) := by
  have ports : ∀ board, Passes (Stands t capacity (.portMenu board) pending)
      (Stands t capacity .topLevel pending) := fun _ => passes_back enough rfl
  have sensors : ∀ board port, Passes (Stands t capacity (.sensorMenu board port) pending)
      (Stands t capacity .topLevel pending) :=
    fun board _ => (passes_back enough rfl).trans (ports board)
  have lanes : ∀ board port sensor,
      Passes (Stands t capacity (.laneMenu board port sensor) pending)
        (Stands t capacity .topLevel pending) :=
    fun board port _ => (passes_back enough rfl).trans (sensors board port)
  cases place with
  | topLevel => exact .refl _
  | portMenu board => exact ports board
  | sensorMenu board port => exact sensors board port
  | laneMenu board port sensor => exact lanes board port sensor
  | linkBoosterMenu board port sensor _ => exact (passes_back enough rfl).trans (lanes _ _ _)

/-! ### What is pending -/

theorem Place.behind_of_port? {place : Place} (here : place.port? = some (board, port)) :
    ∃ front, place :: place.behind = front ++ [.portMenu board, .topLevel] := by
  cases place with
  | topLevel | portMenu => cases here
  | sensorMenu b p =>
    cases here
    exact ⟨[.sensorMenu board port], rfl⟩
  | laneMenu b p s =>
    cases here
    exact ⟨[.laneMenu board port s, .sensorMenu board port], rfl⟩
  | linkBoosterMenu b p s l =>
    cases here
    exact ⟨[.linkBoosterMenu board port s l, .laneMenu board port s, .sensorMenu board port], rfl⟩

/-- Closing the menus of a port leaves the menu of its board. -/
theorem Invariant.closedTo_two (h : Invariant t w) (here : w.place.port? = some (board, port)) :
    ∃ frame rest, frame.place = .portMenu board ∧
      w.closedTo 2 = { w with current := frame, outer := rest } := by
  obtain ⟨front, behind⟩ := Place.behind_of_port? here
  have places : (w.current :: w.outer).map (·.place) = front ++ [.portMenu board, .topLevel] := by
    rw [List.map_cons, h.behind]
    exact behind
  obtain ⟨closed, left, frames, -, left_places⟩ := List.map_eq_append_iff.mp places
  obtain ⟨frame, rest, rfl, place, last⟩ := List.map_eq_cons_iff.mp left_places
  have two : rest.length + 1 = 2 := by simpa using congrArg List.length last
  exact ⟨frame, rest, place, closedTo_of_append frames two⟩

/-- A choice sets a port up, and the menu of its board is in front again. -/
theorem passes_choose (enough : leastCapacity ≤ capacity)
    (same : ∀ s, pending = some s → s.board = board)
    (offered : t.offers board port setup = true) :
    Passes (Stands t capacity (.linkBoosterMenu board port setup.sensor setup.lanes) pending)
      (Stands t capacity (.portMenu board)
        (some ((pending.getD (.ofBoard board)).insert port setup))) := by
  refine passes_enter enough (.choose setup.linkBooster) (fun w h => ?_) fun w h => ?_
  · obtain ⟨e, mem, acts⟩ := exists_entry_choose h.place (h.invariant.topology ▸ offered)
    exact ⟨e, .inl mem, acts⟩
  · refine ⟨_, activate_choose h.place (h.invariant.topology ▸ offered), ?_⟩
    have stored := h.invariant.quiet.storePort offered
    obtain ⟨current, outer⟩ := frames_storePort w.quiet board port setup
    have port? : (w.quiet.storePort board port setup).place.port? = some (board, port) := by
      rw [Wizard.place, current]
      exact congrArg Place.port? h.place
    obtain ⟨frame, rest, front, closed⟩ := stored.closedTo_two port?
    rw [closed]
    refine ⟨front, ?_⟩
    rw [← h.selection]
    exact selection_storePort w.quiet setup fun s hs => same s (h.selection ▸ hs)

theorem passes_setup (enough : leastCapacity ≤ capacity)
    (same : ∀ s, pending = some s → s.board = board)
    (offered : t.offers board port setup = true) :
    Passes (Stands t capacity (.portMenu board) pending)
      (Stands t capacity (.portMenu board)
        (some ((pending.getD (.ofBoard board)).insert port setup))) := by
  have lanes := Topology.mem_lanes_of_offers offered
  have sensor := Topology.mem_sensors_of_mem_lanes lanes
  have port' := Topology.mem_ports_of_mem_sensors sensor
  have toSensors : Passes (Stands t capacity (.portMenu board) pending)
      (Stands t capacity (.sensorMenu board port) pending) :=
    passes_open enough (.openPort port) rfl port'
  have toLanes : Passes (Stands t capacity (.sensorMenu board port) pending)
      (Stands t capacity (.laneMenu board port setup.sensor) pending) :=
    passes_open enough (.openSensor setup.sensor) rfl sensor
  have toBoosters : Passes (Stands t capacity (.laneMenu board port setup.sensor) pending)
      (Stands t capacity (.linkBoosterMenu board port setup.sensor setup.lanes) pending) :=
    passes_open enough (.openLanes setup.lanes) rfl lanes
  exact ((toSensors.trans toLanes).trans toBoosters).trans (passes_choose enough same offered)

theorem passes_setups (enough : leastCapacity ≤ capacity) {s : Selection} (same : s.board = board)
    {es : List (String × PortSetup)} (offered : ∀ e ∈ es, t.offers board e.1 e.2 = true) :
    Passes (Stands t capacity (.portMenu board) (some s))
      (Stands t capacity (.portMenu board) (some (es.foldl (fun s e => s.insert e.1 e.2) s))) := by
  induction es generalizing s with
  | nil => exact .refl _
  | cons e es ih =>
    have first := @passes_setup t capacity (some s) board e.1 e.2 enough
      (fun _ hs => Option.some.inj hs ▸ same) (offered e List.mem_cons_self)
    exact first.trans (ih same fun d hd => offered d (List.mem_cons_of_mem e hd))

/-- The ports of a selection on offer can be set up from the menu of its board. -/
theorem passes_selection (enough : leastCapacity ≤ capacity) {s : Selection}
    (offered : s.OfferedBy t) :
    Passes (Stands t capacity (.portMenu s.board) none)
      (Stands t capacity (.portMenu s.board) (some s)) := by
  have setups : ∀ e ∈ s.ports.toList, t.offers s.board e.1 e.2 = true := fun e he =>
    offered.setups e.1 e.2 (SortedMap.get?_eq_some_iff.mpr he)
  have whole : s.ports.toList.foldl (fun s e => s.insert e.1 e.2) (.ofBoard s.board) = s := by
    rw [foldl_insert]
    exact congrArg (Selection.mk s.board) (SortedMap.ofList_toList s.ports)
  cases entries : s.ports.toList with
  | nil =>
    have := SortedMap.isEmpty_iff.mpr entries
    rw [← Selection.isEmpty, offered.nonempty] at this
    cases this
  | cons e es =>
    -- The first port is set up with nothing pending, the others with the board pending.
    rw [entries] at setups whole
    have first := @passes_setup t capacity none s.board e.1 e.2 enough (by simp)
      (setups e List.mem_cons_self)
    have others := @passes_setups t capacity s.board enough
      ((Selection.ofBoard s.board).insert e.1 e.2) rfl es
      fun d hd => setups d (List.mem_cons_of_mem e hd)
    rw [List.foldl_cons] at whole
    rw [whole] at others
    exact first.trans others

/-! ### The top-level menu -/

theorem hasPending_of_selection {s : Selection} (pending : w.selection = some s)
    (nonempty : s.isEmpty = false) : w.hasPending = true := by
  simp [hasPending, pending, nonempty]

theorem passes_discard (enough : leastCapacity ≤ capacity) {s : Selection}
    (nonempty : s.isEmpty = false) :
    Passes (Stands t capacity .topLevel (some s)) (Stands t capacity .topLevel none) := by
  refine passes_enter enough .discardAll (fun w h => ?_) fun w h => ?_
  · have pending := hasPending_of_selection h.selection nonempty
    obtain ⟨e, mem, acts⟩ :=
      exists_entry_of_hasPending h.place pending .discardAll (by decide)
    exact ⟨e, .inr mem, acts⟩
  · have here : w.quiet.place = .topLevel := h.place
    have outer : w.outer = [] := by
      have := h.invariant.behind
      rw [h.place] at this
      exact List.map_eq_nil_iff.mp this
    have alone : w.quiet.closedTo 1 = w.quiet :=
      @closedTo_of_append w.quiet [] w.outer w.current 1 rfl
        (congrArg (·.length + 1) outer)
    refine ⟨w.quiet.dropAll, ?_, ?_, rfl⟩
    · rw [@activate_of_ne_back w .discardAll nofun, act.eq_def, here]
    · show (w.quiet.closedTo 1).place = _
      rw [alone]
      exact here

theorem passes_none (enough : leastCapacity ≤ capacity) (pending : Option Selection) :
    Passes (Stands t capacity .topLevel pending) (Stands t capacity .topLevel none) := by
  intro w h
  cases pending with
  | none => exact ⟨w, .refl, h⟩
  | some s => exact passes_discard enough (h.invariant.selection s h.selection).nonempty w h

/-- However a wizard was used before, if its pages hold every menu, keys that work the menus save
any selection that the topology offers, with or without a reboot, and before the last of them
nothing is saved or left. -/
theorem exists_keys_commit (t : Topology) (initial : Nat) (steps : List Step)
    (enough : leastCapacity ≤ ((start t initial).after steps).pageCapacity) {s : Selection}
    (offered : s.OfferedBy t) (reboot : Bool) :
    ∃ (keys : List Key) (last : Key), (∀ key ∈ keys ++ [last], key ∈ Key.working) ∧
      ((start t initial).after steps).results ((keys ++ [last]).map .key) =
        List.replicate keys.length (.ok .pending) ++ [.ok (.commit ⟨s, reboot⟩)] := by
  generalize reached : (start t initial).after steps = w at enough
  have invariant : Invariant t w := reached ▸ (invariant_start t initial).after steps
  have stands : Stands t w.pageCapacity w.place w.selection w := ⟨invariant, rfl, rfl, rfl⟩
  have board : Passes (Stands t w.pageCapacity .topLevel none)
      (Stands t w.pageCapacity (.portMenu s.board) none) :=
    passes_open enough (.openBoard s.board) rfl offered.board
  have route := (((passes_topLevel enough w.place).trans (passes_none enough w.selection)).trans
    board).trans ((passes_selection enough offered).trans (passes_topLevel enough _))
  obtain ⟨v, leads, ready⟩ := route w stands
  have pending := hasPending_of_selection ready.selection offered.nonempty
  obtain ⟨e, mem, acts⟩ := exists_entry_of_hasPending ready.place pending
    (if reboot then .saveAndReboot else .saveOnly) (by cases reboot <;> decide)
  obtain ⟨u, w', leads', entered, there⟩ := ready.exists_press_enter enough (.inr mem) acts
  obtain ⟨keys, working, -, results⟩ := exists_keys (leads.trans leads')
  refine ⟨keys, .enter, ?_, ?_⟩
  · simpa [or_imp, forall_and, Key.working] using working
  · rw [List.map_append, results]
    show _ ++ [(u.press .enter).2] = _
    rw [entered, activate_save there.place there.selection offered.nonempty]

/-- With one board pending, the lane menu of the other in front, and pages cut down to the least
capacity, keys save a selection of the second board. -/
theorem exists_keys_commit_midway : ∃ t,
    Topology.ofDescriptors .wide
      ["Tag FPA-1", "Tag FPA-2", "Tag FPA-3", "Tag FPA-4", "Tag imx900-P0-4Lane", "Tag GMSL-P0"] =
        .ok t ∧
    ∃ (keys : List Key) (last : Key), (∀ key ∈ keys ++ [last], key ∈ Key.working) ∧
      ((start t 15).after (([.enter, .enter, .enter, .enter, .enter, .back, .down, .enter, .enter,
        .enter].map .key) ++ [.pageCapacity 8])).results ((keys ++ [last]).map .key) =
        List.replicate keys.length (.ok .pending) ++
          [.ok (.commit ⟨(Selection.ofBoard ⟨"2"⟩).insert "P0" ⟨"imx900", 4, .present⟩, true⟩)] := by
  have run : ∃ t,
      Topology.ofDescriptors .wide
        ["Tag FPA-1", "Tag FPA-2", "Tag FPA-3", "Tag FPA-4", "Tag imx900-P0-4Lane",
          "Tag GMSL-P0"] = .ok t ∧
      t.offers ⟨"2"⟩ "P0" ⟨"imx900", 4, .present⟩ = true ∧
      ((start t 15).after (([.enter, .enter, .enter, .enter, .enter, .back, .down, .enter, .enter,
        .enter].map .key) ++ [.pageCapacity 8])).pageCapacity = 8 := ⟨_, rfl, rfl, rfl⟩
  obtain ⟨t, built, offered, capacity⟩ := run
  exact ⟨t, built, exists_keys_commit t 15 _ (Nat.le_of_eq capacity.symm)
    (Selection.offeredBy_ofBoard_insert offered) true⟩

end CameraSetup.Wizard
