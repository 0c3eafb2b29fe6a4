import CameraSetup.Proofs.Wizard.Invariant

/-! What runs can come to: every selection that a topology offers is handed out by some run, which
opens its board and sets up its ports one after another. -/

namespace CameraSetup.Wizard

variable {t : Topology} {w : Wizard} {board : BoardId} {port : String} {setup : PortSetup}

theorem after_append (w : Wizard) (steps more : List Step) :
    w.after (steps ++ more) = (w.after steps).after more :=
  List.foldl_append

/-! ### Actions that are carried out -/

theorem activate_of_ne_back {action : Action} (h : action ≠ .back) :
    w.activate action = w.quiet.act action := if_neg h

theorem openIf_of_offered {offered : Bool} (h : offered = true) (place : Place) (action : Action) :
    w.openIf offered place action = (w.opening place, .ok .pending) := if_pos h

theorem activate_of_opens? {action : Action} {place : Place}
    (opens : w.place.opens? action = some place) (listed : place.IsListed w.topology) :
    w.activate action = (w.quiet.opening place, .ok .pending) := by
  have here : w.quiet.place = w.place := rfl
  unfold Place.opens? at opens
  split at opens
  · next top =>
    cases opens
    rw [@activate_of_ne_back w (.openBoard _) nofun, act.eq_def, here, top]
    exact openIf_of_offered (Topology.isSome_ports?.mpr listed) _ _
  · next menu =>
    cases opens
    rw [@activate_of_ne_back w (.openPort _) nofun, act.eq_def, here, menu]
    exact openIf_of_offered (Topology.isSome_sensors?.mpr listed) _ _
  · next menu =>
    cases opens
    rw [@activate_of_ne_back w (.openSensor _) nofun, act.eq_def, here, menu]
    exact openIf_of_offered (Topology.isSome_lanes?.mpr listed) _ _
  · next menu =>
    cases opens
    rw [@activate_of_ne_back w (.openLanes _) nofun, act.eq_def, here, menu]
    exact openIf_of_offered (Topology.isSome_boosters?.mpr listed) _ _
  · cases opens

theorem activate_choose (here : w.place = .linkBoosterMenu board port setup.sensor setup.lanes)
    (offered : w.topology.offers board port setup = true) :
    w.activate (.choose setup.linkBooster) =
      ((w.quiet.storePort board port setup).closedTo 2, .ok .pending) := by
  have menu : w.quiet.place = .linkBoosterMenu board port setup.sensor setup.lanes := here
  rw [@activate_of_ne_back w (.choose _) nofun, act.eq_def, menu]
  exact if_pos offered

theorem activate_save (top : w.place = .topLevel) {s : Selection} (pending : w.selection = some s)
    (nonempty : s.isEmpty = false) (reboot : Bool) :
    (w.activate (if reboot then .saveAndReboot else .saveOnly)).2 = .ok (.commit ⟨s, reboot⟩) := by
  have here : w.quiet.place = .topLevel := top
  have handed : (w.quiet.handOut reboot).2 = .ok (.commit ⟨s, reboot⟩) := by
    unfold handOut
    rw [show w.quiet.selection = some s from pending]
    dsimp only
    rw [nonempty]
    rfl
  cases reboot with
  | true =>
    rw [if_pos rfl, @activate_of_ne_back w .saveAndReboot nofun, act.eq_def, here]
    exact handed
  | false =>
    rw [if_neg Bool.false_ne_true, @activate_of_ne_back w .saveOnly nofun, act.eq_def, here]
    exact handed

/-! ### The port menu of a board -/

/-- The wizard is in the port menu of a board, with a selection pending. -/
structure AtPorts (t : Topology) (w : Wizard) (board : BoardId) (pending : Option Selection) :
    Prop where
  invariant : Invariant t w
  place : w.place = .portMenu board
  selection : w.selection = pending

/-- The actions that set up a port from the port menu. -/
def portActions (port : String) (setup : PortSetup) : List Step :=
  [.action (.openPort port), .action (.openSensor setup.sensor), .action (.openLanes setup.lanes),
    .action (.choose setup.linkBooster)]

theorem closedTo_of_append {front rest : List Frame} {frame : Frame} {depth : Nat}
    (frames : w.current :: w.outer = front ++ frame :: rest) (h : rest.length + 1 = depth) :
    w.closedTo depth = { w with current := frame, outer := rest } := by
  have length : w.depth - depth = front.length := by
    have := congrArg List.length frames
    simp only [List.length_cons, List.length_append] at this
    simp only [Wizard.depth]
    omega
  rw [closedTo, length, frames, List.drop_left]

theorem selection_storePort (w : Wizard) (setup : PortSetup)
    (same : ∀ s, w.selection = some s → s.board = board) :
    (w.storePort board port setup).selection =
      some ((w.selection.getD (.ofBoard board)).insert port setup) := by
  unfold storePort
  cases pending : w.selection with
  | none => rfl
  | some s =>
    dsimp only
    rw [if_pos (same s pending)]
    rfl

theorem frames_storePort (w : Wizard) (board : BoardId) (port : String) (setup : PortSetup) :
    (w.storePort board port setup).current = w.current ∧
      (w.storePort board port setup).outer = w.outer := by
  unfold storePort
  split
  · split <;> exact ⟨rfl, rfl⟩
  · exact ⟨rfl, rfl⟩

/-- Three actions open the menus that lead to the choice of a setup. -/
theorem after_openings (place : w.place = .portMenu board)
    (offered : w.topology.offers board port setup = true) :
    ∃ w' front, w.after ((portActions port setup).take 3) = w' ∧
      w'.place = .linkBoosterMenu board port setup.sensor setup.lanes ∧
      w'.outer = front ++ w.current :: w.outer ∧
      w'.topology = w.topology ∧ w'.selection = w.selection := by
  have lanes := Topology.mem_lanes_of_offers offered
  have sensor := Topology.mem_sensors_of_mem_lanes lanes
  let w1 := w.quiet.opening (.sensorMenu board port)
  let w2 := w1.quiet.opening (.laneMenu board port setup.sensor)
  let w3 := w2.quiet.opening (.linkBoosterMenu board port setup.sensor setup.lanes)
  have first : w.activate (.openPort port) = (w1, .ok .pending) :=
    activate_of_opens? (by rw [place]; rfl) (Topology.mem_ports_of_offers offered)
  have second : w1.activate (.openSensor setup.sensor) = (w2, .ok .pending) :=
    activate_of_opens? rfl sensor
  have third : w2.activate (.openLanes setup.lanes) = (w3, .ok .pending) :=
    activate_of_opens? rfl lanes
  refine ⟨w3, [w2.current, w1.current], ?_, rfl, rfl, rfl, rfl⟩
  show (((w.activate (.openPort port)).1.activate (.openSensor setup.sensor)).1.activate
    (.openLanes setup.lanes)).1 = _
  rw [first, second, third]

/-- Four actions set up a port and lead back to the port menu. -/
theorem AtPorts.after_portActions {pending : Option Selection} (h : AtPorts t w board pending)
    (same : ∀ s, pending = some s → s.board = board)
    (offered : t.offers board port setup = true) :
    AtPorts t (w.after (portActions port setup)) board
      (some ((pending.getD (.ofBoard board)).insert port setup)) := by
  have offered' : w.topology.offers board port setup = true := h.invariant.topology ▸ offered
  obtain ⟨w', front, opened, menu, behind, topology, selection⟩ := after_openings h.place offered'
  have chosen : w.after (portActions port setup) =
      ((w.after ((portActions port setup).take 3)).activate (.choose setup.linkBooster)).1 := rfl
  obtain ⟨current, outer⟩ := frames_storePort w'.quiet board port setup
  have frames : (w'.quiet.storePort board port setup).current ::
      (w'.quiet.storePort board port setup).outer =
        (w'.current :: front) ++ w.current :: w.outer := by
    rw [current, outer, List.cons_append, ← behind]
    rfl
  have two : w.outer.length + 1 = 2 := by
    have := congrArg List.length h.invariant.behind
    rw [h.place, List.length_map] at this
    rw [this]
    rfl
  rw [opened, activate_choose menu (topology ▸ offered')] at chosen
  rw [closedTo_of_append frames two] at chosen
  refine ⟨h.invariant.after _, ?_, ?_⟩
  · rw [chosen]
    exact h.place
  · have pending' : w'.quiet.selection = pending := selection.trans h.selection
    rw [chosen, ← pending']
    exact selection_storePort w'.quiet setup (pending' ▸ same)

theorem AtPorts.after_ports {s : Selection} (h : AtPorts t w board (some s))
    (same : s.board = board) {es : List (String × PortSetup)}
    (offered : ∀ e ∈ es, t.offers board e.1 e.2 = true) :
    AtPorts t (w.after (es.flatMap fun e => portActions e.1 e.2)) board
      (some (es.foldl (fun s e => s.insert e.1 e.2) s)) := by
  induction es generalizing w s with
  | nil => exact h
  | cons e es ih =>
    have next := h.after_portActions (fun _ hs => Option.some.inj hs ▸ same)
      (offered e List.mem_cons_self)
    have := ih next same fun d hd => offered d (List.mem_cons_of_mem e hd)
    rwa [List.flatMap_cons, after_append]

/-! ### From the start to a save -/

theorem atPorts_openBoard (capacity : Nat) (listed : board ∈ t.boards.keys) :
    AtPorts t ((start t capacity).after [.action (.openBoard board)]) board none := by
  have opened : (start t capacity).activate (.openBoard board) =
      ((start t capacity).quiet.opening (.portMenu board), .ok .pending) :=
    activate_of_opens? rfl listed
  have reached : (start t capacity).after [.action (.openBoard board)] =
      (start t capacity).quiet.opening (.portMenu board) := congrArg Prod.fst opened
  refine ⟨(invariant_start t capacity).after _, ?_, ?_⟩ <;> rw [reached] <;> rfl

theorem AtPorts.after_back {pending : Option Selection} (h : AtPorts t w board pending) :
    (w.after [.action .back]).place = .topLevel ∧
      (w.after [.action .back]).selection = pending := by
  have behind := h.invariant.behind
  rw [h.place] at behind
  obtain ⟨frame, rest, outer, top, -⟩ := List.map_eq_cons_iff.mp behind
  have closed : w.after [.action .back] = { w.quiet with current := frame, outer := rest } := by
    show (w.quiet.goBack).1 = _
    rw [goBack, show w.quiet.outer = frame :: rest from outer]
  rw [closed]
  exact ⟨top, h.selection⟩

theorem foldl_insert (es : List (String × PortSetup)) (s : Selection) :
    es.foldl (fun s e => s.insert e.1 e.2) s =
      ⟨s.board, es.foldl (fun m e => m.insert e.1 e.2) s.ports⟩ := by
  induction es generalizing s with
  | nil => rfl
  | cons e es ih => exact ih _

/-- The steps that set up the ports of a selection and lead back to the top-level menu. -/
def stepsFor (s : Selection) : List Step :=
  [.action (.openBoard s.board)] ++ (s.ports.toList.flatMap fun e => portActions e.1 e.2) ++
    [.action .back]

theorem atPorts_of_offeredBy {s : Selection} (offered : s.OfferedBy t) (capacity : Nat) :
    AtPorts t ((start t capacity).after ([.action (.openBoard s.board)] ++
      s.ports.toList.flatMap fun e => portActions e.1 e.2)) s.board (some s) := by
  have opened := atPorts_openBoard capacity offered.board
  have setups : ∀ e ∈ s.ports.toList, t.offers s.board e.1 e.2 = true := fun e he =>
    offered.setups e.1 e.2 (SortedMap.get?_eq_some_iff.mpr he)
  have whole : s.ports.toList.foldl (fun s e => s.insert e.1 e.2) (.ofBoard s.board) = s := by
    rw [foldl_insert]
    exact congrArg (Selection.mk s.board) (SortedMap.ofList_toList s.ports)
  rw [after_append]
  cases entries : s.ports.toList with
  | nil =>
    have := SortedMap.isEmpty_iff.mpr entries
    rw [← Selection.isEmpty, offered.nonempty] at this
    cases this
  | cons e es =>
    -- The first port is set up with nothing pending, the others with the board pending.
    rw [entries] at setups whole
    have first := opened.after_portActions (fun _ hs => nomatch hs) (setups e List.mem_cons_self)
    have all := first.after_ports rfl fun d hd => setups d (List.mem_cons_of_mem e hd)
    rw [List.flatMap_cons, after_append]
    rw [List.foldl_cons] at whole
    rwa [Option.getD_none, whole] at all

/-- Every selection that a topology offers is handed out after some steps. -/
theorem commit_after_stepsFor {s : Selection} (offered : s.OfferedBy t) (capacity : Nat)
    (reboot : Bool) :
    (((start t capacity).after (stepsFor s)).step
      (.action (if reboot then .saveAndReboot else .saveOnly))).2 = .ok (.commit ⟨s, reboot⟩) := by
  have back := (atPorts_of_offeredBy offered capacity).after_back
  rw [← after_append] at back
  exact activate_save back.1 back.2 offered.nonempty reboot

end CameraSetup.Wizard
