import CameraSetup.Proofs.Topology.Offered
import CameraSetup.Proofs.Wizard.Activation
import Mathlib.Data.List.Chain

/-! What holds of every wizard that a run reaches, whatever its steps are and come to. The open
menus lead from the top-level menu to the one in front, each for something that the topology lists,
and what is pending, and so what is handed out, is a selection that the topology offers. -/

namespace CameraSetup.Wizard

/-- How deep a menu lies: the top-level menu at 0, the link booster menu at 4. -/
def Place.level : Place → Nat
  | .topLevel => 0
  | .portMenu _ => 1
  | .sensorMenu _ _ => 2
  | .laneMenu _ _ _ => 3
  | .linkBoosterMenu _ _ _ _ => 4

/-- The open menus are a way down from the top-level menu through what a topology lists, and the
topology offers what is pending. -/
structure Sound (t : Topology) (w : Wizard) : Prop where
  topology : w.topology = t
  depth : 1 ≤ w.stack.length ∧ w.stack.length ≤ 5
  bottom : w.stack.head?.map (·.place) = some .topLevel
  levels : w.stack.map (·.place.level) = List.range w.stack.length
  nested : w.stack.IsChain fun outer inner => inner.place.behind = outer.place :: outer.place.behind
  listed : ∀ frame ∈ w.stack, frame.place.IsListed t
  selection : ∀ s, w.selection = some s → s.OfferedBy t

/-- What each step keeps, from which `Sound` follows: the menu in front decides which menus are open
behind it. -/
structure Invariant (t : Topology) (w : Wizard) : Prop where
  topology : w.topology = t
  behind : w.outer.map (·.place) = w.place.behind
  listed : w.place.IsListed t
  selection : ∀ s, w.selection = some s → s.OfferedBy t

/-! ### Menus behind a menu -/

theorem Place.behind_of_suffix {p q : Place} {rest : List Place}
    (h : (q :: rest) <:+ (p :: p.behind)) : q.behind = rest := by
  rcases List.suffix_cons_iff.mp h with h | h
  · cases h
    rfl
  · cases p with
    | topLevel => simp [Place.behind] at h
    | portMenu board => exact behind_of_suffix (p := .topLevel) h
    | sensorMenu board port => exact behind_of_suffix (p := .portMenu board) h
    | laneMenu board port sensor => exact behind_of_suffix (p := .sensorMenu board port) h
    | linkBoosterMenu board port sensor lanes =>
      exact behind_of_suffix (p := .laneMenu board port sensor) h
termination_by p.level
decreasing_by all_goals simp_all [Place.level]

theorem Place.IsListed.behind {t : Topology} {p : Place} (h : p.IsListed t) :
    ∀ q ∈ p.behind, q.IsListed t := by
  cases p with
  | topLevel => simp [Place.behind]
  | portMenu board => simp [Place.behind, IsListed]
  | sensorMenu board port =>
    have hboard := Topology.mem_boards_of_mem_ports h
    simp [Place.behind, IsListed, hboard]
  | laneMenu board port sensor =>
    have hport := Topology.mem_ports_of_mem_sensors h
    have hboard := Topology.mem_boards_of_mem_ports hport
    simp [Place.behind, IsListed, hport, hboard]
  | linkBoosterMenu board port sensor lanes =>
    have hsensor := Topology.mem_sensors_of_mem_lanes h
    have hport := Topology.mem_ports_of_mem_sensors hsensor
    have hboard := Topology.mem_boards_of_mem_ports hport
    simp [Place.behind, IsListed, hsensor, hport, hboard]

theorem Place.levels_trail (p : Place) :
    (p :: p.behind).reverse.map level = List.range (p.behind.length + 1) := by
  cases p <;> rfl

theorem Place.isChain_trail (p : Place) :
    (p :: p.behind).reverse.IsChain fun outer inner => inner.behind = outer :: outer.behind := by
  cases p <;> simp [Place.behind]

theorem Place.head?_trail (p : Place) : (p :: p.behind).reverse.head? = some .topLevel := by
  cases p <;> rfl

theorem Place.length_behind_le (p : Place) : p.behind.length ≤ 4 := by
  cases p <;> simp [Place.behind]

/-! ### From the invariant to soundness -/

variable {t : Topology} {w : Wizard}

theorem Invariant.stack_places (h : Invariant t w) :
    w.stack.map (·.place) = (w.place :: w.place.behind).reverse := by
  rw [stack, List.map_reverse, List.map_cons, h.behind]
  rfl

theorem Invariant.length_stack (h : Invariant t w) :
    w.stack.length = w.place.behind.length + 1 := by
  simpa using congrArg List.length h.stack_places

theorem Invariant.sound (h : Invariant t w) : Sound t w where
  topology := h.topology
  depth := by
    have := w.place.length_behind_le
    rw [h.length_stack]
    omega
  bottom := by rw [← List.head?_map, h.stack_places, Place.head?_trail]
  levels := by
    have := Place.levels_trail w.place
    rw [← h.stack_places, List.map_map, ← h.length_stack] at this
    exact this
  nested := by
    have := Place.isChain_trail w.place
    rw [← h.stack_places, List.isChain_map] at this
    exact this
  listed := by
    intro frame mem
    have mem' : frame.place ∈ w.place :: w.place.behind := by
      rw [← List.mem_reverse, ← h.stack_places]
      exact List.mem_map_of_mem mem
    rcases List.mem_cons.mp mem' with front | back
    · exact front ▸ h.listed
    · exact h.listed.behind _ back
  selection := h.selection

/-! ### What the steps keep -/

theorem invariant_start (t : Topology) (capacity : Nat) : Invariant t (start t capacity) :=
  ⟨rfl, rfl, trivial, fun _ h => nomatch h⟩

/-- Cursors, notice and page capacity play no part in the invariant. -/
theorem Invariant.congr (h : Invariant t w) {w' : Wizard} (topology : w'.topology = w.topology)
    (place : w'.place = w.place) (outer : w'.outer = w.outer)
    (selection : w'.selection = w.selection) : Invariant t w' :=
  ⟨topology.trans h.topology, by rw [outer, place, h.behind], place ▸ h.listed,
    fun s hs => h.selection s (selection ▸ hs)⟩

theorem Invariant.quiet (h : Invariant t w) : Invariant t w.quiet := h.congr rfl rfl rfl rfl

theorem Invariant.atCursor (h : Invariant t w) (page row : Nat) :
    Invariant t (w.atCursor page row) :=
  h.congr rfl rfl rfl rfl

theorem Invariant.closed (h : Invariant t w) {frame : Frame} {rest : List Frame}
    (suffix : (frame :: rest) <:+ (w.current :: w.outer)) :
    Invariant t { w with current := frame, outer := rest } := by
  have places : (frame.place :: rest.map (·.place)) <:+ (w.place :: w.place.behind) := by
    have := suffix.map (·.place)
    rwa [List.map_cons, List.map_cons, h.behind] at this
  refine ⟨h.topology, (Place.behind_of_suffix places).symm, ?_, h.selection⟩
  show frame.place.IsListed t
  rcases List.mem_cons.mp (places.mem List.mem_cons_self) with front | back
  · exact front ▸ h.listed
  · exact h.listed.behind _ back

theorem Invariant.closedTo (h : Invariant t w) (depth : Nat) : Invariant t (w.closedTo depth) := by
  unfold Wizard.closedTo
  dsimp only
  split
  · exact h
  · next frames => exact h.closed (frames ▸ List.drop_suffix _ _)

theorem Invariant.opening (h : Invariant t w) {action : Action} {place : Place}
    (opens : w.place.opens? action = some place) (listed : place.IsListed w.topology) :
    Invariant t (w.opening place) := by
  refine ⟨h.topology, ?_, h.topology ▸ listed, h.selection⟩
  show w.place :: w.outer.map (·.place) = place.behind
  rw [h.behind, Place.behind_of_opens? opens]

theorem Invariant.withSelection (h : Invariant t w) {w' : Wizard}
    (topology : w'.topology = w.topology) (place : w'.place = w.place)
    (outer : w'.outer = w.outer) (selection : ∀ s, w'.selection = some s → s.OfferedBy t) :
    Invariant t w' :=
  ⟨topology.trans h.topology, by rw [outer, place, h.behind], place ▸ h.listed, selection⟩

theorem Invariant.storePort (h : Invariant t w) {board : BoardId} {port : String}
    {setup : PortSetup} (offered : t.offers board port setup = true) :
    Invariant t (w.storePort board port setup) := by
  unfold Wizard.storePort
  cases hw : w.selection with
  | none =>
    exact h.withSelection rfl rfl rfl fun s hs =>
      Option.some.inj hs ▸ Selection.offeredBy_ofBoard_insert offered
  | some pending =>
    dsimp only
    split
    · next same =>
      subst same
      exact h.withSelection rfl rfl rfl fun s hs =>
        Option.some.inj hs ▸ (h.selection _ hw).insert offered
    · exact h.withSelection rfl rfl rfl fun s hs =>
        Option.some.inj hs ▸ Selection.offeredBy_ofBoard_insert offered

theorem Invariant.dropPort (h : Invariant t w) (board : BoardId) (port : String) :
    Invariant t (w.dropPort board port) := by
  unfold Wizard.dropPort
  cases hw : w.selection with
  | none => exact h
  | some pending =>
    dsimp only
    split
    · refine h.withSelection rfl rfl rfl fun s hs => ?_
      dsimp only at hs
      split at hs
      · cases hs
      · next left =>
        cases hs
        exact (h.selection _ hw).erase (Bool.eq_false_iff.mpr left)
    · exact h

theorem Invariant.reset (h : Invariant t w) : Invariant t w.reset :=
  (h.closedTo 1).congr rfl rfl rfl rfl

theorem Invariant.emptied (h : Invariant t w) (notice : Option Notice) :
    Invariant t { w.reset with selection := none, notice } :=
  h.reset.withSelection rfl rfl rfl fun _ hs => nomatch hs

theorem Invariant.handOut (h : Invariant t w) (reboot : Bool) :
    Invariant t (w.handOut reboot).1 := by
  unfold Wizard.handOut
  split
  · split
    · exact h.emptied _
    · exact h.emptied _
  · exact h.emptied _

theorem Invariant.activate (h : Invariant t w) (action : Action) :
    Invariant t (w.activate action).1 := by
  generalize hr : w.activate action = result
  cases hr ▸ activated w action with
  | refused => exact h.quiet
  | closed behind => exact h.quiet.closed (behind ▸ List.suffix_cons _ _)
  | opened opens listed => exact h.quiet.opening opens listed
  | stored here offered => exact (h.quiet.storePort (h.topology ▸ offered)).closedTo 2
  | cleared here => exact (h.quiet.dropPort _ _).closedTo 2
  | handedOut => exact h.quiet.handOut _
  | discarded => exact h.quiet.emptied _
  | left => exact h.quiet

theorem Invariant.press (h : Invariant t w) (key : Key) : Invariant t (w.press key).1 := by
  generalize hr : w.press key = result
  cases hr ▸ pressed w key with
  | noRoom => exact h
  | moved page row => exact h.atCursor page row
  | entered => exact (h.atCursor _ _).activate _
  | closed => exact (h.atCursor _ _).activate _
  | interrupted => exact h.atCursor _ _

theorem Invariant.step (h : Invariant t w) (s : Step) : Invariant t (w.step s).1 := by
  cases s with
  | key key => exact h.press key
  | action action => exact h.activate action
  | pageCapacity capacity => exact h.congr rfl rfl rfl rfl

theorem Invariant.after (h : Invariant t w) (steps : List Step) : Invariant t (w.after steps) := by
  induction steps generalizing w with
  | nil => exact h
  | cons s steps ih => exact ih (h.step s)

/-! ### What is handed out -/

theorem selection_of_handOut {reboot : Bool} {request : SaveRequest}
    (h : (w.handOut reboot).2 = .ok (.commit request)) :
    w.selection = some request.selection ∧ request.reboot = reboot := by
  unfold handOut at h
  dsimp only at h
  split at h
  · next s hs =>
    split at h
    · simp at h
    · simp only [Except.ok.injEq, Outcome.commit.injEq] at h
      subst h
      exact ⟨hs, rfl⟩
  · simp at h

/-- What an action hands out was pending, and was asked for in the top-level menu. -/
theorem selection_of_activate {action : Action} {request : SaveRequest}
    (h : (w.activate action).2 = .ok (.commit request)) :
    w.selection = some request.selection ∧ action.saves? = some request.reboot := by
  generalize hr : w.activate action = result at h
  cases hr ▸ activated w action with
  | handedOut top saves =>
    obtain ⟨pending, reboot⟩ := selection_of_handOut h
    exact ⟨pending, reboot ▸ saves⟩
  | _ => simp at h

theorem selection_of_step {s : Step} {request : SaveRequest}
    (h : (w.step s).2 = .ok (.commit request)) : w.selection = some request.selection := by
  cases s with
  | key key =>
    change (w.press key).2 = _ at h
    generalize hr : w.press key = result at h
    cases hr ▸ pressed w key with
    | entered shown enter under => exact (selection_of_activate h).1
    | closed shown back deep => exact (selection_of_activate h).1
    | _ => simp at h
  | action action => exact (selection_of_activate h).1
  | pageCapacity => simp [step] at h

/-- However a wizard is used, its open menus lead down from the top-level menu through what its
topology lists, and what is pending or handed out is a selection that the topology offers. -/
theorem sound_after (t : Topology) (capacity : Nat) (steps : List Step) :
    Sound t ((start t capacity).after steps) ∧
      ∀ (s : Step) (request : SaveRequest),
        (((start t capacity).after steps).step s).2 = .ok (.commit request) →
          request.selection.OfferedBy t := by
  have h := (invariant_start t capacity).after steps
  exact ⟨h.sound, fun s request handed => h.selection _ (selection_of_step handed)⟩

/-- One run sets up a port with keys alone, and then its selection is saved. -/
theorem sound_after_keys : ∃ t request,
    Topology.ofDescriptors .wide ["Tag FPA-1.2", "Tag imx900-p0-4Lane", "Tag GMSL-P0"] = .ok t ∧
    (((start t 15).after ([.enter, .enter, .enter, .enter, .down, .enter, .back].map .key)).step
      (.action .saveAndReboot)).2 = .ok (.commit request) ∧
    request.selection.get? "p0" = some ⟨"imx900", 4, .present⟩ ∧
    request.selection.OfferedBy t := by
  have run : ∃ t request,
      Topology.ofDescriptors .wide ["Tag FPA-1.2", "Tag imx900-p0-4Lane", "Tag GMSL-P0"] = .ok t ∧
      (((start t 15).after ([.enter, .enter, .enter, .enter, .down, .enter, .back].map .key)).step
        (.action .saveAndReboot)).2 = .ok (.commit request) ∧
      request.selection.get? "p0" = some ⟨"imx900", 4, .present⟩ := ⟨_, _, rfl, rfl, rfl⟩
  obtain ⟨t, request, built, handed, setup⟩ := run
  exact ⟨t, request, built, handed, setup, (sound_after t 15 _).2 _ request handed⟩

end CameraSetup.Wizard
