import CameraSetup.Proofs.Wizard.Reach
import CameraSetup.Proofs.Wizard.Shown

/-! Which actions a wizard carries out. In every wizard that a run reaches they are those on the
rows of the menu in front, and at the top level also those that save or discard, which have rows
only while something is pending. Any other action is refused and changes nothing but the notice. So
no key is ever refused. -/

namespace CameraSetup.Wizard

open Menu (Entry Paged)

variable {t : Topology} {w : Wizard} {menu : Paged Action} {action : Action}

/-- The wizard carries out an action. -/
def Accepts (w : Wizard) (action : Action) : Prop := ∃ outcome, (w.activate action).2 = .ok outcome

/-- The menu in front has a row with an action, among its choices or below them. -/
def HasRow (w : Wizard) (action : Action) : Prop :=
  ∃ e, (e ∈ w.entries ∨ e ∈ w.footer) ∧ e.action = some action

/-- The actions that the top-level menu takes with or without a row. -/
def Action.settling : List Action := [.saveAndReboot, .saveOnly, .discardAll]

theorem carries_iff (shown : w.menu = .ok menu) : menu.Carries action ↔ w.HasRow action :=
  Paged.carries_layOut shown

/-! ### Rows below the choices -/

theorem hasRow_exit (top : w.place = .topLevel) : w.HasRow .exit := by
  refine ⟨.ofAction "Exit" .exit, .inr ?_, rfl⟩
  simp [footer, top]

theorem hasRow_back (deep : w.place ≠ .topLevel) : w.HasRow .back := by
  refine ⟨.ofAction "Back" .back, .inr ?_, rfl⟩
  unfold footer
  split
  · exact absurd ‹_› deep
  · simp
  · simp

theorem hasRow_clearPort {board : BoardId} {port : String}
    (here : w.place.port? = some (board, port)) : w.HasRow .clearPort := by
  refine ⟨.ofAction "None" .clearPort, .inr ?_, rfl⟩
  unfold footer
  cases place : w.place with
  | topLevel | portMenu => rw [place] at here; cases here
  | sensorMenu | laneMenu | linkBoosterMenu => simp

/-! ### What is carried out has a row -/

theorem Invariant.deep_of_outer (h : Invariant t w) {frame : Frame} {rest : List Frame}
    (behind : w.outer = frame :: rest) : w.place ≠ .topLevel := by
  intro top
  have := h.behind
  rw [behind, top] at this
  cases this

theorem mem_settling_of_saves? {reboot : Bool} (saves : action.saves? = some reboot) :
    action ∈ Action.settling := by
  cases action with
  | saveAndReboot | saveOnly | discardAll => decide
  | openBoard | openPort | openSensor | openLanes | choose | clearPort | back | exit => cases saves

theorem Invariant.hasRow_of_accepts (h : Invariant t w) (accepted : w.Accepts action) :
    w.HasRow action ∨ w.place = .topLevel ∧ action ∈ Action.settling := by
  obtain ⟨outcome, ok⟩ := accepted
  generalize hr : w.activate action = result at ok
  cases hr ▸ activated w action with
  | refused => cases ok
  | closed behind => exact .inl (hasRow_back (h.deep_of_outer behind))
  | opened opens listed =>
    obtain ⟨e, mem, acts⟩ := exists_entry_of_opens? opens listed
    exact .inl ⟨e, .inl mem, acts⟩
  | stored here offered =>
    obtain ⟨e, mem, acts⟩ := exists_entry_choose here offered
    exact .inl ⟨e, .inl mem, acts⟩
  | cleared here => exact .inl (hasRow_clearPort here)
  | handedOut top saves => exact .inr ⟨top, mem_settling_of_saves? saves⟩
  | discarded top => exact .inr ⟨top, by decide⟩
  | left top => exact .inl (hasRow_exit top)

/-! ### What has a row is carried out -/

theorem accepts_of_act (outcome : Outcome) (other : action ≠ .back)
    (ok : (w.quiet.act action).2 = .ok outcome) : w.Accepts action :=
  ⟨outcome, (congrArg Prod.snd (activate_of_ne_back other)).trans ok⟩

theorem accepts_settling (top : w.place = .topLevel) (mem : action ∈ Action.settling) :
    w.Accepts action := by
  have here : w.quiet.place = .topLevel := top
  simp only [Action.settling, List.mem_cons, List.not_mem_nil, or_false] at mem
  rcases mem with rfl | rfl | rfl
  · obtain ⟨outcome, ok⟩ := exists_outcome_handOut w.quiet true
    exact accepts_of_act outcome (by decide) (by rw [act.eq_def, here]; exact ok)
  · obtain ⟨outcome, ok⟩ := exists_outcome_handOut w.quiet false
    exact accepts_of_act outcome (by decide) (by rw [act.eq_def, here]; exact ok)
  · exact accepts_of_act .pending (by decide) (by rw [act.eq_def, here])

theorem accepts_exit (top : w.place = .topLevel) : w.Accepts .exit := by
  have here : w.quiet.place = .topLevel := top
  exact accepts_of_act .exit nofun (by rw [act.eq_def, here])

theorem accepts_clearPort {board : BoardId} {port : String}
    (here : w.place.port? = some (board, port)) : w.Accepts .clearPort := by
  have quiet : w.quiet.place = w.place := rfl
  refine accepts_of_act .pending nofun ?_
  rw [act.eq_def, quiet]
  cases place : w.place with
  | topLevel | portMenu => rw [place] at here; cases here
  | sensorMenu | laneMenu | linkBoosterMenu => rfl

theorem accepts_back {frame : Frame} {rest : List Frame} (behind : w.outer = frame :: rest) :
    w.Accepts .back := by
  have quiet : w.quiet.outer = frame :: rest := behind
  have closing : w.quiet.goBack =
      ({ w.quiet with current := frame, outer := rest }, .ok .pending) := by
    rw [goBack.eq_def, quiet]
  exact ⟨.pending, congrArg Prod.snd ((if_pos rfl).trans closing)⟩

theorem Invariant.accepts_back_of_deep (h : Invariant t w) (deep : w.place ≠ .topLevel) :
    w.Accepts .back := by
  cases behind : w.outer with
  | cons frame rest => exact accepts_back behind
  | nil =>
    -- Only the top-level menu has no menu behind it.
    have none := h.behind
    rw [behind] at none
    cases place : w.place with
    | topLevel => exact absurd place deep
    | portMenu | sensorMenu | laneMenu | linkBoosterMenu => rw [place] at none; cases none

theorem accepts_opening (place : Place) (opens : w.place.opens? action = some place)
    (listed : place.IsListed w.topology) : w.Accepts action :=
  ⟨_, congrArg Prod.snd (activate_of_opens? opens listed)⟩

theorem accepts_of_entry {e : Entry Action} (mem : e ∈ w.entries) (acts : e.action = some action) :
    w.Accepts action := by
  unfold entries at mem
  split at mem
  · next top =>
    obtain ⟨board, listed, rfl⟩ := List.mem_map.mp mem
    cases acts
    exact accepts_opening (.portMenu board) (by rw [top]; rfl) listed
  · next board here =>
    obtain ⟨port, listed, rfl⟩ := List.mem_map.mp mem
    cases acts
    exact accepts_opening (.sensorMenu board port) (by rw [here]; rfl) listed
  · next board port here =>
    obtain ⟨sensor, listed, rfl⟩ := List.mem_map.mp mem
    cases acts
    exact accepts_opening (.laneMenu board port sensor) (by rw [here]; rfl) listed
  · next board port sensor here =>
    obtain ⟨lanes, listed, rfl⟩ := List.mem_map.mp mem
    cases acts
    exact accepts_opening (.linkBoosterMenu board port sensor lanes) (by rw [here]; rfl)
      listed
  · next board port sensor lanes here =>
    obtain ⟨linkBooster, listed, rfl⟩ := List.mem_map.mp mem
    cases acts
    have offered : w.topology.offers board port ⟨sensor, lanes, linkBooster⟩ = true :=
      Topology.offers_iff.mpr listed
    have chosen := @activate_choose w board port ⟨sensor, lanes, linkBooster⟩ here offered
    exact ⟨_, congrArg Prod.snd chosen⟩

theorem Invariant.accepts_of_footer (h : Invariant t w) {e : Entry Action} (mem : e ∈ w.footer)
    (acts : e.action = some action) : w.Accepts action := by
  unfold footer at mem
  split at mem
  · next top =>
    simp only [List.cons_append, List.mem_cons, List.mem_append, List.not_mem_nil, or_false] at mem
    rcases mem with rfl | saves | rfl
    · cases acts
    · refine accepts_settling top ?_
      split at saves
      · simp only [saveEntries, List.mem_cons, List.not_mem_nil, or_false] at saves
        rcases saves with rfl | rfl | rfl <;> cases acts <;> decide
      · cases saves
    · cases acts
      exact accepts_exit top
  · next here =>
    simp only [List.mem_cons, List.not_mem_nil, or_false] at mem
    rcases mem with rfl | rfl
    · cases acts
    · cases acts
      exact h.accepts_back_of_deep (by simp [here])
  · next top port =>
    have deep : w.place ≠ .topLevel := top
    simp only [List.mem_cons, List.not_mem_nil, or_false] at mem
    rcases mem with rfl | rfl | rfl
    · cases acts
      cases place : w.place with
      | topLevel => exact absurd place deep
      | portMenu board => exact absurd place (port board)
      | sensorMenu | laneMenu | linkBoosterMenu => exact accepts_clearPort (by rw [place]; rfl)
    · cases acts
    · cases acts
      exact h.accepts_back_of_deep deep

theorem Invariant.accepts_of_hasRow (h : Invariant t w) (row : w.HasRow action) :
    w.Accepts action := by
  obtain ⟨e, mem | mem, acts⟩ := row
  · exact accepts_of_entry mem acts
  · exact h.accepts_of_footer mem acts

theorem Invariant.accepts_iff (h : Invariant t w) :
    w.Accepts action ↔ w.HasRow action ∨ w.place = .topLevel ∧ action ∈ Action.settling :=
  ⟨h.hasRow_of_accepts, fun either =>
    either.elim h.accepts_of_hasRow fun settling => accepts_settling settling.1 settling.2⟩

/-! ### Refusals -/

/-- What is not carried out is refused, and only the notice is cleared. -/
theorem activate_of_not_accepts (refused : ¬ w.Accepts action) :
    ∃ refusal, w.activate action = ({ w with notice := none }, .error (.refused refusal)) := by
  cases came : (w.activate action).2 with
  | ok outcome => exact absurd ⟨outcome, came⟩ refused
  | error error =>
    obtain ⟨refusal, -, left⟩ := activate_of_error came
    exact ⟨refusal, left⟩

theorem Invariant.press_not_refused (h : Invariant t w) (key : Key) (refusal : Refusal) :
    (w.press key).2 ≠ .error (.refused refusal) := by
  intro failed
  generalize hr : w.press key = result at failed
  cases hr ▸ pressed w key with
  | noRoom | moved | interrupted => cases failed
  | @entered menu action shown enter under =>
    have settled : Invariant t (w.settled menu) := h.atCursor _ _
    obtain ⟨outcome, ok⟩ := settled.accepts_of_hasRow
      ((carries_iff shown).mp (Paged.carries_of_action? under))
    rw [ok] at failed
    cases failed
  | @closed menu shown back deep =>
    have behind : (w.settled menu).outer ≠ [] := by
      intro none
      rw [depth, show w.outer = [] from none] at deep
      exact absurd deep (by decide)
    obtain ⟨frame, rest, behind⟩ := List.exists_cons_of_ne_nil behind
    obtain ⟨outcome, ok⟩ := accepts_back behind
    rw [ok] at failed
    cases failed

/-- With enough rows on a page, a wizard carries out exactly the actions that its menu carries, and
at the top level those that save or discard; any other is refused, which clears the notice and
changes nothing else. No key is refused, whatever room a page has. -/
theorem accepts_iff_carries (t : Topology) (capacity : Nat) (steps : List Step) :
    let w := (start t capacity).after steps
    (leastCapacity ≤ w.pageCapacity → ∃ menu, w.menu = .ok menu ∧ ∀ action,
      ((∃ outcome, (w.activate action).2 = .ok outcome) ↔ menu.Carries action ∨
        w.place = .topLevel ∧ action ∈ [.saveAndReboot, .saveOnly, .discardAll]) ∧
      (¬ (menu.Carries action ∨
          w.place = .topLevel ∧ action ∈ [.saveAndReboot, .saveOnly, .discardAll]) →
        ∃ refusal, w.activate action = ({ w with notice := none }, .error (.refused refusal)))) ∧
    ∀ key refusal, (w.press key).2 ≠ .error (.refused refusal) := by
  intro w
  have h : Invariant t w := (invariant_start t capacity).after steps
  refine ⟨fun enough => ?_, h.press_not_refused⟩
  obtain ⟨menu, shown⟩ := exists_menu enough
  refine ⟨menu, shown, fun action => ?_⟩
  have accepts : w.Accepts action ↔ menu.Carries action ∨
      w.place = .topLevel ∧ action ∈ Action.settling := by
    rw [carries_iff shown]
    exact h.accepts_iff
  exact ⟨accepts, fun other => activate_of_not_accepts (mt accepts.mp other)⟩

/-- On the least pages, the port menu takes its port; it does not save, though the top-level menu
would. -/
theorem accepts_iff_carries_at_ports : ∃ t menu,
    Topology.ofDescriptors .wide ["Tag FPA-1.2", "Tag imx900-P0-4Lane"] = .ok t ∧
    leastCapacity ≤ ((start t 8).after [.key .enter]).pageCapacity ∧
    ((start t 8).after [.key .enter]).menu = .ok menu ∧ menu.Carries (.openPort "P0") ∧
    (∃ outcome, (((start t 8).after [.key .enter]).activate (.openPort "P0")).2 = .ok outcome) ∧
    ¬ menu.Carries .saveOnly ∧
    ∃ refusal, ((start t 8).after [.key .enter]).activate .saveOnly =
      ({ (start t 8).after [.key .enter] with notice := none }, .error (.refused refusal)) := by
  have run : ∃ t menu,
      Topology.ofDescriptors .wide ["Tag FPA-1.2", "Tag imx900-P0-4Lane"] = .ok t ∧
      ((start t 8).after [.key .enter]).menu = .ok menu ∧ menu.Carries (.openPort "P0") ∧
      ¬ menu.Carries .saveOnly ∧ ((start t 8).after [.key .enter]).pageCapacity = 8 ∧
      ((start t 8).after [.key .enter]).place ≠ .topLevel :=
    ⟨_, _, rfl, rfl, by decide, by decide, rfl, by decide⟩
  obtain ⟨t, menu, built, shown, port, save, capacity, deep⟩ := run
  have enough : leastCapacity ≤ ((start t 8).after [.key .enter]).pageCapacity := capacity.ge
  obtain ⟨menu', shown', accepts⟩ := (accepts_iff_carries t 8 [.key .enter]).1 enough
  cases Except.ok.inj (shown.symm.trans shown')
  refine ⟨t, menu, built, enough, shown, port, (accepts _).1.mpr (.inl port), save,
    (accepts _).2 ?_⟩
  rintro (row | ⟨top, -⟩)
  · exact save row
  · exact deep top

end CameraSetup.Wizard
