import CameraSetup.Proofs.Wizard.Reach

/-! What becomes of pending setups. A step carries out at most one action, and an action leaves what
is pending as it is unless it stores a setup, clears a port, saves, or discards. Main statement: a
setup that is pending stays so in every step, or the step says by its action, by what it hands out
or by its notice where the setup went. -/

namespace CameraSetup.Wizard

open Menu (Paged)

variable {t : Topology} {w : Wizard} {s : Step} {selection : Selection} {board : BoardId}
  {port : String} {setup : PortSetup} {action : Action}

/-! ### The action of a step -/

/-- The action that a step carries out, if it does: on a menu that can be laid out, the enter key
carries out that of the row under the cursor, and the back key closes the menu if it is not the
last. -/
def Step.action? (w : Wizard) : Step → Option Action
  | .key typed =>
    match w.menu with
    | .error _ => none
    | .ok menu =>
      match typed with
      | .enter => (menu.entry? (w.cursor menu).1 (w.cursor menu).2).bind (·.action)
      | .back => if 1 < w.depth then some .back else none
      | _ => none
  | .action asked => some asked
  | .pageCapacity _ => none

/-- A step carries out its action, with the cursor put somewhere before, or changes nothing of what
is pending. -/
theorem step_cases (w : Wizard) (s : Step) :
    (∃ action page row, s.action? w = some action ∧
      w.step s = (w.atCursor page row).activate action) ∨
    s.action? w = none ∧ (w.step s).1.selection = w.selection := by
  cases s with
  | action action => exact .inl ⟨action, w.current.page, w.current.row, rfl, rfl⟩
  | pageCapacity => exact .inr ⟨rfl, rfl⟩
  | key key =>
    change (∃ action page row, _ ∧ w.press key = _) ∨ _ ∧ (w.press key).1.selection = _
    unfold press Step.action?
    cases w.menu with
    | error => exact .inr ⟨rfl, rfl⟩
    | ok menu =>
      dsimp only [pressOn]
      cases key with
      | up | down | interrupt | other => exact .inr ⟨rfl, rfl⟩
      | left | right => dsimp only; split <;> exact .inr ⟨rfl, rfl⟩
      | enter =>
        dsimp only
        split
        · next under => exact .inl ⟨_, _, _, under, rfl⟩
        · next none => exact .inr ⟨none, rfl⟩
      | back =>
        dsimp only
        by_cases deep : 1 < w.depth
        · exact .inl ⟨.back, _, _, if_pos deep, if_pos deep⟩
        · have alone : ¬ 1 < (w.settled menu).depth := deep
          exact .inr ⟨if_neg deep, congrArg (fun r : Wizard × StepResult => r.1.selection)
            (if_neg alone)⟩

/-! ### What is pending for a port -/

theorem pendingSetup?_eq_some_iff : w.pendingSetup? board port = some setup ↔
    ∃ selection, w.selection = some selection ∧ selection.board = board ∧
      selection.get? port = some setup := by
  simp only [pendingSetup?, Option.bind_eq_bind, Option.bind_eq_some_iff]
  constructor
  · rintro ⟨selection, pending, found⟩
    split at found
    · next same => exact ⟨selection, pending, same, found⟩
    · cases found
  · rintro ⟨selection, pending, same, found⟩
    exact ⟨selection, pending, by rwa [if_pos same]⟩

theorem pendingSetup?_congr {w' : Wizard} (same : w'.selection = w.selection) :
    w'.pendingSetup? board port = w.pendingSetup? board port := by
  rw [pendingSetup?, pendingSetup?, same]

/-! ### What actions do to the selection and the notice -/

theorem closedTo_keeps (w : Wizard) (depth : Nat) :
    (w.closedTo depth).selection = w.selection ∧ (w.closedTo depth).notice = w.notice := by
  unfold closedTo
  dsimp only
  split <;> exact ⟨rfl, rfl⟩

/-- The actions that can change what is pending. -/
def Action.touchesPending : Action → Bool
  | .choose _ | .clearPort | .saveAndReboot | .saveOnly | .discardAll => true
  | _ => false

theorem touchesPending_of_opens? {place next : Place} (opens : place.opens? action = some next) :
    action.touchesPending = false := by
  unfold Place.opens? at opens
  split at opens <;> first | rfl | cases opens

theorem touchesPending_of_saves? {reboot : Bool} (saves : action.saves? = some reboot) :
    action.touchesPending = true := by
  cases action <;> first | rfl | cases saves

theorem selection_activate (untouched : action.touchesPending = false) :
    (w.activate action).1.selection = w.selection := by
  generalize hr : w.activate action = result
  cases hr ▸ activated w action with
  | refused | closed | opened | left => rfl
  | stored | cleared | discarded => cases untouched
  | handedOut top saves =>
    rw [touchesPending_of_saves? saves] at untouched
    cases untouched

/-! ### Storing and clearing -/

theorem pendingSetup?_storePort_self (w : Wizard) (board : BoardId) (port : String)
    (setup : PortSetup) : (w.storePort board port setup).pendingSetup? board port = some setup := by
  rw [pendingSetup?_eq_some_iff]
  unfold storePort
  split
  · split
    · next same => exact ⟨_, rfl, same, Selection.get?_insert_self _ _ _⟩
    · exact ⟨_, rfl, rfl, Selection.get?_insert_self _ _ _⟩
  · exact ⟨_, rfl, rfl, Selection.get?_insert_self _ _ _⟩

theorem pendingSetup?_storePort_of_ne {setup' : PortSetup} {other : String}
    (pending : w.pendingSetup? board port = some setup) (ne : port ≠ other) :
    (w.storePort board other setup').pendingSetup? board port = some setup := by
  obtain ⟨selection, here, same, found⟩ := pendingSetup?_eq_some_iff.mp pending
  rw [pendingSetup?_eq_some_iff]
  unfold storePort
  rw [here]
  dsimp only
  rw [if_pos same]
  exact ⟨_, rfl, same, (Selection.get?_insert_of_ne selection ne setup').trans found⟩

/-- Giving up the setups of another board is told. -/
theorem notice_storePort {other : BoardId} {setup' : PortSetup}
    (pending : w.pendingSetup? board port = some setup) (ne : other ≠ board) {q : String} :
    (w.storePort other q setup').notice = some (.boardDiscarded board) := by
  obtain ⟨selection, here, rfl, found⟩ := pendingSetup?_eq_some_iff.mp pending
  have some : selection.isEmpty = false := by
    refine Bool.eq_false_iff.mpr fun empty => ?_
    have none := SortedMap.keys_eq_nil_iff.mpr empty
    have mem := SortedMap.mem_keys_iff.mpr ⟨setup, found⟩
    rw [none] at mem
    cases mem
  unfold storePort
  rw [here]
  dsimp only
  rw [if_neg (Ne.symm ne), some]
  rfl

/-- Clearing a port changes what is pending for that port only. -/
theorem pendingSetup?_dropPort (w : Wizard) (cleared : BoardId) (q : String)
    (other : (board, port) ≠ (cleared, q)) :
    (w.dropPort cleared q).pendingSetup? board port = w.pendingSetup? board port := by
  unfold dropPort
  cases pending : w.selection with
  | none => rfl
  | some selection =>
    dsimp only
    by_cases same : selection.board = cleared
    · rw [if_pos same]
      simp only [pendingSetup?, pending, Option.bind_eq_bind, Option.bind_some]
      by_cases here : selection.board = board
      · have ne : port ≠ q := fun hq => other (by rw [hq, ← same, here])
        have kept : (selection.erase q).get? port = selection.get? port :=
          SortedMap.get?_erase_of_ne _ ne
        rw [if_pos here, ← kept]
        split
        · next left =>
          -- Nothing is left, so nothing was pending for the other port.
          have none := SortedMap.isEmpty_iff.mp left
          rw [Selection.get?, SortedMap.get?, none]
          rfl
        · exact if_pos here
      · rw [if_neg here]
        split
        · rfl
        · exact if_neg here
    · rw [if_neg same]

theorem erase_of_get?_eq_none (none : selection.get? port = none) :
    selection.erase port = selection := by
  refine congrArg (Selection.mk selection.board) (SortedMap.ext fun q => ?_)
  rw [SortedMap.get?_erase]
  split
  · next same => rw [same]; exact none.symm
  · rfl

/-- Clearing a port for which nothing is pending changes nothing. -/
theorem selection_dropPort (nonempty : ∀ selection, w.selection = some selection →
    selection.isEmpty = false) (none : w.pendingSetup? board port = none) :
    (w.dropPort board port).selection = w.selection := by
  unfold dropPort
  cases pending : w.selection with
  | none => exact pending
  | some selection =>
    dsimp only
    split
    · next same =>
      have absent : selection.get? port = Option.none := by
        simpa [pendingSetup?, pending, same] using none
      dsimp only
      rw [erase_of_get?_eq_none absent, nonempty selection pending]
      rfl
    · exact pending

/-! ### What a step keeps -/

/-- The ways in which a step, by its action, can end that the setup of a port is pending. `after` is
what the step leaves and comes to. -/
inductive GivenUp (w : Wizard) (board : BoardId) (port : String) (after : Wizard × StepResult) :
    Action → Prop
  | replaced {setup : PortSetup}
      (here : w.place = .linkBoosterMenu board port setup.sensor setup.lanes)
      (stored : after.1.pendingSetup? board port = some setup) :
      GivenUp w board port after (.choose setup.linkBooster)
  | cleared (here : w.place.port? = some (board, port)) : GivenUp w board port after .clearPort
  | discarded (top : w.place = .topLevel) : GivenUp w board port after .discardAll
  | handedOut {action : Action} {selection : Selection} {reboot : Bool}
      (top : w.place = .topLevel) (saves : action.saves? = some reboot)
      (whole : w.selection = some selection)
      (handed : after.2 = .ok (.commit ⟨selection, reboot⟩)) : GivenUp w board port after action
  | otherBoard {other : BoardId} {otherPort : String} {setup : PortSetup} (ne : other ≠ board)
      (here : w.place = .linkBoosterMenu other otherPort setup.sensor setup.lanes)
      (stored : after.1.pendingSetup? other otherPort = some setup)
      (told : after.1.notice.map (·.text) =
        some s!"Discarded pending configuration of {board.label}") :
      GivenUp w board port after (.choose setup.linkBooster)

/-- What a step keeps of what is pending. -/
structure StepKeeps (w : Wizard) (s : Step) : Prop where
  setups : ∀ board port setup, w.pendingSetup? board port = some setup →
    (w.step s).1.pendingSetup? board port = some setup ∨
      ∃ action, s.action? w = some action ∧ GivenUp w board port (w.step s) action
  untouched : (∀ action, s.action? w = some action → action.touchesPending = false) →
    (w.step s).1.selection = w.selection
  refused : ∀ error, (w.step s).2 = .error error → (w.step s).1.selection = w.selection
  clearing : ∀ board port, s.action? w = some .clearPort →
    w.place.port? = some (board, port) →
    (∀ b p, (b, p) ≠ (board, port) →
      (w.step s).1.pendingSetup? b p = w.pendingSetup? b p) ∧
    (w.pendingSetup? board port = none → (w.step s).1.selection = w.selection)

theorem pendingSetup?_closedTo (w : Wizard) (depth : Nat) :
    (w.closedTo depth).pendingSetup? board port = w.pendingSetup? board port :=
  pendingSetup?_congr (w.closedTo_keeps depth).1

theorem pendingSetup?_activate (h : Invariant t w) (page row : Nat) (action : Action)
    (pending : w.pendingSetup? board port = some setup) :
    ((w.atCursor page row).activate action).1.pendingSetup? board port = some setup ∨
      GivenUp w board port ((w.atCursor page row).activate action) action := by
  generalize hr : (w.atCursor page row).activate action = result
  have quiet : (w.atCursor page row).quiet.pendingSetup? board port = some setup := pending
  cases hr ▸ activated (w.atCursor page row) action with
  | refused | closed | opened | left => exact .inl pending
  | @stored storedBoard storedPort storedSetup here offered =>
    have stored := pendingSetup?_storePort_self (w.atCursor page row).quiet storedBoard storedPort
      storedSetup
    rw [← pendingSetup?_closedTo _ 2] at stored
    by_cases same : storedBoard = board
    · subst same
      by_cases port' : port = storedPort
      · subst port'
        exact .inr (.replaced here stored)
      · refine .inl ?_
        rw [pendingSetup?_closedTo]
        exact pendingSetup?_storePort_of_ne quiet port'
    · refine .inr (.otherBoard same here stored ?_)
      rw [(closedTo_keeps _ 2).2, notice_storePort quiet same]
      rfl
  | @cleared clearedBoard clearedPort here =>
    by_cases same : (board, port) = (clearedBoard, clearedPort)
    · exact .inr (.cleared (same ▸ here))
    · refine .inl ?_
      rw [pendingSetup?_closedTo, pendingSetup?_dropPort _ _ _ same]
      exact pending
  | @handedOut action reboot top saves =>
    obtain ⟨selection, here, -, -⟩ := pendingSetup?_eq_some_iff.mp pending
    refine .inr (.handedOut top saves here ?_)
    unfold handOut
    rw [show (w.atCursor page row).quiet.selection = some selection from here]
    dsimp only
    rw [(h.selection selection here).nonempty]
    rfl
  | discarded top => exact .inr (.discarded top)

theorem clearing_activate (h : Invariant t w) (here : w.place.port? = some (board, port)) :
    (∀ b p, (b, p) ≠ (board, port) →
      (w.activate .clearPort).1.pendingSetup? b p = w.pendingSetup? b p) ∧
    (w.pendingSetup? board port = none →
      (w.activate .clearPort).1.selection = w.selection) := by
  generalize hr : w.activate .clearPort = result
  cases hr ▸ activated w .clearPort with
  | refused => exact ⟨fun _ _ _ => rfl, fun _ => rfl⟩
  | opened opens => exact absurd (touchesPending_of_opens? opens) nofun
  | handedOut top saves => cases saves
  | cleared here' =>
    cases here.symm.trans here'
    refine ⟨fun b p other => ?_, fun none => ?_⟩
    · rw [pendingSetup?_closedTo, pendingSetup?_dropPort _ _ _ other]
      rfl
    · rw [(closedTo_keeps _ 2).1]
      exact selection_dropPort (w := w.quiet) (fun s hs => (h.selection s hs).nonempty) none

theorem Invariant.stepKeeps (h : Invariant t w) (s : Step) : StepKeeps w s := by
  rcases step_cases w s with ⟨action, page, row, does, result⟩ | ⟨none, same⟩
  · have h' : Invariant t (w.atCursor page row) := h.atCursor page row
    refine ⟨fun board port setup pending => ?_, fun untouched => ?_, fun error failed => ?_,
      fun board port clears here => ?_⟩
    · rw [result]
      exact (pendingSetup?_activate h page row action pending).imp_right fun gone =>
        ⟨action, does, gone⟩
    · rw [result]
      exact selection_activate (w := w.atCursor page row) (untouched action does)
    · rw [result] at failed ⊢
      obtain ⟨refusal, -, left⟩ := activate_of_error failed
      rw [left]
      rfl
    · cases does.symm.trans clears
      rw [result]
      exact clearing_activate h' here
  · refine ⟨fun board port setup pending => .inl ?_, fun _ => same, fun _ _ => same,
      fun board port clears => ?_⟩
    · rw [pendingSetup?_congr same]
      exact pending
    · rw [none] at clears
      cases clears

/-- In every step of every run, a setup that is pending stays so, or it is replaced, cleared,
discarded, handed out with all that is pending, or given up for another board, which the operator is
told. An action that does none of this and a refused one change nothing of what is pending, and
clearing a port changes nothing but what is pending for that port. -/
theorem stepKeeps_after (t : Topology) (capacity : Nat) (steps : List Step) (s : Step) :
    StepKeeps ((start t capacity).after steps) s :=
  ((invariant_start t capacity).after steps).stepKeeps s

/-- Steps that set up two ports of a board and then open the sensor menu of the second. -/
def stepsToSecondPort : List Step :=
  [.action (.openBoard ⟨"1"⟩)] ++ portActions "P0" ⟨"imx900", 4, .absent⟩ ++
    portActions "P1" ⟨"imx900", 2, .present⟩ ++ [.action (.openPort "P1")]

/-- Clearing the second of two ports keeps the setup of the first. -/
theorem stepKeeps_after_two_ports : ∃ t,
    Topology.ofDescriptors .wide
      ["Tag FPA-1", "Tag imx900-P0-4Lane", "Tag imx900-P1-2Lane", "Tag GMSL-P1"] = .ok t ∧
    ((start t 15).after stepsToSecondPort).place.port? = some (⟨"1"⟩, "P1") ∧
    ((start t 15).after stepsToSecondPort).pendingSetup? ⟨"1"⟩ "P0" =
      some ⟨"imx900", 4, .absent⟩ ∧
    (((start t 15).after stepsToSecondPort).step (.action .clearPort)).1.pendingSetup? ⟨"1"⟩ "P0" =
      some ⟨"imx900", 4, .absent⟩ := by
  have run : ∃ t,
      Topology.ofDescriptors .wide
        ["Tag FPA-1", "Tag imx900-P0-4Lane", "Tag imx900-P1-2Lane", "Tag GMSL-P1"] = .ok t ∧
      ((start t 15).after stepsToSecondPort).place.port? = some (⟨"1"⟩, "P1") ∧
      ((start t 15).after stepsToSecondPort).pendingSetup? ⟨"1"⟩ "P0" =
        some ⟨"imx900", 4, .absent⟩ := ⟨_, rfl, rfl, rfl⟩
  obtain ⟨t, built, here, pending⟩ := run
  have keeps := stepKeeps_after t 15 stepsToSecondPort (.action .clearPort)
  have first := (keeps.clearing _ _ rfl here).1 ⟨"1"⟩ "P0" (by decide)
  exact ⟨t, built, here, pending, first.trans pending⟩

/-- It does not leave the selection as it was, for it takes the setup of the second port out. -/
theorem selection_changed_by_clearing : ∃ t,
    Topology.ofDescriptors .wide
      ["Tag FPA-1", "Tag imx900-P0-4Lane", "Tag imx900-P1-2Lane", "Tag GMSL-P1"] = .ok t ∧
    ((start t 15).after stepsToSecondPort).place.port? = some (⟨"1"⟩, "P1") ∧
    ((start t 15).after stepsToSecondPort).pendingSetup? ⟨"1"⟩ "P0" =
      some ⟨"imx900", 4, .absent⟩ ∧
    (((start t 15).after stepsToSecondPort).step (.action .clearPort)).1.selection ≠
      ((start t 15).after stepsToSecondPort).selection :=
  ⟨_, rfl, rfl, rfl, by decide⟩

end CameraSetup.Wizard
