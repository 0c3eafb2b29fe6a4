import CameraSetup.Proofs.Wizard.Shown

/-! Keys typed one after another. The arrow keys bring the cursor to every row that can be selected,
over any number of pages and from wherever it stands, so whatever a menu has on it can be
entered. -/

namespace CameraSetup.Wizard

open Menu (Entry Paged)

/-- The keys that work a menu. -/
def Key.working : List Key := [.up, .down, .left, .right, .enter, .back]

/-- What the steps of a run come to. -/
def results (w : Wizard) : List Step → List StepResult
  | [] => []
  | s :: steps => (w.step s).2 :: (w.step s).1.results steps

/-- A key that works the menu is answered, and the wizard goes on. -/
def Answers (w w' : Wizard) : Prop := ∃ key ∈ Key.working, w.press key = (w', .ok .pending)

/-- Keys that work the menus lead from one wizard to another. -/
def Leads : Wizard → Wizard → Prop := Relation.ReflTransGen Answers

variable {w w' : Wizard} {menu : Paged Action} {page row : Nat}

theorem exists_keys (h : Leads w w') : ∃ keys : List Key, (∀ key ∈ keys, key ∈ Key.working) ∧
    w.after (keys.map .key) = w' ∧
    ∀ more, w.results (keys.map .key ++ more) =
      List.replicate keys.length (.ok .pending) ++ w'.results more := by
  induction h using Relation.ReflTransGen.head_induction_on with
  | refl => exact ⟨[], by simp, rfl, fun _ => rfl⟩
  | head first rest ih =>
    obtain ⟨key, works, pressed⟩ := first
    obtain ⟨keys, working, reached, results⟩ := ih
    refine ⟨key :: keys, ?_, ?_, fun more => ?_⟩
    · simpa [works] using working
    · rw [← reached, List.map_cons, after, List.foldl_cons, step, pressed]
      rfl
    · rw [List.map_cons, List.cons_append, Wizard.results, step, pressed, results,
        List.length_cons, List.replicate_succ, List.cons_append]

/-! ### One key -/

theorem answers_down (shown : w.menu = .ok menu) (at_ : w.cursor menu = (page, row)) {next : Nat}
    (found : menu.nextChoice? page row .down = some next) :
    Answers w (w.atCursor page next) := by
  refine ⟨.down, by decide, ?_⟩
  simp only [press, shown, at_, pressOn, moveCursor, found]
  rfl

theorem answers_right (shown : w.menu = .ok menu) (at_ : w.cursor menu = (page, row))
    (further : page + 1 < menu.count) :
    Answers w (w.atCursor (page + 1) ((menu.firstChoice? (page + 1)).getD 0)) := by
  refine ⟨.right, by decide, ?_⟩
  simp only [press, shown, at_, pressOn, if_pos further]
  rfl

theorem answers_left (shown : w.menu = .ok menu) (at_ : w.cursor menu = (page + 1, row)) :
    Answers w (w.atCursor page ((menu.firstChoice? page).getD 0)) := by
  refine ⟨.left, by decide, ?_⟩
  simp only [press, shown, at_, pressOn, Nat.succ_pos, if_true]
  rfl

theorem press_enter (shown : w.menu = .ok menu) (at_ : w.cursor menu = (page, row))
    {action : Action} (under : menu.action? page row = some action) :
    w.press .enter = (w.atCursor page row).activate action := by
  rw [Paged.action?] at under
  simp only [press, shown, at_, pressOn, under]

theorem press_back (shown : w.menu = .ok menu) (deep : w.outer ≠ []) :
    w.press .back = (w.settled menu).activate .back := by
  have : 1 < (w.settled menu).depth := Nat.succ_lt_succ (List.length_pos_iff.mpr deep)
  simp only [press, shown, pressOn]
  exact if_pos this

/-! ### The page capacity -/

theorem pageCapacity_closedTo (w : Wizard) (depth : Nat) :
    (w.closedTo depth).pageCapacity = w.pageCapacity := by
  unfold closedTo
  dsimp only
  split <;> rfl

theorem pageCapacity_reset (w : Wizard) : w.reset.pageCapacity = w.pageCapacity :=
  pageCapacity_closedTo w 1

theorem pageCapacity_storePort (w : Wizard) (board : BoardId) (port : String) (setup : PortSetup) :
    (w.storePort board port setup).pageCapacity = w.pageCapacity := by
  unfold storePort
  split
  · split <;> rfl
  · rfl

theorem pageCapacity_dropPort (w : Wizard) (board : BoardId) (port : String) :
    (w.dropPort board port).pageCapacity = w.pageCapacity := by
  unfold dropPort
  split
  · split <;> rfl
  · rfl

theorem pageCapacity_handOut (w : Wizard) (reboot : Bool) :
    (w.handOut reboot).1.pageCapacity = w.pageCapacity := by
  unfold handOut
  split
  · split <;> exact pageCapacity_reset w
  · exact pageCapacity_reset w

theorem pageCapacity_activate (w : Wizard) (action : Action) :
    (w.activate action).1.pageCapacity = w.pageCapacity := by
  generalize hr : w.activate action = result
  cases hr ▸ activated w action with
  | refused | closed | opened | left => rfl
  | stored => rw [pageCapacity_closedTo, pageCapacity_storePort]; rfl
  | cleared => rw [pageCapacity_closedTo, pageCapacity_dropPort]; rfl
  | handedOut => exact pageCapacity_handOut w.quiet _
  | discarded => exact pageCapacity_reset w.quiet

theorem pageCapacity_press (w : Wizard) (key : Key) :
    (w.press key).1.pageCapacity = w.pageCapacity := by
  generalize hr : w.press key = result
  cases hr ▸ pressed w key with
  | noRoom | moved | interrupted => rfl
  | entered => exact pageCapacity_activate _ _
  | closed => exact pageCapacity_activate _ _

/-! ### The arrow keys -/

/-- The arrow keys have led from `w` to a cursor at a page and row. -/
def LeadsTo (w : Wizard) (menu : Paged Action) (page row : Nat) : Prop :=
  ∃ w' storedPage storedRow, Leads w w' ∧ w' = w.atCursor storedPage storedRow ∧
    w'.cursor menu = (page, row)

theorem leadsTo_cursor (w : Wizard) (menu : Paged Action) :
    w.LeadsTo menu (w.cursor menu).1 (w.cursor menu).2 :=
  ⟨w, w.current.page, w.current.row, .refl, rfl, rfl⟩

theorem LeadsTo.tail {page' row' : Nat} (h : w.LeadsTo menu page row)
    (next : ∀ v : Wizard, v.menu = w.menu → v.cursor menu = (page, row) →
      Answers v (v.atCursor page' row'))
    (inside : page' < menu.count) (selectable : menu.isSelectable page' row' = true) :
    w.LeadsTo menu page' row' := by
  obtain ⟨v, p, r, leads, rfl, here⟩ := h
  exact ⟨_, page', row', leads.tail (next _ (menu_atCursor w p r) here), rfl,
    cursor_atCursor inside selectable⟩

/-- From one page the arrow keys lead to the next one or the one before. -/
theorem LeadsTo.turn (shown : w.menu = .ok menu) {page' : Nat} (h : w.LeadsTo menu page row)
    (inside : page' < menu.count) (near : page' = page + 1 ∨ page = page' + 1) :
    ∃ row', w.LeadsTo menu page' row' := by
  obtain ⟨r, selectable⟩ := exists_selectable shown inside
  obtain ⟨first, found, choice⟩ := Paged.exists_firstChoice? selectable
  refine ⟨first, h.tail (fun v same at_ => ?_) inside choice⟩
  rcases near with rfl | rfl
  · have := answers_right (same.trans shown) at_ inside
    rwa [found] at this
  · have := answers_left (same.trans shown) at_
    rwa [found] at this

theorem exists_leadsTo_page (shown : w.menu = .ok menu) (inside : page < menu.count) :
    ∃ row, w.LeadsTo menu page row := by
  have start := (isSelectable_cursor shown).1
  have here : ∃ row, w.LeadsTo menu (w.cursor menu).1 row := ⟨_, leadsTo_cursor w menu⟩
  generalize (w.cursor menu).1 = p at start here
  obtain ⟨k, away⟩ : ∃ k, page = p + k ∨ p = page + k := by
    rcases Nat.le_total p page with before | after
    · exact ⟨page - p, .inl (by omega)⟩
    · exact ⟨p - page, .inr (by omega)⟩
  -- Page by page, to the right or to the left.
  induction k generalizing page with
  | zero =>
    obtain rfl : page = p := by omega
    exact here
  | succ k ih =>
    rcases away with right | left
    · obtain ⟨row, leads⟩ := @ih (p + k) (by omega) (.inl rfl)
      exact leads.turn shown inside (.inl right)
    · obtain ⟨row, leads⟩ := @ih (page + 1) (by omega) (.inr (by omega))
      exact leads.turn shown inside (.inr rfl)

/-- The arrow keys lead to every row that can be selected. -/
theorem leadsTo (shown : w.menu = .ok menu) (inside : page < menu.count)
    (selectable : menu.isSelectable page row = true) : w.LeadsTo menu page row := by
  obtain ⟨start, leads⟩ := exists_leadsTo_page shown inside
  have under : menu.isSelectable page start = true := by
    obtain ⟨v, p, r, -, rfl, here⟩ := leads
    have := (isSelectable_cursor (w := w.atCursor p r) shown).2
    rwa [here] at this
  have rows := Paged.reaches_down (Paged.lt_height_of_isSelectable under) selectable
  clear selectable
  induction rows with
  | refl => exact leads
  | tail _ next ih =>
    exact ih.tail (fun v same at_ => answers_down (same.trans shown) at_ next) inside
      (Paged.isSelectable_of_nextChoice? next)

/-- Whatever is on a menu can be entered by keys. -/
theorem exists_press_enter (shown : w.menu = .ok menu) {e : Entry Action} {action : Action}
    (mem : e ∈ w.entries ∨ e ∈ w.footer) (acts : e.action = some action) :
    ∃ w' page row, Leads w w' ∧ w'.press .enter = (w.atCursor page row).activate action := by
  obtain ⟨page, row, inside, found⟩ := exists_action?_of_mem shown mem
  rw [acts] at found
  have selectable : menu.isSelectable page row = true := by
    rw [Paged.isSelectable_eq, found]
    rfl
  obtain ⟨w', p, r, leads, rfl, here⟩ := leadsTo shown inside selectable
  exact ⟨_, page, row, leads, press_enter (w := w.atCursor p r) shown here found⟩

end CameraSetup.Wizard
