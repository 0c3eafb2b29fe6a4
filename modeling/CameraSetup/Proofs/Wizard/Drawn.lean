import CameraSetup.Proofs.Wizard.Typing

/-! What a wizard draws, and what the enter key makes of it. With enough rows on a page a wizard
always draws a page of its menu, no longer than a page can be, with one row highlighted; and the
enter key carries out that row's action. The cursor that is stored plays no part in what an action
does: wherever it stands, the action comes to the same, apart from cursors. -/

namespace CameraSetup.Wizard

open Menu (Entry Paged)

variable {w w' : Wizard} {menu : Paged Action} {rows : List (Entry Action)} {row : Nat}

/-! ### Views -/

/-- A view highlights one row, which can be selected, and no other. -/
def View.HighlightsOnly (view : View) (row : Nat) : Prop :=
  ∃ shown, view.rows[row]? = some shown ∧ shown.highlighted = true ∧ shown.selectable = true ∧
    ∀ i other, view.rows[i]? = some other → other.highlighted = true → i = row

/-- The rows of a view are those of a page. -/
def View.Shows (view : View) (rows : List (Entry Action)) : Prop :=
  view.rows.map (fun shown => (shown.label, shown.selectable)) =
    rows.map fun e => (e.label, e.isSelectable)

theorem shows_shownRows (title : String) (status : Option String) :
    View.Shows ⟨title, shownRows rows row, status⟩ rows := by
  refine List.ext_getElem? fun i => ?_
  simp only [shownRows, List.getElem?_map, List.getElem?_mapIdx, Option.map_map]
  rfl

theorem highlightsOnly_shownRows (selectable : (rows[row]?).any (·.isSelectable) = true)
    (title : String) (status : Option String) :
    View.HighlightsOnly ⟨title, shownRows rows row, status⟩ row := by
  obtain ⟨e, found, choice⟩ : ∃ e, rows[row]? = some e ∧ e.isSelectable = true := by
    cases found : rows[row]? with
    | none =>
      rw [found] at selectable
      cases selectable
    | some e =>
      rw [found] at selectable
      exact ⟨e, rfl, selectable⟩
  refine ⟨⟨e.label, true, true⟩, ?_, rfl, rfl, fun i other here highlighted => ?_⟩
  · simp [shownRows, found, choice]
  · obtain ⟨e', -, rfl⟩ := Option.map_eq_some_iff.mp ((List.getElem?_mapIdx ..).symm.trans here)
    exact beq_iff_eq.mp (Bool.and_eq_true_iff.mp highlighted).1

/-- With enough rows on a page, the enter key does what is on the one row that is highlighted. -/
theorem exists_drawn (enough : leastCapacity ≤ w.pageCapacity) :
    ∃ view menu page row action, w.view = .ok view ∧ view.rows.length ≤ w.pageCapacity ∧
      view.HighlightsOnly row ∧ w.menu = .ok menu ∧ view.Shows (menu.page page) ∧
      menu.action? page row = some action ∧
      w.press .enter = (w.atCursor page row).activate action := by
  obtain ⟨menu, shown⟩ := exists_menu enough
  obtain ⟨inside, selectable⟩ := isSelectable_cursor shown
  obtain ⟨action, under⟩ : ∃ action,
      menu.action? (w.cursor menu).1 (w.cursor menu).2 = some action := by
    rw [Paged.isSelectable_eq] at selectable
    exact Option.isSome_iff_exists.mp selectable
  refine ⟨_, menu, _, _, action, view_of_menu shown, ?_, highlightsOnly_shownRows selectable _ _,
    shown, shows_shownRows _ _, under, press_enter shown rfl under⟩
  have height := Paged.length_page shown inside
  simp only [shownRows, List.length_mapIdx]
  split at height <;> omega

/-! ### Actions and cursors -/

/-- Two wizards are the same, apart from where the cursors of their menus stand. -/
structure SameButCursors (w w' : Wizard) : Prop where
  topology : w'.topology = w.topology
  menus : w'.stack.map (·.place) = w.stack.map (·.place)
  selection : w'.selection = w.selection
  pageCapacity : w'.pageCapacity = w.pageCapacity
  notice : w'.notice = w.notice

/-- What two wizards do comes to the same, and leaves them the same apart from cursors. -/
def SameSteps (r r' : Wizard × StepResult) : Prop := SameButCursors r.1 r'.1 ∧ r'.2 = r.2

theorem sameButCursors_atCursor (w : Wizard) (page row : Nat) :
    SameButCursors w (w.atCursor page row) :=
  ⟨rfl, by simp [stack, atCursor], rfl, rfl, rfl⟩

namespace SameButCursors

/-- The places of the open menus, the one in front first. -/
theorem places (h : SameButCursors w w') :
    w'.place :: w'.outer.map (·.place) = w.place :: w.outer.map (·.place) := by
  have menus := h.menus
  rw [stack, stack, List.map_reverse, List.map_reverse, List.reverse_inj] at menus
  exact menus

theorem place (h : SameButCursors w w') : w'.place = w.place := (List.cons.inj h.places).1

theorem withFrames (h : SameButCursors w w') {current current' : Frame} {outer outer' : List Frame}
    (front : current'.place = current.place)
    (behind : outer'.map (·.place) = outer.map (·.place)) :
    SameButCursors { w with current, outer } { w' with current := current', outer := outer' } := by
  refine ⟨h.topology, ?_, h.selection, h.pageCapacity, h.notice⟩
  simp only [stack, List.map_reverse, List.map_cons, front, behind]

theorem withSelection (h : SameButCursors w w') (selection : Option Selection)
    (notice : Option Notice) :
    SameButCursors { w with selection, notice } { w' with selection, notice } :=
  ⟨h.topology, h.menus, rfl, h.pageCapacity, rfl⟩

theorem opening (h : SameButCursors w w') (place : Place) :
    SameButCursors (w.opening place) (w'.opening place) :=
  h.withFrames rfl h.places

theorem closedTo (h : SameButCursors w w') (depth : Nat) :
    SameButCursors (w.closedTo depth) (w'.closedTo depth) := by
  have deep : w'.depth = w.depth := by
    simpa [Wizard.depth] using congrArg List.length h.places
  have kept : ((w'.current :: w'.outer).drop (w'.depth - depth)).map (·.place) =
      ((w.current :: w.outer).drop (w.depth - depth)).map (·.place) := by
    rw [deep, List.map_drop, List.map_drop]
    exact congrArg _ h.places
  unfold Wizard.closedTo
  cases left : (w.current :: w.outer).drop (w.depth - depth) with
  | nil =>
    rw [left, List.map_nil, List.map_eq_nil_iff] at kept
    rw [kept]
    exact h
  | cons frame rest =>
    rw [left] at kept
    obtain ⟨frame', rest', left', front, behind⟩ := List.map_eq_cons_iff.mp kept
    rw [left']
    exact h.withFrames front behind

theorem reset (h : SameButCursors w w') : SameButCursors w.reset w'.reset :=
  (h.closedTo 1).withFrames (h.closedTo 1).place (List.cons.inj (h.closedTo 1).places).2

theorem storePort (h : SameButCursors w w') (board : BoardId) (port : String) (setup : PortSetup) :
    SameButCursors (w.storePort board port setup) (w'.storePort board port setup) := by
  unfold Wizard.storePort
  rw [h.selection, h.notice]
  split
  · split
    · exact h.withSelection _ _
    · exact h.withSelection _ _
  · exact h.withSelection _ _

theorem dropPort (h : SameButCursors w w') (board : BoardId) (port : String) :
    SameButCursors (w.dropPort board port) (w'.dropPort board port) := by
  unfold Wizard.dropPort
  rw [h.selection]
  split
  · split
    · exact ⟨h.topology, h.menus, rfl, h.pageCapacity, h.notice⟩
    · exact h
  · exact h

theorem handOut (h : SameButCursors w w') (reboot : Bool) :
    SameSteps (w.handOut reboot) (w'.handOut reboot) := by
  unfold Wizard.handOut
  rw [h.selection]
  split
  · split
    · exact ⟨h.reset.withSelection _ _, rfl⟩
    · exact ⟨⟨h.reset.topology, h.reset.menus, rfl, h.reset.pageCapacity, h.reset.notice⟩, rfl⟩
  · exact ⟨h.reset.withSelection _ _, rfl⟩

theorem openIf (h : SameButCursors w w') (offered : Bool) (place : Place) (action : Action) :
    SameSteps (w.openIf offered place action) (w'.openIf offered place action) := by
  unfold Wizard.openIf
  split
  · exact ⟨h.opening place, rfl⟩
  · exact ⟨h, rfl⟩

theorem goBack (h : SameButCursors w w') : SameSteps w.goBack w'.goBack := by
  have behind := (List.cons.inj h.places).2
  unfold Wizard.goBack
  cases outer : w.outer with
  | nil =>
    rw [outer, List.map_nil, List.map_eq_nil_iff] at behind
    rw [behind, h.place]
    exact ⟨h, rfl⟩
  | cons frame rest =>
    rw [outer] at behind
    obtain ⟨frame', rest', outer', front, rest_eq⟩ := List.map_eq_cons_iff.mp behind
    rw [outer']
    exact ⟨h.withFrames front rest_eq, rfl⟩

theorem act (h : SameButCursors w w') (action : Action) :
    SameSteps (w.act action) (w'.act action) := by
  unfold Wizard.act
  rw [h.place, h.topology]
  split
  case h_1 => exact h.openIf _ _ _
  case h_2 => exact h.handOut true
  case h_3 => exact h.handOut false
  case h_4 => exact ⟨h.reset.withSelection _ _, rfl⟩
  case h_5 => exact ⟨h, rfl⟩
  case h_6 => exact h.openIf _ _ _
  case h_7 => exact h.openIf _ _ _
  case h_8 => exact h.openIf _ _ _
  case h_9 =>
    dsimp only
    split
    · exact ⟨(h.storePort _ _ _).closedTo 2, rfl⟩
    · exact ⟨h, rfl⟩
  case h_10 => exact ⟨(h.dropPort _ _).closedTo 2, rfl⟩
  case h_11 => exact ⟨(h.dropPort _ _).closedTo 2, rfl⟩
  case h_12 => exact ⟨(h.dropPort _ _).closedTo 2, rfl⟩
  case h_13 => exact ⟨h, rfl⟩

theorem activate (h : SameButCursors w w') (action : Action) :
    SameSteps (w.activate action) (w'.activate action) := by
  have quiet : SameButCursors { w with notice := none } { w' with notice := none } :=
    ⟨h.topology, h.menus, h.selection, h.pageCapacity, rfl⟩
  unfold Wizard.activate
  dsimp only
  split
  · exact quiet.goBack
  · exact quiet.act action

end SameButCursors

end CameraSetup.Wizard
