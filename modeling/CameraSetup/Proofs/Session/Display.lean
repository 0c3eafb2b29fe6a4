import CameraSetup.Proofs.Session.Turns

/-! What the operator of a session sees and gets. Every menu can be drawn, whatever the settings ask
for and however low the screen is, so no session ends for want of room. And the enter key does what
is on the highlighted row of the view drawn last, whatever keys were typed and however the screen
changed its height before. -/

namespace CameraSetup.Session

open Wizard (View SameSteps leastCapacity)

/-! ### Room for every menu -/

/-- A turn ends for want of room only if that is what reading a key came to. -/
theorem exit_turn_ne_paging (s : Session) (tree : FileTree) (turn : Turn) (error : Menu.NoRoom)
    (ended : (s.turn tree turn).exit = some (.error (.wizard (.paging error)))) :
    turn.key = .error (.wizard (.paging error)) := by
  have enough := s.le_pageCapacity_fitted turn.height
  obtain ⟨view, -, -, -, -, drawn, -⟩ := Wizard.exists_drawn enough
  have viewed : (s.fitted turn.height).view = .ok view := mapError_eq_ok.mpr drawn
  unfold Session.turn at ended
  simp only [viewed] at ended
  split at ended
  · next failed =>
    cases ended
    exact failed
  · split at ended
    · cases ended
    · next stopped =>
      cases ended
      exact absurd stopped (progress_press_ne_paging enough _ _ error)

/-- A run ends for want of room only if that is what reading a key came to. -/
theorem exit_run_ne_paging (s : Session) (tree : FileTree) (turns : List Turn) (error : Menu.NoRoom)
    (ended : (s.run tree turns).exit = some (.error (.wizard (.paging error)))) :
    ∃ turn ∈ turns, turn.key = .error (.wizard (.paging error)) := by
  induction turns generalizing s tree with
  | nil => cases ended
  | cons turn turns ih =>
    rw [run_cons, Run.resume] at ended
    split at ended
    · exact ⟨turn, List.mem_cons_self, s.exit_turn_ne_paging tree turn error ended⟩
    · obtain ⟨later, mem, failed⟩ := ih _ _ ended
      exact ⟨later, List.mem_cons_of_mem turn mem, failed⟩

/-- Whatever menus are open and whatever the topology holds, the least page capacity and every
larger one are enough to draw the menu in front, with one row highlighted, which can be selected. So
whatever page capacity the settings ask for and however low the screen is, no run ends for want of
room on a page. -/
theorem drawn_and_never_out_of_room :
    (∀ (w : Wizard) (capacity : Nat), leastCapacity ≤ capacity → ∃ view row,
      (w.withPageCapacity capacity).view = .ok view ∧ view.rows.length ≤ capacity ∧
        view.HighlightsOnly row) ∧
    ∀ (s : Session) (tree : FileTree) (turns : List Turn) (error : Menu.NoRoom),
      (s.run tree turns).exit = some (.error (.wizard (.paging error))) →
        ∃ turn ∈ turns, turn.key = .error (.wizard (.paging error)) := by
  refine ⟨fun w capacity enough => ?_, exit_run_ne_paging⟩
  obtain ⟨view, -, -, row, -, drawn, room, highlights, -⟩ :=
    @Wizard.exists_drawn (w.withPageCapacity capacity) enough
  exact ⟨view, row, drawn, room, highlights⟩

/-- A scan that found overlays of these names, all of them for the wide connector. -/
def scanOf (names : List String) : OverlayScan where
  dir := "/d"
  overlays := names.map fun name => ⟨name, ⟨some name, some Connector.wide.headerName, []⟩⟩

/-- With a page capacity of 0 in the settings, on a screen without rows, on a high one and on a low
one, a run does not end for want of room. -/
theorem drawn_and_never_out_of_room_on_no_screen :
    ∃ (s : Session) (turns : List Turn),
      Session.start { Settings.standard with pageCapacity := 0 }
        (scanOf ["T FPA-1", "T imx900-P0-4Lane"]) false = .ok s ∧
      turns.map (·.height) = [0, 65535, 3] ∧
      (∀ error, (s.run .empty turns).exit ≠ some (.error (.wizard (.paging error)))) ∧
      ∃ view row, (s.wizard.withPageCapacity leastCapacity).view = .ok view ∧
        view.rows.length ≤ leastCapacity ∧ view.HighlightsOnly row := by
  let settings : Settings := { Settings.standard with pageCapacity := 0 }
  let scan := scanOf ["T FPA-1", "T imx900-P0-4Lane"]
  let turns : List Turn :=
    [⟨0, .ok .down, .plain⟩, ⟨65535, .ok .interrupt, .plain⟩, ⟨3, .error (.terminal ""), .plain⟩]
  have starts : (Session.start settings scan false).isOk := by decide +kernel
  cases started : Session.start settings scan false with
  | error cause =>
    rw [started] at starts
    cases starts
  | ok s =>
    refine ⟨s, turns, rfl, rfl, fun error ended => ?_, ?_⟩
    · obtain ⟨turn, mem, failed⟩ := drawn_and_never_out_of_room.2 s .empty turns error ended
      have otherwise : ∀ turn ∈ turns, turn.key ≠ .error (.wizard (.paging error)) := by
        simp [turns]
      exact otherwise turn mem failed
    · exact drawn_and_never_out_of_room.1 s.wizard leastCapacity (Nat.le_refl _)

/-! ### The enter key -/

/-- When a run over some turns has not ended and the enter key is read next, the view drawn last
highlights one row of a page of the menu, and the key comes to the same as that row's action does in
the wizard before the key, apart from cursors: the outcome, the open menus, what is pending, and the
notice. -/
theorem enter_acts_as_highlighted (s : Session) (tree : FileTree) (before later : List Turn)
    (height : Nat) (circumstances : Circumstances) (going : (s.run tree before).exit = none) :
    let w := ((s.run tree before).session.fitted height).wizard
    let after := s.run tree (before ++ [⟨height, .ok .enter, circumstances⟩])
    ∃ view menu page row action,
      after.views = (s.run tree before).views ++ [view] ∧
      after.views <+:
        (s.run tree (before ++ ⟨height, .ok .enter, circumstances⟩ :: later)).views ∧
      view.HighlightsOnly row ∧ w.menu = .ok menu ∧ view.Shows (menu.page page) ∧
      menu.action? page row = some action ∧
      after.session.wizard = (w.press .enter).1 ∧
      (after.exit = none ↔ (w.press .enter).2 = .ok .pending) ∧
      SameSteps (w.activate action) (w.press .enter) := by
  intro w after
  obtain ⟨view, menu, page, row, action, drawn, -, highlights, shown, shows, acts, pressed⟩ :=
    Wizard.exists_drawn (le_pageCapacity_fitted (s.run tree before).session height)
  let turn : Turn := ⟨height, .ok .enter, circumstances⟩
  obtain ⟨views, wizard, exit⟩ := @run_turn _ turn _ _ drawn rfl (s.run tree before).tree
  obtain ⟨appended, session, ended⟩ := resume_of_going going [turn]
  rw [← run_append] at appended session ended
  refine ⟨view, menu, page, row, action, ?_, ?_, highlights, shown, shows, acts, ?_, ?_, ?_⟩
  · rw [appended, views]
  · rw [List.append_cons, run_append s tree (before ++ _) later]
    exact views_resume after later
  · rw [session]
    exact wizard
  · rw [ended]
    exact exit
  · show SameSteps (w.activate action) (w.press .enter)
    rw [pressed]
    exact (Wizard.sameButCursors_atCursor w page row).activate action

/-- On a high screen the cursor moves to the ninth row, which no page of a low screen has. On the low
screen a board is highlighted all the same, and the enter key opens that board. -/
theorem enter_acts_as_highlighted_after_resize :
    ∃ (s : Session) (before : List Turn) (view : View) (row : Nat) (action : Wizard.Action),
      let w := ((s.run .empty before).session.fitted 10).wizard
      Session.start .standard (scanOf ["T FPA-10", "T FPA-11", "T FPA-12", "T FPA-13", "T FPA-14",
        "T FPA-15", "T FPA-16", "T FPA-17", "T FPA-18", "T imx900-P0-4Lane"]) false = .ok s ∧
      (s.run .empty before).exit = none ∧
      (w.place, w.current.row, w.pageCapacity) = (.topLevel, 8, 8) ∧
      (s.run .empty (before ++ [⟨10, .ok .enter, .plain⟩])).views.getLast? = some view ∧
      view.HighlightsOnly row ∧
      SameSteps (w.activate action) (w.press .enter) ∧
      (w.activate action).1.stack.map (·.place) = [.topLevel, .portMenu ⟨"10"⟩] := by
  let scan := scanOf ["T FPA-10", "T FPA-11", "T FPA-12", "T FPA-13", "T FPA-14", "T FPA-15",
    "T FPA-16", "T FPA-17", "T FPA-18", "T imx900-P0-4Lane"]
  let before : List Turn := List.replicate 8 ⟨40, .ok .down, .plain⟩
  have moved : (Session.start .standard scan false).toOption.map (fun s =>
      let w := ((s.run .empty before).session.fitted 10).wizard
      ((s.run .empty before).exit.isNone, (w.place, w.current.row, w.pageCapacity),
        (w.press .enter).1.stack.map (·.place))) =
      some (true, (.topLevel, 8, 8), [.topLevel, .portMenu ⟨"10"⟩]) := by
    decide +kernel
  cases started : Session.start .standard scan false with
  | error cause =>
    rw [started] at moved
    cases moved
  | ok s =>
    rw [started] at moved
    obtain ⟨going, moved⟩ := Prod.mk.inj (Option.some.inj moved)
    obtain ⟨stands, opened⟩ := Prod.mk.inj moved
    have going : (s.run .empty before).exit = none := Option.isNone_iff_eq_none.mp going
    obtain ⟨view, -, -, row, action, views, -, highlights, -, -, -, -, -, same⟩ :=
      enter_acts_as_highlighted s .empty before [] 10 .plain going
    refine ⟨s, before, view, row, action, rfl, going, stands, ?_, highlights, same, ?_⟩
    · rw [views, List.getLast?_concat]
    · exact same.1.menus.symm.trans opened

end CameraSetup.Session
