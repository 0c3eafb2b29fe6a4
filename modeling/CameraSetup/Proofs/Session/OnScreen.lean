import CameraSetup.Proofs.Screen.Rows
import CameraSetup.Proofs.Session.Effects
import CameraSetup.Proofs.Wizard.Labels

/-! The row under the cursor is on the screen. A session fits its pages to the screen before it
draws, so on every screen that is high enough for the least page all rows of the view stand in the
box, and the one that the enter key acts on is marked. -/

namespace CameraSetup

/-- The enter key carries out what is on a row of a view. -/
def Wizard.EnterActsOn (w : Wizard) (view : Wizard.View) (row : Nat) : Prop :=
  ∃ menu page action, w.menu = .ok menu ∧ view.Shows (menu.page page) ∧
    menu.action? page row = some action ∧ w.press .enter = (w.atCursor page row).activate action

namespace Session

open Screen (HasRoomFor framedRow framingRows selectedStyle)
open Wizard (View leastCapacity)

variable {s first : Session} {t : Topology} {tree : FileTree} {turns : List Turn} {view : View}
  {height width : Nat}

/-- Each view of a run is that of the wizard in its turn, fitted to the screen. -/
theorem view_of_getElem?_views {k : Nat} (drawn : (s.run tree turns).views[k]? = some view) :
    ∃ turn, turns[k]? = some turn ∧
      ((s.run tree (turns.take k)).session.fitted turn.height).wizard.view = .ok view := by
  induction turns generalizing s tree k with
  | nil => cases drawn
  | cons turn turns ih =>
    obtain ⟨here, -, -, -, -, shown, -⟩ :=
      Wizard.exists_drawn (le_pageCapacity_fitted s turn.height)
    have first := views_turn shown tree
    rw [run_cons] at drawn
    cases k with
    | zero =>
      obtain ⟨later, views⟩ := views_resume (s.turn tree turn) turns
      rw [← views, first] at drawn
      cases drawn
      exact ⟨turn, rfl, shown⟩
    | succ k =>
      rw [List.take_succ_cons, run_cons]
      cases ended : (s.turn tree turn).exit with
      | some exit =>
        rw [Run.resume, ended, first] at drawn
        cases drawn
      | none =>
        obtain ⟨views, -, -⟩ := resume_of_going ended turns
        obtain ⟨-, session, -⟩ := resume_of_going ended (turns.take k)
        rw [views, first] at drawn
        rw [session]
        exact ih drawn

/-- A page is as high as the screen has room for, where the screen has room for the least one. -/
theorem pageCapacity_fitted_le (high : framingRows + leastCapacity ≤ height) (s : Session) :
    (s.fitted height).wizard.pageCapacity + framingRows ≤ height := by
  have asked : min s.settings.pageCapacity (height - framingRows) ≤ height - framingRows :=
    Nat.min_le_right _ _
  show max (min s.settings.pageCapacity (height - framingRows)) leastCapacity + framingRows ≤ height
  omega

theorem Reached.hasRoomFor (h : Reached t first s) (named : t.IsWorded)
    (drawn : (s.fitted height).wizard.view = .ok view)
    (high : framingRows + leastCapacity ≤ height) (wide : 4 ≤ width) :
    HasRoomFor width height view := by
  obtain ⟨other, -, -, -, -, drawn', room, -⟩ :=
    Wizard.exists_drawn (le_pageCapacity_fitted s height)
  cases drawn.symm.trans drawn'
  have fits := pageCapacity_fitted_le high s
  exact Screen.hasRoomFor wide (by omega) fun row mem =>
    Wizard.isPlain_label_of_view named (h.fitted height).sound drawn mem

/-- Whatever a scan found, the settings ask for, and runs before this one did: take a view of a run
that is drawn when the screen is at least 15 rows high, on a screen at least 4 columns wide. Every
row of the view is on the screen, on the line of its number counted from line 4, between the borders
of the box and above the status and the hints. The one row that is highlighted, on which the enter
key acts, is marked with an arrow and drawn as selected, and no other is. -/
theorem active_row_on_screen {settings : Settings} {scan : OverlayScan} {dryRun : Bool}
    (started : Session.start settings scan dryRun = .ok first) (past : List Past) (tree : FileTree)
    (turns : List Turn) {k : Nat} {turn : Turn} (read : turns[k]? = some turn)
    (drawn : ((first.after past).run tree turns).views[k]? = some view)
    (high : 15 ≤ turn.height) (wide : 4 ≤ width) :
    let w := (((first.after past).run tree (turns.take k)).session.fitted turn.height).wizard
    w.view = .ok view ∧ HasRoomFor width turn.height view ∧
      ∃ row shown, view.HighlightsOnly row ∧ w.EnterActsOn view row ∧
        view.rows[row]? = some shown ∧
        (Screen.shown (Screen.menu width turn.height view))[4 + row]? =
          some (framedRow width ['>', ' '] selectedStyle shown.label) := by
  intro w
  obtain ⟨connector, descriptors, t, -, -, built, rfl⟩ := exists_of_start started
  have reached := (Reached.refl (s := ⟨_, settings, scan, connector, dryRun⟩)
    (Wizard.invariant_start t settings.pageCapacity)).after past
  have here := (reached.runKeeps tree (turns.take k)).reached
  have shown : w.view = .ok view := by
    obtain ⟨other, same, shown⟩ := view_of_getElem?_views drawn
    cases read.symm.trans same
    exact shown
  have room : HasRoomFor width turn.height view :=
    here.hasRoomFor (Topology.isWorded_of_ofDescriptors built) shown high wide
  obtain ⟨other, menu, page, row, action, drawn', -, highlights, laidOut, shows, acts, pressed⟩ :=
    Wizard.exists_drawn (le_pageCapacity_fitted _ turn.height)
  cases shown.symm.trans drawn'
  obtain ⟨active, inView, selected, -⟩ := id highlights
  exact ⟨shown, room, row, active, highlights, ⟨menu, page, action, laidOut, shows, acts, pressed⟩,
    inView, (room.rows row active inView).2.selected selected⟩

/-- On the lowest screen, ten boards take three pages. The page is as high as the box, its caption
stands on the line above the lower border, and the row under the cursor, to leave, is marked. -/
theorem active_row_on_screen_of_full_page : ∃ (first : Session) (past : Past) (turns : List Turn)
    (view : View),
    Session.start .standard (scanOf ["T FPA-10", "T FPA-11", "T FPA-12", "T FPA-13", "T FPA-14",
      "T FPA-15", "T FPA-16", "T FPA-17", "T FPA-18", "T FPA-19", "T imx900-P0-4Lane"]) false =
        .ok first ∧
    turns.map (·.height) = [40, 15, 15] ∧ view.rows.length = 8 ∧
    ((first.after [past]).run .empty turns).views[2]? = some view ∧
    HasRoomFor 12 15 view ∧ view.highlighted? = some "Exit" ∧
    ∃ row shown, view.HighlightsOnly row ∧ view.rows[row]? = some shown ∧
      (Screen.shown (Screen.menu 12 15 view))[4 + row]? =
        some (framedRow 12 ['>', ' '] selectedStyle shown.label) := by
  let scan := scanOf ["T FPA-10", "T FPA-11", "T FPA-12", "T FPA-13", "T FPA-14", "T FPA-15",
    "T FPA-16", "T FPA-17", "T FPA-18", "T FPA-19", "T imx900-P0-4Lane"]
  let past : Past := ⟨.empty, [⟨20, .ok .enter, .plain⟩, ⟨20, .ok .interrupt, .plain⟩], some 3⟩
  let turns : List Turn :=
    [⟨40, .ok .back, .plain⟩, ⟨15, .ok .up, .plain⟩, ⟨15, .ok .enter, .plain⟩]
  have runs : (Session.start .standard scan false).toOption.bind (fun first =>
      (((first.after [past]).run .empty turns).views[2]?).map fun view =>
        (view.rows.length, view.highlighted?)) = some (8, some "Exit") := by
    decide +kernel
  cases started : Session.start .standard scan false with
  | error cause =>
    rw [started] at runs
    cases runs
  | ok first =>
    rw [started] at runs
    obtain ⟨view, drawn, seen⟩ := Option.map_eq_some_iff.mp runs
    obtain ⟨height, highlighted⟩ := Prod.mk.inj seen
    obtain ⟨-, room, row, shown, highlights, -, inView, line⟩ :=
      active_row_on_screen started [past] .empty turns rfl drawn (by decide)
        (show 4 ≤ 12 by decide)
    exact ⟨first, past, turns, view, rfl, rfl, height, drawn, room, highlighted, row, shown,
      highlights, inView, line⟩

end Session

end CameraSetup
