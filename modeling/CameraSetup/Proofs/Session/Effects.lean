import CameraSetup.Proofs.Commit.Atomicity
import CameraSetup.Proofs.FrontEnds
import CameraSetup.Proofs.Session.Display
import CameraSetup.Proofs.Wizard.Acceptance

/-! What runs of a session do to the files, and how they end. While a run goes on no file changes,
so an error of the screen between two turns leaves all of them alone. A run ends with an error of
reading a key, with the interrupt key, by leaving, or by one commit of what is pending, and only the
commit can change a file. All this holds of every run of a session, whatever the runs before it
left. -/

namespace CameraSetup

namespace Wizard

open Menu (Entry Paged)

variable {w : Wizard} {menu : Paged Action} {action : Action} {key : Key} {request : SaveRequest}

/-! ### What the last key does -/

/-- The action under the cursor, which the enter key carries out. -/
def underCursor? (w : Wizard) : Option Action :=
  match w.menu with
  | .ok menu => menu.action? (w.cursor menu).1 (w.cursor menu).2
  | .error _ => none

theorem underCursor?_of_menu (shown : w.menu = .ok menu) :
    w.underCursor? = menu.action? (w.cursor menu).1 (w.cursor menu).2 := by
  rw [underCursor?, shown]

theorem handOut_ne_exit (w : Wizard) (reboot : Bool) : (w.handOut reboot).2 ≠ .ok .exit := by
  unfold handOut
  dsimp only
  split
  · split <;> simp
  · simp

theorem exit_of_activate (h : (w.activate action).2 = .ok .exit) : action = .exit := by
  generalize hr : w.activate action = result at h
  cases hr ▸ activated w action with
  | left => rfl
  | handedOut => exact absurd h (handOut_ne_exit _ _)
  | refused | closed | opened | stored | cleared | discarded => cases h

/-- The operator leaves by the interrupt key or by the row for it. -/
theorem exit_of_press (h : (w.press key).2 = .ok .exit) :
    key = .interrupt ∨ key = .enter ∧ w.underCursor? = some .exit := by
  generalize hr : w.press key = result at h
  cases hr ▸ pressed w key with
  | interrupted shown interrupt => exact .inl interrupt
  | entered shown enter under =>
    rw [exit_of_activate h] at under
    exact .inr ⟨enter, (underCursor?_of_menu shown).trans under⟩
  | closed => cases exit_of_activate h
  | noRoom | moved => cases h

/-- What is pending is handed out by the enter key on a row that saves. -/
theorem commit_of_press (h : (w.press key).2 = .ok (.commit request)) :
    key = .enter ∧ w.selection = some request.selection ∧
      ∃ action, w.underCursor? = some action ∧ action.saves? = some request.reboot := by
  generalize hr : w.press key = result at h
  cases hr ▸ pressed w key with
  | @entered menu action shown enter under =>
    obtain ⟨pending, saves⟩ := selection_of_activate h
    exact ⟨enter, pending, action, (underCursor?_of_menu shown).trans under, saves⟩
  | closed => cases (selection_of_activate h).2
  | noRoom | moved | interrupted => cases h

/-! ### What the operator sees under the cursor -/

theorem View.HighlightsOnly.highlighted? {view : View} {row : Nat} (h : view.HighlightsOnly row) :
    view.highlighted? = (view.rows[row]?).map (·.label) := by
  obtain ⟨shown, here, highlighted, -, only⟩ := h
  rw [View.highlighted?, here]
  cases found : view.rows.find? (·.highlighted) with
  | none =>
    exact absurd highlighted (List.find?_eq_none.mp found shown (List.mem_of_getElem? here))
  | some other =>
    obtain ⟨i, inside, rfl⟩ := List.getElem_of_mem (List.mem_of_find?_eq_some found)
    have same := only i _ (List.getElem?_eq_getElem inside) (List.find?_some found)
    subst same
    rw [List.getElem?_eq_getElem inside] at here
    rw [Option.some.inj here]

theorem label_of_footer : ∀ e ∈ w.footer, e.action = some .saveAndReboot →
    e.label = "Save and reboot to apply" := by
  unfold footer
  split
  · cases w.hasPending <;> decide
  · decide
  · decide

theorem label_of_saveAndReboot {e : Entry Action} (mem : e ∈ w.entries ∨ e ∈ w.footer)
    (acts : e.action = some .saveAndReboot) : e.label = "Save and reboot to apply" := by
  rcases mem with choice | below
  · unfold entries at choice
    split at choice <;> obtain ⟨_, -, rfl⟩ := List.mem_map.mp choice <;> cases acts
  · exact label_of_footer e below acts

/-- The row that saves and reboots says so. -/
theorem exists_view_of_saveAndReboot (enough : leastCapacity ≤ w.pageCapacity)
    (under : w.underCursor? = some .saveAndReboot) :
    ∃ view, w.view = .ok view ∧ view.highlighted? = some "Save and reboot to apply" := by
  obtain ⟨menu, shown⟩ := exists_menu enough
  obtain ⟨inside, selectable⟩ := isSelectable_cursor shown
  rw [underCursor?_of_menu shown] at under
  obtain ⟨e, found, acts⟩ := Option.bind_eq_some_iff.mp under
  obtain ⟨rows, page, mem⟩ := Paged.exists_page_of_entry? found
  have label := label_of_saveAndReboot (Paged.mem_of_mem_pages shown page mem acts) acts
  refine ⟨_, view_of_menu shown, ?_⟩
  rw [(highlightsOnly_shownRows selectable _ _).highlighted?]
  have row : (menu.page (w.cursor menu).1)[(w.cursor menu).2]? = some e := found
  simp [shownRows, row, label]

end Wizard

namespace Session

variable {s first : Session} {t : Topology} {circumstances : Circumstances} {tree : FileTree}
  {turns : List Turn}

/-! ### The turn that ends a run -/

/-- What the commits of a session share. -/
def site (s : Session) : Commit.Site := ⟨s.settings, s.scan.dir, s.connector⟩

/-- The order that a session carries out to save a selection. -/
def order (s : Session) (circumstances : Circumstances) (selection : Selection) : Commit.Order :=
  ⟨selection, .skipPort, s.dryRun, circumstances⟩

/-- How a turn ends a run of a session on some files: what reading a key came to, what the run ends
with, and the files that it leaves. -/
inductive Final (s : Session) (circumstances : Circumstances) (tree : FileTree) :
    Except SetupError Wizard.Key → Except SetupError Exit → FileTree → Prop
  | unread {cause : SetupError} : Final s circumstances tree (.error cause) (.error cause) tree
  | interrupted : Final s circumstances tree (.ok .interrupt) (.ok .quit) tree
  | exited (under : s.wizard.underCursor? = some .exit) :
      Final s circumstances tree (.ok .enter) (.ok .quit) tree
  | refused {action : Wizard.Action} {request : Wizard.SaveRequest} {left : FileTree}
      {cause : SetupError} (under : s.wizard.underCursor? = some action)
      (saves : action.saves? = some request.reboot)
      (pending : s.wizard.selection = some request.selection)
      (out : s.site.carryOut tree (s.order circumstances request.selection) =
        (left, .error cause)) :
      Final s circumstances tree (.ok .enter) (.error cause) left
  | committed {action : Wizard.Action} {request : Wizard.SaveRequest} {left : FileTree}
      {report : Commit.Report} (under : s.wizard.underCursor? = some action)
      (saves : action.saves? = some request.reboot)
      (pending : s.wizard.selection = some request.selection)
      (out : s.site.carryOut tree (s.order circumstances request.selection) =
        (left, .ok report)) :
      Final s circumstances tree (.ok .enter)
        (.ok (if s.grantsReboot request report then .reboot report else .saved report)) left

theorem tree_press_of_going {key : Wizard.Key}
    (going : (s.press circumstances tree key).progress = .going) :
    (s.press circumstances tree key).tree = tree := by
  have pending := (progress_press s circumstances tree key).mp going
  simp only [press, pending]

theorem final_of_press {key : Wizard.Key} {message : Option (List String)}
    {exit : Except SetupError Exit} (sound : Wizard.Invariant t s.wizard)
    (enough : Wizard.leastCapacity ≤ s.wizard.pageCapacity)
    (ended : (s.press circumstances tree key).progress = .ended message exit) :
    Final s circumstances tree (.ok key) exit (s.press circumstances tree key).tree := by
  cases came : (s.wizard.press key).2 with
  | error error =>
    -- There is room for the menu, and no key asks for what the menu does not carry.
    cases error with
    | paging error => exact absurd came (Wizard.press_ne_paging enough key error)
    | refused refusal => exact absurd came (sound.press_not_refused key refusal)
  | ok outcome =>
    cases outcome with
    | pending =>
      rw [(progress_press s circumstances tree key).mpr came] at ended
      cases ended
    | exit =>
      simp only [press, came] at ended ⊢
      cases ended
      rcases Wizard.exit_of_press came with rfl | ⟨rfl, under⟩
      · exact .interrupted
      · exact .exited under
    | commit request =>
      obtain ⟨rfl, pending, action, under, saves⟩ := Wizard.commit_of_press came
      simp only [press, came, save] at ended ⊢
      split at ended
      · next out =>
        cases ended
        exact .refused under saves pending out
      · next out =>
        cases ended
        exact .committed under saves pending out

/-! ### What a run keeps -/

/-- A session that runs of another one lead to: only the wizard is a different one. -/
structure Reached (t : Topology) (first s : Session) : Prop where
  sound : Wizard.Invariant t s.wizard
  same : s = { first with wizard := s.wizard }

theorem Reached.refl (sound : Wizard.Invariant t s.wizard) : Reached t s s := ⟨sound, rfl⟩

theorem Reached.dryRun_eq (h : Reached t first s) : s.dryRun = first.dryRun :=
  congrArg (·.dryRun) h.same

theorem Reached.site_eq (h : Reached t first s) : s.site = first.site :=
  congrArg (·.site) h.same

theorem Reached.order_eq (h : Reached t first s) : s.order = first.order := by
  funext circumstances selection
  rw [order, order, h.dryRun_eq]

theorem Reached.withWizard (h : Reached t first s) {w : Wizard} (sound : Wizard.Invariant t w) :
    Reached t first { s with wizard := w } :=
  ⟨sound, by rw [h.same]⟩

theorem Reached.fitted (h : Reached t first s) (height : Nat) :
    Reached t first (s.fitted height) :=
  h.withWizard (h.sound.congr rfl rfl rfl rfl)

theorem Reached.press (h : Reached t first s) (circumstances : Circumstances) (tree : FileTree)
    (key : Wizard.Key) : Reached t first (s.press circumstances tree key).session := by
  rw [session_press]
  exact h.withWizard (h.sound.press key)

/-- What one turn of a run comes to. -/
structure TurnKeeps (t : Topology) (first s : Session) (tree : FileTree) (turn : Turn) (r : Run) :
    Prop where
  reached : Reached t first r.session
  drawn : ∃ view, (s.fitted turn.height).wizard.view = .ok view ∧ r.views = [view]
  read : r.keysRead = 1
  going : r.exit = none → r.tree = tree
  ended : ∀ exit, r.exit = some exit →
    Final (s.fitted turn.height) turn.circumstances tree turn.key exit r.tree

theorem Reached.turnKeeps (h : Reached t first s) (tree : FileTree) (turn : Turn) :
    TurnKeeps t first s tree turn (s.turn tree turn) := by
  obtain ⟨view, -, -, -, -, drawn, -⟩ :=
    Wizard.exists_drawn (le_pageCapacity_fitted s turn.height)
  have viewed : (s.fitted turn.height).view = .ok view := mapError_eq_ok.mpr drawn
  have fitted := h.fitted turn.height
  unfold Session.turn
  simp only [viewed]
  cases read : turn.key with
  | error cause =>
    refine ⟨fitted, ⟨view, drawn, rfl⟩, rfl, fun going => ?_, fun exit ended => ?_⟩
    · cases going
    · cases ended
      rw [read]
      exact .unread
  | ok key =>
    have pressed := fitted.press turn.circumstances tree key
    dsimp only
    split
    · next going =>
      refine ⟨pressed, ⟨view, drawn, rfl⟩, rfl, fun _ => tree_press_of_going going, ?_⟩
      intro exit ended
      cases ended
    · next stopped =>
      refine ⟨pressed, ⟨view, drawn, rfl⟩, rfl, fun going => ?_, fun exit ended => ?_⟩
      · cases going
      · cases ended
        rw [read]
        exact final_of_press fitted.sound (le_pageCapacity_fitted s turn.height) stopped

/-- How a run ends: at the turn read last, before which it was going. -/
structure EndsAt (s : Session) (tree : FileTree) (turns before : List Turn) (turn : Turn)
    (view : Wizard.View) (exit : Except SetupError Exit) : Prop where
  starts : before ++ [turn] <+: turns
  going : (s.run tree before).exit = none
  drawn : ((s.run tree before).session.fitted turn.height).wizard.view = .ok view
  views : (s.run tree turns).views = (s.run tree before).views ++ [view]
  read : (s.run tree turns).keysRead = before.length + 1
  final : Final ((s.run tree before).session.fitted turn.height) turn.circumstances tree turn.key
    exit (s.run tree turns).tree

/-- What the turns of a run come to. -/
structure RunKeeps (t : Topology) (first s : Session) (tree : FileTree) (turns : List Turn) :
    Prop where
  reached : Reached t first (s.run tree turns).session
  going : (s.run tree turns).exit = none →
    (s.run tree turns).tree = tree ∧ (s.run tree turns).keysRead = turns.length
  ended : ∀ exit, (s.run tree turns).exit = some exit →
    ∃ before turn view, EndsAt s tree turns before turn view exit

/-- By induction on the turns from the last one: a run that has ended stays as it is, and one that
is going comes to what its last turn comes to. -/
theorem Reached.runKeeps (h : Reached t first s) (tree : FileTree) (turns : List Turn) :
    RunKeeps t first s tree turns := by
  induction turns using List.reverseRecOn with
  | nil => exact ⟨h, fun _ => ⟨rfl, rfl⟩, nofun⟩
  | append_singleton before turn ih =>
    have appended := run_append s tree before [turn]
    cases so_far : (s.run tree before).exit with
    | some exit =>
      have same : s.run tree (before ++ [turn]) = s.run tree before := by
        rw [appended, Run.resume, so_far]
      refine ⟨same ▸ ih.reached, fun going => ?_, fun exit ended => ?_⟩
      · rw [same, so_far] at going
        cases going
      · obtain ⟨front, last, view, ends⟩ := ih.ended exit (same ▸ ended)
        have starts := ends.starts.trans (List.prefix_append _ [turn])
        exact ⟨front, last, view, starts, ends.going, ends.drawn, same ▸ ends.views,
          same ▸ ends.read, same ▸ ends.final⟩
    | none =>
      -- The last turn finds the files as the run found them.
      obtain ⟨tree_eq, read⟩ := ih.going so_far
      have turned := ih.reached.turnKeeps (s.run tree before).tree turn
      obtain ⟨view, drawn, views⟩ := turned.drawn
      rw [Run.resume, so_far, run_singleton] at appended
      dsimp only [Run.andThen] at appended
      rw [tree_eq] at appended turned views
      rw [views, turned.read, read] at appended
      refine ⟨?_, fun going => ?_, fun exit ended => ⟨before, turn, view, List.prefix_refl _,
        so_far, drawn, congrArg (·.views) appended, congrArg (·.keysRead) appended, ?_⟩⟩
      · rw [appended]
        exact turned.reached
      · rw [appended] at going ⊢
        exact ⟨turned.going going, by simp⟩
      · rw [appended] at ended ⊢
        exact turned.ended exit ended

/-! ### What a run does to the files -/

section
variable {key : Except SetupError Wizard.Key} {exit : Except SetupError Exit} {left : FileTree}

theorem Exit.report?_ite (reboots : Bool) (report : Commit.Report) :
    (if reboots then Exit.reboot report else .saved report).report? = some report := by
  cases reboots <;> rfl

/-- Only a save changes files, and only when it is no dry run. -/
theorem Final.tree_eq (h : Final s circumstances tree key exit left)
    (idle : s.dryRun = true ∨ ∀ e, exit = .ok e → e = .quit) : left = tree := by
  cases h with
  | unread | interrupted | exited => rfl
  | refused under saves pending out =>
    have kept := Commit.carryOut_unchanged (.inl ⟨_, congrArg Prod.snd out⟩)
    rwa [out] at kept
  | @committed action request left report under saves pending out =>
    rcases idle with dry | quits
    · have kept : (s.site.carryOut tree (s.order circumstances request.selection)).1 = tree :=
        Commit.carryOut_unchanged (.inr (.inl dry))
      rwa [out] at kept
    · have reported := Exit.report?_ite (s.grantsReboot request report) report
      rw [quits _ rfl] at reported
      cases reported

/-- What a session saves was pending. -/
theorem Final.exists_selection {e : Exit} {report : Commit.Report}
    (h : Final s circumstances tree key (.ok e) left) (reported : e.report? = some report) :
    ∃ selection, s.wizard.selection = some selection ∧
      s.site.carryOut tree (s.order circumstances selection) = (left, .ok report) := by
  generalize same : (Except.ok e : Except SetupError Exit) = exit at h
  cases h with
  | unread | refused => cases same
  | interrupted | exited =>
    cases same
    cases reported
  | committed under saves pending out =>
    cases same
    rw [Exit.report?_ite] at reported
    cases reported
    exact ⟨_, pending, out⟩

/-- A session grants a reboot to the row that asks for one, and not in a dry run. -/
theorem Final.of_reboot {report : Commit.Report}
    (h : Final s circumstances tree key (.ok (.reboot report)) left) :
    key = .ok .enter ∧ s.wizard.underCursor? = some .saveAndReboot ∧ s.dryRun = false := by
  generalize same : (Except.ok (.reboot report) : Except SetupError Exit) = exit at h
  cases h with
  | unread | interrupted | exited | refused => cases same
  | @committed action request left report under saves pending out =>
    have granted : s.grantsReboot request report = true := by
      by_contra refused
      rw [if_neg refused] at same
      cases same
    simp only [grantsReboot, Bool.and_eq_true, Bool.not_eq_true'] at granted
    obtain ⟨⟨asked, -⟩, wet⟩ := granted
    rw [asked] at saves
    refine ⟨rfl, ?_, wet⟩
    cases action <;> cases saves
    exact under

end

/-- What a run of a session does to the files, and how it ends. A run that ends for an error of the
screen is one whose turns are used up. -/
structure Accounted (t : Topology) (s : Session) (tree : FileTree) (turns : List Turn) : Prop where
  untouched : (∀ exit, (s.run tree turns).exit = some (.ok exit) → exit = .quit) →
    (s.run tree turns).tree = tree
  rehearsed : s.dryRun = true → (s.run tree turns).tree = tree ∧
    ∀ report, (s.run tree turns).exit ≠ some (.ok (.reboot report))
  saved : ∀ exit report, (s.run tree turns).exit = some (.ok exit) → exit.report? = some report →
    ∃ selection, selection.OfferedBy t ∧ (∃ turn ∈ turns,
      s.site.carryOut tree (s.order turn.circumstances selection) =
        ((s.run tree turns).tree, .ok report)) ∧
      (s.dryRun = false → report.written = true ∧
        FileTree.Frame s.settings.bootConfig tree (s.run tree turns).tree)
  rebooted : ∀ report, (s.run tree turns).exit = some (.ok (.reboot report)) →
    ∃ before turn view, EndsAt s tree turns before turn view (.ok (.reboot report)) ∧
      turn.key = .ok .enter ∧ view.highlighted? = some "Save and reboot to apply" ∧
      ((s.run tree before).session.fitted turn.height).wizard.underCursor? = some .saveAndReboot
  ended : ∀ exit, (s.run tree turns).exit = some exit →
    ∃ before turn view, EndsAt s tree turns before turn view exit

theorem accounted (sound : Wizard.Invariant t s.wizard) (tree : FileTree) (turns : List Turn) :
    Accounted t s tree turns := by
  have here := Reached.refl sound
  have keeps := here.runKeeps tree turns
  -- The session in the last turn is the one that the run began with, but for its wizard.
  have last (before : List Turn) (height : Nat) :
      Reached t s ((s.run tree before).session.fitted height) :=
    (here.runKeeps tree before).reached.fitted height
  have idle (quiet : s.dryRun = true ∨
      ∀ exit, (s.run tree turns).exit = some (.ok exit) → exit = .quit) :
      (s.run tree turns).tree = tree := by
    cases ended : (s.run tree turns).exit with
    | none => exact (keeps.going ended).1
    | some exit =>
      obtain ⟨before, turn, view, ends⟩ := keeps.ended exit ended
      refine ends.final.tree_eq (quiet.imp (last _ _).dryRun_eq.trans fun quits e ok => ?_)
      exact quits e (ok ▸ ended)
  refine ⟨fun quits => idle (.inr quits), fun dry => ⟨idle (.inl dry), ?_⟩, ?_, ?_, keeps.ended⟩
  · intro report ended
    obtain ⟨before, turn, view, ends⟩ := keeps.ended _ ended
    have wet := ends.final.of_reboot.2.2
    rw [(last _ _).dryRun_eq, dry] at wet
    cases wet
  · intro exit report ended reported
    obtain ⟨before, turn, view, ends⟩ := keeps.ended _ ended
    obtain ⟨selection, pending, out⟩ := ends.final.exists_selection reported
    have offered := (last before turn.height).sound.selection selection pending
    rw [(last before turn.height).site_eq, (last before turn.height).order_eq] at out
    have mem : turn ∈ turns := ends.starts.subset (List.mem_append_right _ List.mem_cons_self)
    refine ⟨selection, offered, ⟨turn, mem, out⟩, fun wet => ⟨?_, ?_⟩⟩
    · rw [(Commit.carryOut_reported (congrArg Prod.snd out)).1]
      simp [order, wet, offered.nonempty]
    · have frame := Commit.frame_carryOut s.site tree (s.order turn.circumstances selection)
      rw [out] at frame
      exact frame
  · intro report ended
    obtain ⟨before, turn, view, ends⟩ := keeps.ended _ ended
    obtain ⟨enter, under, -⟩ := ends.final.of_reboot
    obtain ⟨view', drawn, highlighted⟩ :=
      Wizard.exists_view_of_saveAndReboot (le_pageCapacity_fitted _ _) under
    rw [ends.drawn] at drawn
    cases drawn
    exact ⟨before, turn, view, ends, enter, highlighted, under⟩

/-! ### One run after another -/

/-- A run before: the files that it was on, its turns, and the height of the screen that the session
was fitted to last but that could not be drawn on, if there was one. -/
structure Past where
  tree : FileTree
  turns : List Turn
  undrawn : Option Nat

/-- The session that runs before leave, one after another. -/
def after (s : Session) : List Past → Session
  | [] => s
  | past :: later =>
    let left := (s.run past.tree past.turns).session
    ((past.undrawn.map left.fitted).getD left).after later

theorem Reached.after (h : Reached t first s) (past : List Past) :
    Reached t first (s.after past) := by
  induction past generalizing s with
  | nil => exact h
  | cons run later ih =>
    have left := (h.runKeeps run.tree run.turns).reached
    rw [Session.after]
    cases run.undrawn with
    | none => exact ih left
    | some height => exact ih (left.fitted height)

/-- Whatever runs of a session came before, on whatever files, the next run changes no file unless
it saves. A dry run never changes one and never ends with a reboot. A run that saves carries out one
order, for a selection that the scanned topology offers; without dry run it has written, and changed
nothing but the boot configuration. A run ends with a reboot only by the enter key on the row that
asks for one, and only a key that could not be read, an interrupt, an exit or a save ends a run. -/
theorem accounted_after {settings : Settings} {scan : OverlayScan} {dryRun : Bool}
    (started : Session.start settings scan dryRun = .ok first) (past : List Past) (tree : FileTree)
    (turns : List Turn) :
    ∃ connector descriptors t, scan.connector = .ok connector ∧
      scan.descriptors = .ok descriptors ∧ Topology.ofDescriptors connector descriptors = .ok t ∧
      (first.after past).site = ⟨settings, scan.dir, connector⟩ ∧
      (first.after past).dryRun = dryRun ∧ Accounted t (first.after past) tree turns := by
  obtain ⟨connector, descriptors, t, found, named, built, rfl⟩ := exists_of_start started
  have reached := (Reached.refl (s := ⟨_, settings, scan, connector, dryRun⟩)
    (Wizard.invariant_start t settings.pageCapacity)).after past
  exact ⟨connector, descriptors, t, found, named, built, reached.site_eq, reached.dryRun_eq,
    accounted reached.sound tree turns⟩

/-- A run sets up a port and saves, but the boot configuration cannot be moved into place, and every
file stays as it was. The next run, on a lower screen, sets the port up again, saves and ends with a
reboot. -/
theorem accounted_after_failed_write : ∃ (settings : Settings) (scan : OverlayScan)
    (first : Session) (past : Past) (turns : List Turn) (report : Commit.Report),
    let s := first.after [past]
    Session.start settings scan false = .ok first ∧
    (first.run past.tree past.turns).exit =
      some (.error (.file (.system ⟨5, "Input/output error"⟩))) ∧
    (first.run past.tree past.turns).tree = past.tree ∧
    (s.run past.tree turns).exit = some (.ok (.reboot report)) ∧ report.overlays.length = 2 ∧
    report.written = true ∧
    FileTree.Frame s.settings.bootConfig past.tree (s.run past.tree turns).tree ∧
    ∃ before turn view, EndsAt s past.tree turns before turn view (.ok (.reboot report)) ∧
      view.highlighted? = some "Save and reboot to apply" := by
  let settings : Settings := { Settings.standard with
    bootConfig := "/e", overlayDir := "/d", dtbDir := "/b" }
  let scan := scanOf ["T FPA-1", "T imx900-P0-4Lane"]
  let tree : FileTree := (((((FileTree.empty.put ["d"] .directory).put
    ["d", "tegra234-p3737-camera-fr_fpa_1-overlay.dtbo"] (.file ⟨0o644, []⟩)).put
    ["d", "tegra234-p3737-camera-fr_imx900-p0-4lane-overlay.dtbo"] (.file ⟨0o644, []⟩)).put
    ["b"] .directory).put ["b", "x.dtb"] (.file ⟨0o644, []⟩)).put
    ["e"] (.file ⟨0o640, Text.encodeUtf8 "MENU LABEL primary kernel\n"⟩)
  let failing : Circumstances :=
    { Circumstances.plain with moving := some ⟨5, "Input/output error"⟩ }
  let keys : List Wizard.Key :=
    [.enter, .enter, .enter, .enter, .enter, .back, .down, .enter]
  let past : Past := ⟨tree, keys.map fun key => ⟨40, .ok key, failing⟩, some 3⟩
  let turns : List Turn := keys.map fun key => ⟨12, .ok key, .plain⟩
  have runs : (Session.start settings scan false).toOption.map (fun first =>
      ((first.run past.tree past.turns).exit, (first.after [past]).dryRun,
        ((first.after [past]).run tree turns).exit)) =
      some (some (.error (.file (.system ⟨5, "Input/output error"⟩))), false,
        some (.ok (.reboot ⟨"/e", ["/d/tegra234-p3737-camera-fr_fpa_1-overlay.dtbo",
          "/d/tegra234-p3737-camera-fr_imx900-p0-4lane-overlay.dtbo"], [], true, none⟩))) := by
    decide +kernel
  cases started : Session.start settings scan false with
  | error cause =>
    rw [started] at runs
    cases runs
  | ok first =>
    rw [started] at runs
    obtain ⟨failed, runs⟩ := Prod.mk.inj (Option.some.inj runs)
    obtain ⟨wet, rebooted⟩ := Prod.mk.inj runs
    obtain ⟨_, _, _, -, -, -, -, -, before⟩ := accounted_after started [] tree past.turns
    have kept : (first.run past.tree past.turns).tree = past.tree :=
      before.untouched fun exit ended => by
        cases failed.symm.trans ended
    obtain ⟨-, -, t, -, -, -, -, -, accounted⟩ := accounted_after started [past] tree turns
    obtain ⟨selection, -, -, effects⟩ := accounted.saved _ _ rebooted rfl
    obtain ⟨before, turn, view, ends, -, highlighted, -⟩ := accounted.rebooted _ rebooted
    exact ⟨settings, scan, first, past, turns, _, started, failed, kept, rebooted, rfl,
      (effects wet).1, (effects wet).2, before, turn, view, ends, highlighted⟩

end Session

end CameraSetup
