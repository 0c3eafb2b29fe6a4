import CameraSetup.Session
import CameraSetup.Proofs.BootConfig.LastList
import CameraSetup.Proofs.Wizard.Drawn

/-! The turns of a session. In each turn the wizard has enough rows on a page, whatever the settings
ask for and however low the screen is, so it is drawn and the key is applied to what was drawn. A
run goes on with further turns where the turns before left it. -/

namespace CameraSetup

/-! ### Why a commit fails -/

namespace Commit

variable {circumstances : Circumstances} {tree : FileTree} {settings : Settings} {scanDir : String}
  {connector : Connector} {selection : Selection} {policy : MissingPolicy} {dryRun : Bool}
  {cause : SetupError}

theorem baseDeviceTree_error {dir : String} (h : baseDeviceTree tree dir = .error cause) :
    ∀ e, cause ≠ .wizard e := by
  rintro e rfl
  rcases bind_eq_error.mp h with failed | ⟨names, -, failed⟩
  · obtain ⟨_, -, other⟩ := mapError_eq_error.mp failed
    cases other
  · split at failed <;> cases failed

theorem plan_error
    (h : plan tree settings scanDir connector selection policy = .error cause) :
    ∀ e, cause ≠ .wizard e := by
  rintro e rfl
  rcases bind_eq_error.mp h with failed | ⟨checked, -, failed⟩
  · obtain ⟨_, -, other⟩ := mapError_eq_error.mp failed
    cases other
  rcases bind_eq_error.mp failed with failed | ⟨current, -, failed⟩
  · obtain ⟨_, -, other⟩ := mapError_eq_error.mp failed
    cases other
  rcases bind_eq_error.mp failed with failed | ⟨updated, -, failed⟩
  · obtain ⟨cause, edited, same⟩ := mapError_eq_error.mp failed
    cases cause with
    | base cause =>
      cases same
      exact baseDeviceTree_error (BootConfig.base_of_edit_error edited) e rfl
    | anchor => cases same
  · cases failed

/-- A commit never fails for a reason of the wizard. -/
theorem run_error
    (h : (run circumstances tree settings scanDir connector selection policy dryRun).2 =
      .error cause) : ∀ e, cause ≠ .wizard e := by
  unfold run at h
  split at h
  · cases h
  · split at h
    · next planned =>
      cases h
      exact plan_error planned
    · dsimp only at h
      split at h
      · cases h
      · split at h
        · cases h
          exact nofun
        · cases h

end Commit

/-! ### One turn -/

namespace Wizard

variable {w : Wizard}

theorem activate_ne_paging (action : Action) (error : Menu.NoRoom) :
    (w.activate action).2 ≠ .error (.paging error) := by
  intro failed
  obtain ⟨refusal, other, -⟩ := activate_of_error failed
  cases other

/-- With enough rows on a page, no key fails for want of room. -/
theorem press_ne_paging (enough : leastCapacity ≤ w.pageCapacity) (key : Key)
    (error : Menu.NoRoom) : (w.press key).2 ≠ .error (.paging error) := by
  intro failed
  generalize hr : w.press key = result at failed
  cases hr ▸ pressed w key with
  | noRoom none =>
    obtain ⟨menu, shown⟩ := exists_menu enough
    rw [shown] at none
    cases none
  | moved | interrupted => cases failed
  | entered => exact activate_ne_paging _ _ failed
  | closed => exact activate_ne_paging _ _ failed

end Wizard

namespace Session

variable {s : Session} {circumstances : Circumstances} {tree : FileTree}

theorem le_pageCapacity_fitted (s : Session) (height : Nat) :
    Wizard.leastCapacity ≤ (s.fitted height).wizard.pageCapacity :=
  Nat.le_max_right _ _

theorem session_press (s : Session) (circumstances : Circumstances) (tree : FileTree)
    (key : Wizard.Key) :
    (s.press circumstances tree key).session = { s with wizard := (s.wizard.press key).1 } := by
  unfold press
  dsimp only
  split
  · rfl
  · rfl
  · rfl
  · unfold save
    split <;> rfl

/-- A key after which the session goes on is one that the wizard answers with nothing to do. -/
theorem progress_press (s : Session) (circumstances : Circumstances) (tree : FileTree)
    (key : Wizard.Key) :
    (s.press circumstances tree key).progress = .going ↔
      (s.wizard.press key).2 = .ok .pending := by
  unfold press
  dsimp only
  split
  · next failed => simp [failed]
  · next pending => simp [pending]
  · next left => simp [left]
  · next handed =>
    unfold save
    split <;> simp [handed]

/-- A session that a key ends for want of room on a page had too few rows on it. -/
theorem progress_press_ne_paging (enough : Wizard.leastCapacity ≤ s.wizard.pageCapacity)
    (key : Wizard.Key) (message : Option (List String)) (error : Menu.NoRoom) :
    (s.press circumstances tree key).progress ≠
      .ended message (.error (.wizard (.paging error))) := by
  intro ended
  unfold press at ended
  dsimp only at ended
  split at ended
  · next failed =>
    cases ended
    exact Wizard.press_ne_paging enough key error failed
  · cases ended
  · cases ended
  · unfold save at ended
    split at ended
    · next failed =>
      cases ended
      exact Commit.run_error (congrArg Prod.snd failed) _ rfl
    · cases ended

/-! ### One turn after another -/

/-- A run that goes on with further turns, unless it has ended. -/
def Run.resume (first : Run) (turns : List Turn) : Run :=
  match first.exit with
  | some _ => first
  | none => first.andThen (first.session.run first.tree turns)

theorem run_cons (s : Session) (tree : FileTree) (turn : Turn) (turns : List Turn) :
    s.run tree (turn :: turns) = (s.turn tree turn).resume turns := rfl

theorem resume_nil (first : Run) : first.resume [] = first := by
  cases first with
  | mk session tree views messages keysRead exit =>
    cases exit <;> simp [Run.resume, Run.andThen, run, Run.silent]

theorem run_singleton (s : Session) (tree : FileTree) (turn : Turn) :
    s.run tree [turn] = s.turn tree turn :=
  resume_nil _

theorem run_append (s : Session) (tree : FileTree) (before later : List Turn) :
    s.run tree (before ++ later) = (s.run tree before).resume later := by
  induction before generalizing s tree with
  | nil => simp [run, Run.resume, Run.andThen, Run.silent]
  | cons turn before ih =>
    rw [List.cons_append, run_cons, run_cons]
    generalize s.turn tree turn = first
    unfold Run.resume
    cases ended : first.exit with
    | some exit => simp [ended]
    | none =>
      dsimp only
      rw [ih]
      unfold Run.resume Run.andThen
      cases ended' : (first.session.run first.tree before).exit <;> simp [ended', Nat.add_assoc]

/-- What a run that has not ended shows and leaves when it goes on. -/
theorem resume_of_going {first : Run} (going : first.exit = none) (turns : List Turn) :
    (first.resume turns).views = first.views ++ (first.session.run first.tree turns).views ∧
      (first.resume turns).session = (first.session.run first.tree turns).session ∧
      (first.resume turns).exit = (first.session.run first.tree turns).exit := by
  rw [Run.resume, going]
  exact ⟨rfl, rfl, rfl⟩

theorem views_resume (first : Run) (turns : List Turn) :
    first.views <+: (first.resume turns).views := by
  unfold Run.resume
  split
  · exact List.prefix_refl _
  · exact List.prefix_append _ _

theorem views_turn {turn : Turn} {view : Wizard.View}
    (drawn : (s.fitted turn.height).wizard.view = .ok view) (tree : FileTree) :
    (s.turn tree turn).views = [view] := by
  have viewed : (s.fitted turn.height).view = .ok view := mapError_eq_ok.mpr drawn
  unfold Session.turn
  simp only [viewed]
  split
  · rfl
  · split <;> rfl

/-- A turn draws the wizard and applies the key to it. -/
theorem run_turn {turn : Turn} {key : Wizard.Key} {view : Wizard.View}
    (drawn : (s.fitted turn.height).wizard.view = .ok view) (read : turn.key = .ok key)
    (tree : FileTree) :
    (s.run tree [turn]).views = [view] ∧
      (s.run tree [turn]).session.wizard = ((s.fitted turn.height).wizard.press key).1 ∧
      ((s.run tree [turn]).exit = none ↔
        ((s.fitted turn.height).wizard.press key).2 = .ok .pending) := by
  have viewed : (s.fitted turn.height).view = .ok view := mapError_eq_ok.mpr drawn
  have session := session_press (s.fitted turn.height) turn.circumstances tree key
  have progress := progress_press (s.fitted turn.height) turn.circumstances tree key
  rw [run_singleton, Session.turn]
  simp only [viewed, read]
  split
  · next going =>
    exact ⟨rfl, congrArg (·.wizard) session, fun _ => progress.mp going, fun _ => rfl⟩
  · next stopped =>
    refine ⟨rfl, congrArg (·.wizard) session, nofun, fun pending => ?_⟩
    rw [progress.mpr pending] at stopped
    cases stopped

end Session

end CameraSetup
