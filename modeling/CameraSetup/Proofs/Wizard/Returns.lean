import CameraSetup.Proofs.Wizard.Reach
import CameraSetup.Proofs.Wizard.Typing

/-! Visits to a menu and the way back. While menus are open in front of a menu, whatever is typed
leaves it as it is or closes it, so when it is in front again its cursor stands where it stood. -/

namespace CameraSetup.Wizard

open Menu (Paged)

variable {t : Topology} {w w' : Wizard} {menu : Paged Action} {action : Action}
  {keys : List Key} {key : Key}

/-- The open menus, the one in front first. -/
def frames (w : Wizard) : List Frame := w.current :: w.outer

/-- Keys that lead back to the menu that lies `depth` deep, none of them before the last. -/
inductive Returns (depth : Nat) : Wizard → List Key → Wizard → Prop
  | here {w : Wizard} (front : w.depth = depth) : Returns depth w [] w
  | press {w w' : Wizard} {key : Key} {keys : List Key} (behind : depth < w.depth)
      (rest : Returns depth (w.press key).1 keys w') : Returns depth w (key :: keys) w'

theorem Returns.le_depth {depth : Nat} (h : Returns depth w keys w') : depth ≤ w.depth := by
  cases h with
  | here front => exact Nat.le_of_eq front.symm
  | press behind _ => exact Nat.le_of_lt behind

/-! ### What a step does to the open menus -/

theorem frames_closedTo (w : Wizard) (depth : Nat) : (w.closedTo depth).frames <:+ w.frames := by
  unfold closedTo
  dsimp only
  split
  · exact List.suffix_refl _
  · next kept =>
    rw [frames, frames, ← kept]
    exact List.drop_suffix _ _

theorem frames_dropPort (w : Wizard) (board : BoardId) (port : String) :
    (w.dropPort board port).frames = w.frames := by
  unfold dropPort
  split
  · split <;> rfl
  · rfl

theorem outer_reset (alone : w.outer = []) : w.reset.outer = [] := by
  have kept := frames_closedTo w 1
  rw [show w.frames = [w.current] from congrArg (w.current :: ·) alone] at kept
  obtain same | none := List.suffix_cons_iff.mp kept
  · exact (List.cons.inj same).2
  · cases List.suffix_nil.mp none

theorem outer_handOut (alone : w.outer = []) (reboot : Bool) : (w.handOut reboot).1.outer = [] := by
  unfold handOut
  split
  · split <;> exact outer_reset alone
  · exact outer_reset alone

/-- An action opens one more menu, leaves the menus behind the one in front as they are, or closes
menus from the front. -/
theorem frames_activate (h : Invariant t w) (action : Action) :
    (∃ place, w.place.opens? action = some place ∧
      (w.activate action).1 = w.quiet.opening place) ∨
    (w.activate action).1.outer = w.outer ∨ (w.activate action).1.frames <:+ w.outer := by
  have alone : w.place = .topLevel → w.quiet.outer = [] := by
    intro top
    have behind := h.behind
    rw [top] at behind
    exact List.map_eq_nil_iff.mp behind
  have shut : ∀ v : Wizard, v.frames = w.frames → ∀ depth,
      (v.closedTo depth).outer = w.outer ∨ (v.closedTo depth).frames <:+ w.outer := by
    intro v same depth
    have kept := frames_closedTo v depth
    rw [same] at kept
    exact (List.suffix_cons_iff.mp kept).imp_left fun all => (List.cons.inj all).2
  generalize hr : w.activate action = result
  cases hr ▸ activated w action with
  | refused => exact .inr (.inl rfl)
  | closed behind => exact .inr (.inr (behind ▸ List.suffix_refl _))
  | opened opens listed => exact .inl ⟨_, opens, rfl⟩
  | stored =>
    obtain ⟨current, outer⟩ := frames_storePort w.quiet _ _ _
    exact .inr (shut _ (by rw [frames, current, outer]; rfl) 2)
  | cleared => exact .inr (shut _ (frames_dropPort w.quiet _ _) 2)
  | handedOut top => exact .inr (.inl ((outer_handOut (alone top) _).trans (alone top).symm))
  | discarded top => exact .inr (.inl ((outer_reset (alone top)).trans (alone top).symm))
  | left => exact .inr (.inl rfl)

/-- The menus behind the one in front stay as they are, or are closed from the front. -/
theorem suffix_press (h : Invariant t w) (key : Key) :
    w.outer <:+ (w.press key).1.frames ∨ (w.press key).1.frames <:+ w.outer := by
  have acted : ∀ page row action, w.outer <:+ ((w.atCursor page row).activate action).1.frames ∨
      ((w.atCursor page row).activate action).1.frames <:+ w.outer := by
    intro page row action
    rcases frames_activate (h.atCursor page row) action with ⟨place, -, opened⟩ | same | closed
    · rw [opened]
      exact .inl ((List.suffix_cons _ w.outer).trans (List.suffix_cons _ _))
    · rw [frames, same]
      exact .inl (List.suffix_cons _ _)
    · exact .inr closed
  generalize hr : w.press key = result
  cases hr ▸ pressed w key with
  | noRoom | moved | interrupted => exact .inl (List.suffix_cons _ _)
  | entered => exact acted _ _ _
  | closed => exact acted _ _ _

/-! ### What a way back does to them -/

/-- A menu that is in front again has its cursor where it was, and so have those behind it. -/
theorem Returns.frames_eq {open_ : List Frame} (returns : Returns open_.length w keys w')
    (h : Invariant t w) (under : open_ <:+ w.frames) :
    w'.frames = open_ ∧ Invariant t w' ∧ w'.pageCapacity = w.pageCapacity := by
  generalize hdepth : open_.length = depth at returns
  induction returns with
  | here front => exact ⟨(under.eq_of_length (hdepth.trans front.symm)).symm, h, rfl⟩
  | @press w w' key keys behind rest ih =>
    have outer : open_ <:+ w.outer := by
      rcases List.suffix_cons_iff.mp under with all | outer
      · rw [← hdepth, all] at behind
        exact absurd behind (Nat.lt_irrefl _)
      · exact outer
    have kept : open_ <:+ (w.press key).1.frames := by
      rcases suffix_press h key with stay | closed
      · exact outer.trans stay
      · exact List.suffix_of_suffix_length_le outer closed (hdepth ▸ rest.le_depth)
    obtain ⟨same, invariant, capacity⟩ := ih (h.press key) kept
    exact ⟨same, invariant, capacity.trans (pageCapacity_press w key)⟩

end CameraSetup.Wizard
