import CameraSetup.Proofs.Menu.Movement
import CameraSetup.Proofs.Wizard.Activation

/-! The menu in front as it is laid out. With enough rows on a page every menu can be laid out, has
a row to select on every page, and has a row for whatever the topology offers there. The cursor then
stands on a row that can be selected. -/

namespace CameraSetup.Wizard

open Menu (Entry Paged NoRoom)

variable {w : Wizard} {menu : Paged Action}

/-! ### Footers -/

theorem length_footer_le (w : Wizard) : w.footer.length ≤ 5 := by
  unfold footer
  split
  · split <;> simp [saveEntries]
  · simp
  · simp

theorem exists_choice_footer (w : Wizard) : ∃ e ∈ w.footer, e.isSelectable = true := by
  unfold footer
  split
  · exact ⟨.ofAction "Exit" .exit, by simp, rfl⟩
  · exact ⟨.ofAction "Back" .back, by simp, rfl⟩
  · exact ⟨.ofAction "Back" .back, by simp, rfl⟩

/-- The capacity that a wizard needs is enough for each of its menus. -/
theorem exists_menu (enough : leastCapacity ≤ w.pageCapacity) : ∃ menu, w.menu = .ok menu := by
  have footer := w.length_footer_le
  have room : ¬ w.pageCapacity ≤ w.footer.length + Menu.captionRows := by
    simp only [leastCapacity, Menu.captionRows] at *
    omega
  by_cases fits : w.entries.length + w.footer.length ≤ w.pageCapacity
  · exact ⟨_, if_pos fits⟩
  · exact ⟨_, (if_neg fits).trans (if_neg room)⟩

theorem count_pos (shown : w.menu = .ok menu) : 0 < menu.count := by
  rw [Paged.count_layOut shown]
  exact Paged.pageCount_pos shown

theorem exists_selectable (shown : w.menu = .ok menu) {page : Nat} (inside : page < menu.count) :
    ∃ row, menu.isSelectable page row = true := by
  obtain ⟨e, mem, selectable⟩ := w.exists_choice_footer
  obtain ⟨row, found⟩ := Paged.exists_action?_footer shown mem inside
  refine ⟨row, ?_⟩
  rw [Paged.isSelectable_eq, found]
  exact selectable

/-! ### Rows for what is on offer -/

theorem exists_entry_of_opens? {action : Action} {place : Place}
    (opens : w.place.opens? action = some place) (listed : place.IsListed w.topology) :
    ∃ e ∈ w.entries, e.action = some action := by
  unfold Place.opens? at opens
  unfold entries
  split at opens
  case h_5 => cases opens
  all_goals
    next here =>
      cases opens
      rw [here]
      exact ⟨_, List.mem_map_of_mem listed, rfl⟩

theorem exists_entry_choose {board : BoardId} {port : String} {setup : PortSetup}
    (here : w.place = .linkBoosterMenu board port setup.sensor setup.lanes)
    (offered : w.topology.offers board port setup = true) :
    ∃ e ∈ w.entries, e.action = some (.choose setup.linkBooster) := by
  unfold entries
  rw [here]
  exact ⟨_, List.mem_map_of_mem (Topology.offers_iff.mp offered), rfl⟩

theorem exists_entry_of_hasPending (top : w.place = .topLevel) (pending : w.hasPending = true)
    (action : Action) (mem : action ∈ [.saveAndReboot, .saveOnly, .discardAll]) :
    ∃ e ∈ w.footer, e.action = some action := by
  have rows : ∃ e ∈ saveEntries, e.action = some action := by
    simp only [List.mem_cons, List.not_mem_nil, or_false] at mem
    rcases mem with rfl | rfl | rfl
    · exact ⟨_, .head _, rfl⟩
    · exact ⟨_, .tail _ (.head _), rfl⟩
    · exact ⟨_, .tail _ (.tail _ (.head _)), rfl⟩
  obtain ⟨e, row, acts⟩ := rows
  refine ⟨e, ?_, acts⟩
  unfold footer
  rw [top]
  simp [pending, row]

theorem exists_action?_of_mem (shown : w.menu = .ok menu) {e : Entry Action}
    (mem : e ∈ w.entries ∨ e ∈ w.footer) :
    ∃ page row, page < menu.count ∧ menu.action? page row = e.action := by
  rcases mem with mem | mem
  · exact Paged.exists_action?_entry shown mem
  · obtain ⟨row, found⟩ := Paged.exists_action?_footer shown mem (count_pos shown)
    exact ⟨0, row, count_pos shown, found⟩

/-! ### The cursor -/

/-- The cursor is shown on a page of the menu, on a row that can be selected. -/
theorem isSelectable_cursor (shown : w.menu = .ok menu) :
    (w.cursor menu).1 < menu.count ∧
      menu.isSelectable (w.cursor menu).1 (w.cursor menu).2 = true := by
  have count := count_pos shown
  have inside : (w.cursor menu).1 < menu.count := by
    simp only [cursor]
    omega
  refine ⟨inside, ?_⟩
  obtain ⟨row, selectable⟩ := exists_selectable shown inside
  obtain ⟨first, found, choice⟩ := Paged.exists_firstChoice? selectable
  simp only [cursor] at found choice ⊢
  split
  · assumption
  · rw [found]
    exact choice

theorem cursor_eq {page row : Nat} (atPage : w.current.page = page) (atRow : w.current.row = row)
    (inside : page < menu.count) (selectable : menu.isSelectable page row = true) :
    w.cursor menu = (page, row) := by
  have same : min page (menu.count - 1) = page := by omega
  simp only [cursor, atPage, atRow, same]
  rw [if_pos selectable]

theorem cursor_atCursor {page row : Nat} (inside : page < menu.count)
    (selectable : menu.isSelectable page row = true) :
    (w.atCursor page row).cursor menu = (page, row) :=
  cursor_eq rfl rfl inside selectable

/-- What is drawn is the page of the cursor, with the cursor on it. -/
theorem view_of_menu (shown : w.menu = .ok menu) : w.view = .ok
    { title := w.title
      rows := shownRows (menu.page (w.cursor menu).1) (w.cursor menu).2
      status := w.notice.map (·.text) } := by
  unfold Wizard.view
  rw [shown]
  rfl

theorem menu_atCursor (w : Wizard) (page row : Nat) : (w.atCursor page row).menu = w.menu := rfl

end CameraSetup.Wizard
