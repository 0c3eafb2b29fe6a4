import CameraSetup.Proofs.Wizard.Returns

/-! Where the highlight is when a menu is in front again. A cursor is a page and a row, so it is on
the entry that it was on when the menu has as many places for entries on a page as before. The
places change only in the top-level menu, whose footer is longer while something is pending, and
not even there when the boards and the longer footer fit on one page. -/

namespace CameraSetup.Wizard

open Menu (Entry Paged)

variable {t : Topology} {capacity : Nat} {w w' : Wizard} {menu : Paged Action} {action : Action}
  {keys : List Key} {page row : Nat}

/-- The highlighted row carries an action. -/
def Highlights (w : Wizard) (action : Action) : Prop :=
  ∃ menu view row, w.menu = .ok menu ∧ w.view = .ok view ∧
    view.rows.findIdx? (·.highlighted) = some row ∧
    menu.action? (w.cursor menu).1 row = some action

/-- The enter key opens a menu from the highlighted row, and keys lead back for the first time. -/
structure Visit (w : Wizard) (action : Action) (keys : List Key) (w' : Wizard) : Prop where
  highlighted : w.Highlights action
  opened : w.depth < (w.press .enter).1.depth
  returns : Returns w.depth (w.press .enter).1 keys w'

/-! ### The highlighted row -/

theorem findIdx?_shownRows {rows : List (Entry Action)}
    (selectable : (rows[row]?).any (·.isSelectable) = true) :
    (shownRows rows row).findIdx? (·.highlighted) = some row := by
  cases found : rows[row]? with
  | none =>
    rw [found] at selectable
    cases selectable
  | some e =>
    rw [found] at selectable
    obtain ⟨inside, rfl⟩ := List.getElem?_eq_some_iff.mp found
    refine List.findIdx?_eq_some_iff_getElem.mpr ⟨by simpa [shownRows] using inside, ?_, ?_⟩
    · simpa [shownRows] using selectable
    · intro i before
      simp [shownRows, Nat.ne_of_lt before]

theorem highlights_iff (shown : w.menu = .ok menu) :
    w.Highlights action ↔ menu.action? (w.cursor menu).1 (w.cursor menu).2 = some action := by
  have selectable := (isSelectable_cursor shown).2
  have view := view_of_menu shown
  have highlighted := findIdx?_shownRows selectable
  constructor
  · rintro ⟨menu', view', row, shown', viewed, found, under⟩
    cases shown.symm.trans shown'
    cases view.symm.trans viewed
    cases highlighted.symm.trans found
    exact under
  · exact fun under => ⟨menu, _, _, shown, view, highlighted, under⟩

/-! ### Entries that open menus -/

theorem opens?_footer {e : Entry Action} (mem : e ∈ w.footer) (acts : e.action = some action) :
    w.place.opens? action = none := by
  unfold footer at mem
  split at mem
  · next top =>
    rw [top]
    rcases List.mem_append.mp mem with mem | mem
    · rcases List.mem_cons.mp mem with rfl | mem
      · cases acts
      · split at mem
        · simp only [saveEntries, List.mem_cons, List.not_mem_nil, or_false] at mem
          rcases mem with rfl | rfl | rfl <;> (cases acts; rfl)
        · cases mem
    · rw [List.mem_singleton] at mem
      subst mem
      cases acts
      rfl
  · next here =>
    rw [here]
    simp only [List.mem_cons, List.not_mem_nil, or_false] at mem
    rcases mem with rfl | rfl
    · cases acts
    · cases acts
      rfl
  · simp only [List.mem_cons, List.not_mem_nil, or_false] at mem
    rcases mem with rfl | rfl | rfl <;> cases acts
    · cases w.place <;> rfl
    · cases w.place <;> rfl

/-- The places for entries on a page of the menu in front. -/
def places (w : Wizard) : Nat := Paged.places w.entries.length w.footer.length w.pageCapacity

/-- An action that opens a menu stands among the entries. -/
theorem lt_places_of_opens? (shown : w.menu = .ok menu) (inside : page < menu.count)
    (under : menu.action? page row = some action) (opens : (w.place.opens? action).isSome = true) :
    row < w.places ∧
      (w.entries[page * w.places + row]?).bind (·.action) = some action := by
  rw [Paged.action?_layOut shown (Paged.count_layOut shown ▸ inside)] at under
  split at under
  · next place => exact ⟨place, under⟩
  · obtain ⟨e, found, acts⟩ := Option.bind_eq_some_iff.mp under
    rw [opens?_footer (List.mem_of_getElem? found) acts] at opens
    cases opens

theorem actions_entries (topology : w'.topology = w.topology) (place : w'.place = w.place) :
    w'.entries.map (·.action) = w.entries.map (·.action) := by
  unfold entries
  rw [place, topology]
  split <;> simp [boardEntry, portEntry, Entry.ofAction, Function.comp_def]

/-! ### Back from a visit -/

/-- A visit opens a menu, and leads back to the menu that it started from, with the cursor where it
was. -/
theorem Visit.back (visit : Visit w action keys w') (h : Invariant t w)
    (shown : w.menu = .ok menu) :
    menu.action? (w.cursor menu).1 (w.cursor menu).2 = some action ∧
      (w.place.opens? action).isSome = true ∧ w'.frames = (w.settled menu).frames ∧
      Invariant t w' ∧ w'.pageCapacity = w.pageCapacity := by
  have under := (highlights_iff shown).mp visit.highlighted
  have entered : w.press .enter = (w.settled menu).activate action := press_enter shown rfl under
  have opened := visit.opened
  have returns := visit.returns
  have capacity := pageCapacity_press w .enter
  have invariant := h.press .enter
  rw [entered] at opened returns capacity invariant
  refine ⟨under, ?_⟩
  rcases frames_activate (h.atCursor (w.cursor menu).1 (w.cursor menu).2) action with
    ⟨place, opens, result⟩ | same | closed
  · have opens : w.place.opens? action = some place := opens
    change ((w.settled menu).activate action).1 = _ at result
    rw [result] at returns invariant capacity
    have kept : (w.settled menu).frames <:+ ((w.settled menu).quiet.opening place).frames :=
      List.suffix_cons _ _
    obtain ⟨frames, invariant', capacity'⟩ :=
      @Returns.frames_eq _ _ _ _ (w.settled menu).frames returns invariant kept
    exact ⟨by rw [opens]; rfl, frames, invariant', capacity'.trans capacity⟩
  · have : ((w.settled menu).activate action).1.depth = w.depth :=
      congrArg (·.length + 1) same
    omega
  · have : ((w.settled menu).activate action).1.frames.length ≤ w.outer.length := closed.length_le
    have : ((w.settled menu).activate action).1.depth ≤ w.outer.length := this
    have : w.depth = w.outer.length + 1 := rfl
    omega

/-- The highlight is kept when the menu has as many places on a page as before. -/
theorem Visit.highlights (visit : Visit w action keys w') (h : Invariant t w)
    (enough : leastCapacity ≤ w.pageCapacity) (same : w'.places = w.places) :
    w'.Highlights action := by
  obtain ⟨menu, shown⟩ := exists_menu enough
  obtain ⟨under, opens, frames, h', capacity⟩ := visit.back h shown
  obtain ⟨menu', shown'⟩ := @exists_menu w' (capacity ▸ enough)
  have current : w'.current = (w.settled menu).current := (List.cons.inj frames).1
  have inside := (isSelectable_cursor shown).1
  obtain ⟨place, entry⟩ := lt_places_of_opens? shown inside under opens
  have some : w.entries ≠ [] := by
    intro none
    rw [none] at entry
    cases entry
  have actions := @actions_entries w w' (h'.topology.trans h.topology.symm)
    (congrArg (·.place) current)
  unfold Wizard.menu at shown'
  unfold Wizard.places at same place
  rw [capacity] at shown' same
  obtain ⟨inside', acts⟩ :=
    Paged.action?_of_places_eq shown shown' actions some same inside place
  have selectable : menu'.isSelectable (w.cursor menu).1 (w.cursor menu).2 = true := by
    rw [Paged.isSelectable_eq, acts, under]
    rfl
  have cursor := cursor_eq (congrArg (·.page) current) (congrArg (·.row) current) inside' selectable
  rw [← capacity] at shown'
  rw [highlights_iff shown', cursor, acts, under]

/-! ### The places of the top-level menu -/

theorem length_entries_topLevel (top : w.place = .topLevel) :
    w.entries.length = w.topology.boards.size := by
  simp [entries, top, SortedMap.keys, SortedMap.size]

theorem length_footer_topLevel (top : w.place = .topLevel) :
    w.footer.length = if w.hasPending then 5 else 2 := by
  unfold footer
  rw [top]
  dsimp only
  split <;> rfl

/-- A menu has as many places as before unless it is the top-level menu, with something pending now
and not before or the other way round, and with too many boards for one page. -/
theorem places_eq (topology : w'.topology = w.topology) (place : w'.place = w.place)
    (capacity : w'.pageCapacity = w.pageCapacity)
    (kept : w.place ≠ .topLevel ∨ w'.hasPending = w.hasPending ∨
      w.topology.boards.size + 5 ≤ w.pageCapacity) : w'.places = w.places := by
  have entries : w'.entries.length = w.entries.length := by
    simpa using congrArg List.length (actions_entries topology place)
  unfold places
  rw [entries, capacity]
  by_cases top : w.place = .topLevel
  · have footer := length_footer_topLevel top
    have footer' := length_footer_topLevel (place.trans top)
    rcases kept.resolve_left (not_not_intro top) with same | fits
    · rw [footer', footer, same]
    · rw [← length_entries_topLevel top] at fits
      have short := w.length_footer_le
      have short' := w'.length_footer_le
      rw [Paged.places, Paged.places, if_pos (by omega), if_pos (by omega)]
  · have same : w'.footer = w.footer := by
      unfold footer
      rw [place]
      split
      · next here => exact absurd here top
      · rfl
      · rfl
    rw [same]

end CameraSetup.Wizard
