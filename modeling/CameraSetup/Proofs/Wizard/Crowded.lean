import CameraSetup.Proofs.Topology.Content
import CameraSetup.Proofs.Wizard.Highlight

/-! The top-level menu with more boards than fit on one page. While something is pending it has
fewer places for boards on a page, so after a visit to the last board, during which a port was set
up, the highlight is somewhere else. Main statement: every visit keeps the highlight exactly when
the boards and the longest footer fit on one page. -/

namespace CameraSetup.Wizard

open Menu (Entry Paged)

variable {t : Topology} {connector : Connector} {descriptors : List String} {capacity : Nat}
  {w w' : Wizard} {menu : Paged Action} {action : Action} {board : BoardId}

/-! ### A visit after which something is pending -/

theorem press_enter_opening (enough : leastCapacity ≤ w.pageCapacity) {place : Place}
    (first : ((w.opening place).entries[0]?).bind (·.action) = some action) :
    (w.opening place).press .enter = (w.opening place).activate action := by
  obtain ⟨menu, shown⟩ := @exists_menu (w.opening place) enough
  have some : (w.opening place).entries ≠ [] := by
    intro none
    rw [none] at first
    cases first
  have under : menu.action? 0 0 = Option.some action := by
    rw [Paged.action?_layOut shown (Paged.pageCount_pos shown),
      if_pos (Paged.places_pos shown some), Nat.zero_mul]
    exact first
  have selectable : menu.isSelectable 0 0 = true := by
    rw [Paged.isSelectable_eq, under]
    rfl
  exact press_enter shown (cursor_eq rfl rfl (count_pos shown) selectable) under

/-- Below the top-level menu the first entry of a menu that was just opened opens the next. -/
theorem exists_press_enter_opening
    (built : Topology.ofDescriptors connector descriptors = .ok t) (topology : w.topology = t)
    (enough : leastCapacity ≤ w.pageCapacity) {place : Place} (listed : place.IsListed t)
    {level : Nat} (deep : place.level = level) (between : 0 < level ∧ level < 4) :
    ∃ next : Place, next.IsListed t ∧ next.level = level + 1 ∧
      (w.opening place).press .enter = ((w.opening place).quiet.opening next, .ok .pending) := by
  subst deep
  cases place with
  | topLevel => exact absurd between.1 (Nat.lt_irrefl 0)
  | portMenu board =>
    obtain ⟨port, ports, found⟩ :=
      List.exists_cons_of_ne_nil ((Topology.listings_ne_nil built board).1 listed)
    have mem : port ∈ (t.ports? board).getD [] := found ▸ List.mem_cons_self
    have first : ((w.opening (.portMenu board)).entries[0]?).bind (·.action) =
        some (.openPort port) := by
      show ((((w.topology.ports? board).getD []).map _)[0]?).bind _ = _
      rw [topology, found]
      rfl
    exact ⟨.sensorMenu board port, mem, rfl, (press_enter_opening enough first).trans
      (activate_of_opens? rfl (topology ▸ mem))⟩
  | sensorMenu board port =>
    obtain ⟨sensor, sensors, found⟩ :=
      List.exists_cons_of_ne_nil ((Topology.listings_ne_nil built board).2.1 port listed)
    have mem : sensor ∈ (t.sensors? board port).getD [] := found ▸ List.mem_cons_self
    have first : ((w.opening (.sensorMenu board port)).entries[0]?).bind (·.action) =
        some (.openSensor sensor) := by
      show ((((w.topology.sensors? board port).getD []).map _)[0]?).bind _ = _
      rw [topology, found]
      rfl
    exact ⟨.laneMenu board port sensor, mem, rfl, (press_enter_opening enough first).trans
      (activate_of_opens? rfl (topology ▸ mem))⟩
  | laneMenu board port sensor =>
    obtain ⟨lanes, counts, found⟩ :=
      List.exists_cons_of_ne_nil ((Topology.listings_ne_nil built board).2.2 port sensor listed)
    have mem : lanes ∈ (t.lanes? board port sensor).getD [] := found ▸ List.mem_cons_self
    have first : ((w.opening (.laneMenu board port sensor)).entries[0]?).bind (·.action) =
        some (.openLanes lanes) := by
      show ((((w.topology.lanes? board port sensor).getD []).map _)[0]?).bind _ = _
      rw [topology, found]
      rfl
    exact ⟨.linkBoosterMenu board port sensor lanes, mem, rfl,
      (press_enter_opening enough first).trans (activate_of_opens? rfl (topology ▸ mem))⟩
  | linkBoosterMenu => exact absurd between.2 (Nat.lt_irrefl 4)

theorem hasPending_storePort (w : Wizard) (board : BoardId) (port : String) (setup : PortSetup) :
    (w.storePort board port setup).hasPending = true := by
  unfold storePort
  split
  · split <;> simp [hasPending, Selection.isEmpty, Selection.insert]
  · simp [hasPending, Selection.isEmpty, Selection.insert]

theorem frames_choose {top ports : Frame} {front : List Frame}
    (frames : w.frames = front ++ [ports, top]) (board : BoardId) (port : String)
    (setup : PortSetup) :
    ((w.storePort board port setup).closedTo 2).frames = [ports, top] ∧
      ((w.storePort board port setup).closedTo 2).hasPending = true := by
  obtain ⟨current, outer⟩ := frames_storePort w board port setup
  have stored : (w.storePort board port setup).current :: (w.storePort board port setup).outer =
      front ++ ports :: [top] := by
    rw [current, outer]
    exact frames
  have closed := @closedTo_of_append _ _ _ _ 2 stored rfl
  rw [closed]
  exact ⟨rfl, hasPending_storePort w board port setup⟩

theorem press_enter_choose
    (built : Topology.ofDescriptors connector descriptors = .ok t) (topology : w.topology = t)
    (enough : leastCapacity ≤ w.pageCapacity) {place : Place} (listed : place.IsListed t)
    (level : place.level = 4) {top ports : Frame} {front : List Frame}
    (frames : (w.opening place).frames = front ++ [ports, top]) :
    ((w.opening place).press .enter).1.frames = [ports, top] ∧
      ((w.opening place).press .enter).1.hasPending = true := by
  subst topology
  cases place with
  | linkBoosterMenu board port sensor lanes =>
    obtain ⟨booster, boosters, found⟩ :=
      List.exists_cons_of_ne_nil (List.ne_nil_of_mem (Topology.absent_mem_boosters built listed))
    have offered : w.topology.offers board port ⟨sensor, lanes, booster⟩ = true :=
      Topology.offers_iff.mpr (found ▸ List.mem_cons_self)
    have first : ((w.opening (.linkBoosterMenu board port sensor lanes)).entries[0]?).bind
        (·.action) = some (.choose booster) := by
      show ((((w.topology.boosters? board port sensor lanes).getD []).map _)[0]?).bind _ = _
      rw [found]
      rfl
    have chosen := @activate_choose (w.opening (.linkBoosterMenu board port sensor lanes)) board
      port ⟨sensor, lanes, booster⟩ rfl offered
    have behind : (w.opening (.linkBoosterMenu board port sensor lanes)).quiet.frames =
        front ++ [ports, top] := frames
    rw [press_enter_opening enough first, chosen]
    exact frames_choose behind board port _
  | topLevel | portMenu | sensorMenu | laneMenu => cases level

/-- The back key leads from the menu of a board to the top-level menu. -/
theorem exists_returns_back (enough : leastCapacity ≤ w.pageCapacity) {top ports : Frame}
    (frames : w.frames = [ports, top]) :
    ∃ w', Returns 1 w [.back] w' ∧ w'.hasPending = w.hasPending := by
  obtain ⟨menu, shown⟩ := exists_menu enough
  have outer : w.outer = [top] := (List.cons.inj frames).2
  have closed : w.press .back =
      ({ (w.settled menu).quiet with current := top, outer := [] }, .ok .pending) := by
    rw [press_back shown (by simp [outer])]
    show (w.settled menu).quiet.goBack = _
    rw [goBack, show (w.settled menu).quiet.outer = [top] from outer]
  refine ⟨(w.press .back).1, .press ?_ (.here ?_), ?_⟩
  · rw [show w.depth = 2 from congrArg List.length frames]
    exact Nat.one_lt_two
  · rw [closed]
    rfl
  · rw [closed]
    rfl

/-- From a menu that was just opened over the top-level menu, the enter key leads on to a link
booster menu and sets a port up, and the back key leads to the top-level menu. -/
theorem exists_returns_hasPending
    (built : Topology.ofDescriptors connector descriptors = .ok t) {left : Nat} {place : Place}
    (topology : w.topology = t) (enough : leastCapacity ≤ w.pageCapacity)
    (listed : place.IsListed t) (level : place.level + left = 4) (below : 0 < place.level)
    {top ports : Frame} {front : List Frame}
    (frames : (w.opening place).frames = front ++ [ports, top]) :
    ∃ keys w', Returns 1 (w.opening place) keys w' ∧ w'.hasPending = true := by
  have behind : 1 < (w.opening place).depth := by
    rw [show (w.opening place).depth = (front ++ [ports, top]).length from
      congrArg List.length frames, List.length_append]
    simp
  -- By the number of menus still to be opened, with more and more of them in front.
  induction left generalizing w place front with
  | zero =>
    obtain ⟨closed, pending⟩ := press_enter_choose built topology enough listed level frames
    have capacity := pageCapacity_press (w.opening place) .enter
    obtain ⟨w', returns, same⟩ := exists_returns_back (capacity ▸ enough) closed
    exact ⟨_, w', .press behind returns, same.trans pending⟩
  | succ left ih =>
    obtain ⟨next, listed', level', opened⟩ :=
      exists_press_enter_opening built topology enough listed rfl ⟨below, by omega⟩
    have frames' : ((w.opening place).quiet.opening next).frames =
        (.opened next :: front) ++ [ports, top] := congrArg (_ :: ·) frames
    obtain ⟨keys, w', returns, pending⟩ := ih (w := (w.opening place).quiet) topology enough listed'
      (by omega) (by omega) frames' (Nat.lt_succ_of_lt behind)
    exact ⟨_, w', .press behind (by rwa [opened]), pending⟩

/-- A visit to the menu of a board can leave something pending. -/
theorem exists_visit_hasPending
    (built : Topology.ofDescriptors connector descriptors = .ok t) (h : Invariant t w)
    (enough : leastCapacity ≤ w.pageCapacity) (top : w.place = .topLevel)
    (listed : board ∈ t.boards.keys) (highlighted : w.Highlights (.openBoard board)) :
    ∃ keys w', Visit w (.openBoard board) keys w' ∧ w'.hasPending = true := by
  obtain ⟨menu, shown⟩ := exists_menu enough
  have alone : w.outer = [] := by
    have behind := h.behind
    rw [top] at behind
    exact List.map_eq_nil_iff.mp behind
  have opens : (w.settled menu).place.opens? (.openBoard board) = some (.portMenu board) := by
    rw [show (w.settled menu).place = .topLevel from top]
    rfl
  have opened : w.press .enter = ((w.settled menu).quiet.opening (.portMenu board), .ok .pending) :=
    (press_enter shown rfl ((highlights_iff shown).mp highlighted)).trans
      (activate_of_opens? opens (h.topology ▸ listed))
  have frames : ((w.settled menu).quiet.opening (.portMenu board)).frames =
      [] ++ [.opened (.portMenu board), (w.settled menu).current] :=
    congrArg (fun outer => [_, _] ++ outer) alone
  obtain ⟨keys, w', returns, pending⟩ := @exists_returns_hasPending t _ _
    (w.settled menu).quiet built 3 (.portMenu board) h.topology enough listed rfl Nat.one_pos _ _ _
    frames
  refine ⟨keys, w', ⟨highlighted, ?_, ?_⟩, pending⟩
  · rw [opened]
    exact Nat.lt_succ_self _
  · rw [opened, show w.depth = 1 from congrArg (·.length + 1) alone]
    exact returns

/-! ### Where the highlight is after it -/

theorem isSelectable_of_mem_entries {e : Entry Action} (mem : e ∈ w.entries) :
    e.isSelectable = true := by
  unfold entries at mem
  split at mem <;> obtain ⟨_, -, rfl⟩ := List.mem_map.mp mem <;> rfl

/-- The cursor is not shown beyond where it was left. -/
theorem cursor_le (shown : w.menu = .ok menu) (some : w.entries ≠ []) :
    (w.cursor menu).1 ≤ w.current.page ∧ (w.cursor menu).2 ≤ w.current.row := by
  refine ⟨Nat.min_le_left _ _, ?_⟩
  have inside := (isSelectable_cursor shown).1
  rw [Paged.count_layOut shown] at inside
  have start := Paged.page_start_lt shown some inside
  have first : menu.isSelectable (w.cursor menu).1 0 = true := by
    rw [Paged.isSelectable_eq, Paged.action?_layOut shown inside,
      if_pos (Paged.places_pos shown some), Nat.add_zero, List.getElem?_eq_getElem start]
    exact isSelectable_of_mem_entries (List.getElem_mem start)
  simp only [cursor] at first ⊢
  split
  · exact Nat.le_refl _
  · rw [Paged.firstChoice?_eq_zero first]
    exact Nat.zero_le _

theorem board_of_entry (top : w.place = .topLevel) {i : Nat}
    (entry : (w.entries[i]?).bind (·.action) = some (.openBoard board)) :
    w.topology.boards.keys[i]? = some board := by
  unfold entries at entry
  rw [top] at entry
  dsimp only at entry
  rw [List.getElem?_map] at entry
  cases found : w.topology.boards.keys[i]? with
  | none =>
    rw [found] at entry
    cases entry
  | some b =>
    rw [found] at entry
    cases entry
    rfl

/-! ### Which visits keep the highlight -/

/-- With something pending, and boards that do not fit on one page with the longer footer, the
highlight has left the last board. -/
theorem not_highlights_last (h : Invariant t w) (h' : Invariant t w')
    (enough : leastCapacity ≤ w.pageCapacity) (tight : w.pageCapacity < t.boards.size + 5)
    (shown : w.menu = .ok menu) (top : w.place = .topLevel) (nothing : w.hasPending = false)
    (pending : w'.hasPending = true) (frames : w'.frames = (w.settled menu).frames)
    (capacity : w'.pageCapacity = w.pageCapacity)
    (last : t.boards.keys[t.boards.size - 1]? = some board)
    (highlighted : w.Highlights (.openBoard board)) : ¬ w'.Highlights (.openBoard board) := by
  intro again
  obtain ⟨menu', shown'⟩ := @exists_menu w' (capacity ▸ enough)
  have current : w'.current = (w.settled menu).current := (List.cons.inj frames).1
  have top' : w'.place = .topLevel := (congrArg (·.place) current).trans top
  -- The highlighted row of either menu is that of the last entry.
  have number : ∀ {v : Wizard} {m : Paged Action}, Invariant t v → v.menu = .ok m →
      v.place = .topLevel → v.Highlights (.openBoard board) → (v.cursor m).2 < v.places ∧
        (v.cursor m).1 * v.places + (v.cursor m).2 = t.boards.size - 1 ∧ v.entries ≠ [] := by
    intro v m hv hm htop hhigh
    obtain ⟨place, entry⟩ := lt_places_of_opens? hm (isSelectable_cursor hm).1
      ((highlights_iff hm).mp hhigh) (by rw [htop]; rfl)
    have here := board_of_entry htop entry
    rw [hv.topology] at here
    obtain ⟨inside, -⟩ := List.getElem?_eq_some_iff.mp here
    refine ⟨place,
      (List.getElem?_inj inside (SortedMap.nodup_keys _)).mp (here.trans last.symm), ?_⟩
    intro none
    rw [none] at entry
    cases entry
  obtain ⟨place, same, -⟩ := number h shown top highlighted
  obtain ⟨place', same', some'⟩ := number h' shown' top' again
  obtain ⟨page_le, row_le⟩ := cursor_le shown' some'
  have page_le : (w'.cursor menu').1 ≤ (w.cursor menu).1 :=
    page_le.trans_eq (congrArg (·.page) current)
  have row_le : (w'.cursor menu').2 ≤ (w.cursor menu).2 :=
    row_le.trans_eq (congrArg (·.row) current)
  have fewer : w'.places = w.pageCapacity - 7 ∧ w'.places < w.places := by
    have entries := length_entries_topLevel top
    have entries' := length_entries_topLevel top'
    have footer := length_footer_topLevel top
    have footer' := length_footer_topLevel top'
    rw [nothing, if_neg Bool.false_ne_true] at footer
    rw [pending, if_pos rfl] at footer'
    rw [h.topology] at entries
    rw [h'.topology] at entries'
    simp only [places, Paged.places, Menu.captionRows, entries, entries', footer, footer', capacity]
    simp only [leastCapacity] at enough
    rw [if_neg (by omega)]
    split <;> omega
  -- Only on the first page could the same cell be the same entry; there it is one of the footer.
  have first : (w.cursor menu).1 = 0 := by
    refine Nat.eq_zero_of_not_pos fun pos => ?_
    have := Nat.mul_le_mul_right w'.places page_le
    have := Nat.mul_lt_mul_of_pos_left fewer.2 pos
    omega
  rw [first, Nat.le_zero] at page_le
  rw [page_le, Nat.zero_mul] at same'
  omega

/-- Keys put the highlight on any board while nothing is pending. -/
theorem exists_keys_highlights (enough : leastCapacity ≤ capacity)
    (listed : board ∈ t.boards.keys) : ∃ (keys : List Key) (page row : Nat),
      (start t capacity).after (keys.map .key) = (start t capacity).atCursor page row ∧
        ((start t capacity).atCursor page row).Highlights (.openBoard board) := by
  obtain ⟨menu, shown⟩ := @exists_menu (start t capacity) enough
  have entry : (start t capacity).boardEntry board ∈ (start t capacity).entries :=
    List.mem_map_of_mem listed
  obtain ⟨page, row, inside, found⟩ := exists_action?_of_mem shown (.inl entry)
  have selectable : menu.isSelectable page row = true := by
    rw [Paged.isSelectable_eq, found]
    rfl
  obtain ⟨w, storedPage, storedRow, leads, rfl, cursor⟩ := leadsTo shown inside selectable
  obtain ⟨keys, -, reached, -⟩ := exists_keys leads
  refine ⟨keys, storedPage, storedRow, reached, ?_⟩
  have shown' : ((start t capacity).atCursor storedPage storedRow).menu = .ok menu := shown
  rw [highlights_iff shown', cursor, found]
  rfl

/-- Whatever was done before, every visit with this page capacity leads back to a highlight on the
entry that was opened. -/
def KeepsHighlight (t : Topology) (capacity : Nat) : Prop :=
  ∀ steps action keys w', ((start t capacity).after steps).pageCapacity = capacity →
    Visit ((start t capacity).after steps) action keys w' → w'.Highlights action

/-- Every visit leads back to a highlight on the entry that was opened exactly when the boards and
the longest footer fit on one page. Otherwise only a visit from the top-level menu can lose the
highlight, and only one before which nothing was pending while afterwards something is, or the other
way round. -/
theorem keepsHighlight_iff (built : Topology.ofDescriptors connector descriptors = .ok t)
    (enough : leastCapacity ≤ capacity) :
    (KeepsHighlight t capacity ↔ t.boards.size + 5 ≤ capacity) ∧
    ∀ steps action keys w', ((start t capacity).after steps).pageCapacity = capacity →
      Visit ((start t capacity).after steps) action keys w' →
      (((start t capacity).after steps).place ≠ .topLevel ∨
        w'.hasPending = ((start t capacity).after steps).hasPending) → w'.Highlights action := by
  have kept : ∀ steps action keys w', ((start t capacity).after steps).pageCapacity = capacity →
      Visit ((start t capacity).after steps) action keys w' →
      (((start t capacity).after steps).place ≠ .topLevel ∨
        w'.hasPending = ((start t capacity).after steps).hasPending ∨
        t.boards.size + 5 ≤ capacity) → w'.Highlights action := by
    intro steps action keys w' fixed visit same
    have h := (invariant_start t capacity).after steps
    generalize (start t capacity).after steps = w at fixed visit same h
    have enough' : leastCapacity ≤ w.pageCapacity := fixed ▸ enough
    obtain ⟨menu, shown⟩ := exists_menu enough'
    obtain ⟨-, -, frames, h', capacity'⟩ := visit.back h shown
    have place : w'.place = w.place := congrArg (·.place) (List.cons.inj frames).1
    rw [← fixed, ← h.topology] at same
    exact visit.highlights h enough'
      (places_eq (h'.topology.trans h.topology.symm) place capacity' same)
  refine ⟨⟨fun always => ?_, fun fits => ?_⟩, ?_⟩
  · -- With too many boards, a visit to the last one that sets a port up loses the highlight.
    refine Nat.le_of_not_lt fun tight => ?_
    have many : t.boards.size - 1 < t.boards.keys.length := by
      simp only [leastCapacity] at enough
      simp only [SortedMap.keys, List.length_map]
      show t.boards.size - 1 < t.boards.size
      omega
    have last := List.getElem?_eq_getElem many
    have listed := List.getElem_mem many
    generalize t.boards.keys[t.boards.size - 1] = board at last listed
    obtain ⟨keys0, page, row, reached, highlighted⟩ := exists_keys_highlights enough listed
    have h : Invariant t ((start t capacity).atCursor page row) :=
      (invariant_start t capacity).atCursor page row
    obtain ⟨keys, w', visit, pending⟩ :=
      exists_visit_hasPending built h enough rfl listed highlighted
    obtain ⟨menu, shown⟩ := @exists_menu ((start t capacity).atCursor page row) enough
    obtain ⟨-, -, frames, h', capacity'⟩ := visit.back h shown
    have lost := not_highlights_last h h' enough tight shown rfl rfl pending frames capacity' last
      highlighted
    exact lost (always (keys0.map .key) _ keys w' (by rw [reached]; rfl) (by rwa [reached]))
  · exact fun steps action keys w' fixed visit =>
      kept steps action keys w' fixed visit (.inr (.inr fits))
  · exact fun steps action keys w' fixed visit same =>
      kept steps action keys w' fixed visit (same.imp_right .inl)

/-- With three boards and the least page capacity, a visit during which a port is set up leads back
to the board that was opened. -/
theorem keepsHighlight_of_three_boards : ∃ t w',
    Topology.ofDescriptors .wide
      ["Tag FPA-1", "Tag FPA-2", "Tag FPA-3", "Tag imx900-P0-4Lane"] = .ok t ∧
    KeepsHighlight t 8 ∧
    Visit ((start t 8).after [.key .down, .key .down]) (.openBoard ⟨"3"⟩)
      [.enter, .enter, .enter, .enter, .back] w' ∧
    w'.hasPending = true ∧ w'.Highlights (.openBoard ⟨"3"⟩) := by
  have run : ∃ t w',
      Topology.ofDescriptors .wide
        ["Tag FPA-1", "Tag FPA-2", "Tag FPA-3", "Tag imx900-P0-4Lane"] = .ok t ∧
      t.boards.size + 5 = 8 ∧
      Visit ((start t 8).after [.key .down, .key .down]) (.openBoard ⟨"3"⟩)
        [.enter, .enter, .enter, .enter, .back] w' ∧
      w'.hasPending = true ∧ ((start t 8).after [.key .down, .key .down]).pageCapacity = 8 :=
    ⟨_, _, rfl, rfl, ⟨⟨_, _, 2, rfl, rfl, rfl, rfl⟩, by decide, .press (by decide)
      (.press (by decide) (.press (by decide) (.press (by decide) (.press (by decide)
        (.here rfl)))))⟩, rfl, rfl⟩
  obtain ⟨t, w', built, fits, visit, pending, fixed⟩ := run
  have keeps := (keepsHighlight_iff built (Nat.le_refl leastCapacity)).1.mpr (Nat.le_of_eq fits)
  exact ⟨t, w', built, keeps, visit, pending, keeps _ _ _ _ fixed visit⟩

/-- With one board more, the same visit leads from the third board to the row that saves. -/
theorem highlight_lost_with_four_boards : ∃ t w',
    Topology.ofDescriptors .wide
      ["Tag FPA-1", "Tag FPA-2", "Tag FPA-3", "Tag FPA-4", "Tag imx900-P0-4Lane"] = .ok t ∧
    Visit ((start t 8).after [.key .down, .key .down]) (.openBoard ⟨"3"⟩)
      [.enter, .enter, .enter, .enter, .back] w' ∧
    w'.Highlights .saveAndReboot ∧ ¬ w'.Highlights (.openBoard ⟨"3"⟩) := by
  have run : ∃ t w',
      Topology.ofDescriptors .wide
        ["Tag FPA-1", "Tag FPA-2", "Tag FPA-3", "Tag FPA-4", "Tag imx900-P0-4Lane"] = .ok t ∧
      Visit ((start t 8).after [.key .down, .key .down]) (.openBoard ⟨"3"⟩)
        [.enter, .enter, .enter, .enter, .back] w' ∧
      w'.Highlights .saveAndReboot :=
    ⟨_, _, rfl, ⟨⟨_, _, 2, rfl, rfl, rfl, rfl⟩, by decide, .press (by decide)
      (.press (by decide) (.press (by decide) (.press (by decide) (.press (by decide)
        (.here rfl)))))⟩, ⟨_, _, 2, rfl, rfl, rfl, rfl⟩⟩
  obtain ⟨t, w', built, visit, saves⟩ := run
  refine ⟨t, w', built, visit, saves, fun keeps => ?_⟩
  obtain ⟨menu, -, -, shown, -⟩ := id saves
  have same := ((highlights_iff shown).mp saves).symm.trans ((highlights_iff shown).mp keeps)
  cases same

end CameraSetup.Wizard
