import CameraSetup.Menu.Paged

/-! What stands where on a laid-out menu. A menu is a number of pages with equally many places for
entries, followed by the footer; `action?_layOut` gives the action on every row of every page. So
each entry stands on one page, the footer on all of them. -/

namespace CameraSetup.Menu.Paged

variable {α : Type} {entries footer : List (Entry α)} {capacity page row : Nat} {list : Paged α}

/-- The action on a row of a page. -/
def action? (list : Paged α) (page row : Nat) : Option α :=
  (list.entry? page row).bind (·.action)

/-- The places for entries on each page. -/
def places (entries footer capacity : Nat) : Nat :=
  if entries + footer ≤ capacity then entries else capacity - (footer + captionRows)

/-- The number of pages. -/
def pageCount (entries footer capacity : Nat) : Nat :=
  if entries + footer ≤ capacity then 1
  else pagesNeeded entries (places entries footer capacity)

theorem isSelectable_eq (list : Paged α) (page row : Nat) :
    list.isSelectable page row = (list.action? page row).isSome := by
  rw [isSelectable, action?]
  cases list.entry? page row <;> rfl

/-! ### The pages -/

/-- A menu is laid out on one page, or on pages with room for at least one entry each. -/
theorem layOut_ok (h : layOut entries footer capacity = .ok list) :
    (entries.length + footer.length ≤ capacity ∧ list = ⟨[entries ++ footer]⟩) ∨
    (capacity < entries.length + footer.length ∧ footer.length + captionRows < capacity ∧
      list = ⟨(List.range (pageCount entries.length footer.length capacity)).map fun index =>
        entryRows entries (places entries.length footer.length capacity) index ++ footer ++
          [.spacer, .caption (captionText index
            (pageCount entries.length footer.length capacity))]⟩) := by
  unfold layOut at h
  split at h
  · next fits =>
    cases h
    exact .inl ⟨fits, rfl⟩
  · next fits =>
    split at h
    · cases h
    · next room =>
      refine .inr ⟨Nat.lt_of_not_le fits, Nat.lt_of_not_le room, ?_⟩
      cases h
      simp only [pageCount, places, if_neg fits]

theorem count_layOut (h : layOut entries footer capacity = .ok list) :
    list.count = pageCount entries.length footer.length capacity := by
  rcases layOut_ok h with ⟨fits, rfl⟩ | ⟨-, -, rfl⟩
  · simp [count, pageCount, fits]
  · simp [count]

theorem length_entryRows (entries : List (Entry α)) (perPage index : Nat) :
    (entryRows entries perPage index).length = perPage := by
  simp only [entryRows, List.length_rightpad, List.length_take]
  omega

/-- The only page is as high as what is on it; each of several is as high as a page can be. -/
theorem length_page (h : layOut entries footer capacity = .ok list) (inside : page < list.count) :
    (list.page page).length =
      if entries.length + footer.length ≤ capacity then entries.length + footer.length
      else capacity := by
  rcases layOut_ok h with ⟨fits, rfl⟩ | ⟨large, room, rfl⟩
  · obtain rfl : page = 0 := Nat.lt_one_iff.mp inside
    rw [if_pos fits]
    exact List.length_append
  · have inside : page < pageCount entries.length footer.length capacity := by
      simpa [count] using inside
    rw [Paged.page, List.getElem?_map, List.getElem?_range inside, if_neg (by omega)]
    simp only [Option.map_some, Option.getD_some, List.length_append, length_entryRows,
      List.length_cons, List.length_nil, places, if_neg (Nat.not_le_of_lt large), captionRows] at *
    omega

/-- A place on a page holds the entry of its number, or nothing to select. -/
theorem action_entryRows (entries : List (Entry α)) {perPage row : Nat} (h : row < perPage)
    (index : Nat) :
    ((entryRows entries perPage index)[row]?).bind (·.action) =
      (entries[index * perPage + row]?).bind (·.action) := by
  have taken : ((entries.drop (index * perPage)).take perPage)[row]? =
      entries[index * perPage + row]? := by
    rw [List.getElem?_take_of_lt h, List.getElem?_drop]
  rw [entryRows, List.rightpad, List.getElem?_append]
  split
  · rw [taken]
  · next outside =>
    rw [← taken, List.getElem?_eq_none (Nat.le_of_not_lt outside), List.getElem?_replicate]
    split <;> rfl

/-- The action on a row: that of an entry where places for entries are, that of a row of the footer
below. -/
theorem action?_layOut (h : layOut entries footer capacity = .ok list)
    (inside : page < pageCount entries.length footer.length capacity) (row : Nat) :
    list.action? page row =
      if row < places entries.length footer.length capacity then
        (entries[page * places entries.length footer.length capacity + row]?).bind (·.action)
      else (footer[row - places entries.length footer.length capacity]?).bind (·.action) := by
  rcases layOut_ok h with ⟨fits, rfl⟩ | ⟨-, -, rfl⟩
  · have first : page = 0 := by
      rw [pageCount, if_pos fits] at inside
      omega
    subst first
    simp only [action?, entry?, Paged.page, places, if_pos fits, List.getElem?_append,
      List.getElem?_cons_zero, Option.getD_some, Nat.zero_mul, Nat.zero_add]
    split <;> rfl
  · generalize hcount : pageCount entries.length footer.length capacity = total at *
    generalize places entries.length footer.length capacity = perPage
    have rows := length_entryRows entries perPage page
    simp only [action?, entry?, Paged.page, List.getElem?_map,
      List.getElem?_range inside, Option.map_some, Option.getD_some, List.append_assoc]
    split
    · next place =>
      rw [List.getElem?_append_left (by omega), action_entryRows entries place]
    · next below =>
      rw [List.getElem?_append_right (by omega), rows, List.getElem?_append]
      split
      · rfl
      · next outside =>
        rw [List.getElem?_eq_none (Nat.le_of_not_lt outside)]
        match row - perPage - footer.length with
        | 0 | 1 | _ + 2 => rfl

/-! ### Where entries and footer stand -/

theorem places_pos (h : layOut entries footer capacity = .ok list) (some : entries ≠ []) :
    0 < places entries.length footer.length capacity := by
  have := List.length_pos_iff.mpr some
  rcases layOut_ok h with ⟨fits, -⟩ | ⟨large, room, -⟩
  · rwa [places, if_pos fits]
  · rw [places, if_neg (by omega)]
    omega

theorem pageCount_pos (h : layOut entries footer capacity = .ok list) :
    0 < pageCount entries.length footer.length capacity := by
  rcases layOut_ok h with ⟨fits, -⟩ | ⟨large, room, -⟩
  · rw [pageCount, if_pos fits]
    exact Nat.one_pos
  · rw [pageCount, if_neg (by omega), places, if_neg (by omega), pagesNeeded]
    exact Nat.div_pos (by omega) (by omega)

theorem page_of_entry (h : layOut entries footer capacity = .ok list) {i : Nat}
    (hi : i < entries.length) :
    i / places entries.length footer.length capacity <
      pageCount entries.length footer.length capacity := by
  have pos := places_pos h (List.ne_nil_of_length_pos (by omega))
  rcases layOut_ok h with ⟨fits, -⟩ | ⟨large, room, -⟩
  · rw [pageCount, if_pos fits, places, if_pos fits, Nat.div_eq_of_lt hi]
    exact Nat.one_pos
  · rw [pageCount, if_neg (by omega), pagesNeeded]
    refine (Nat.div_lt_iff_lt_mul pos).mpr (Nat.lt_of_lt_of_le hi ?_)
    have := Nat.div_add_mod (entries.length + places entries.length footer.length capacity - 1)
      (places entries.length footer.length capacity)
    have := Nat.mod_lt (entries.length + places entries.length footer.length capacity - 1) pos
    rw [Nat.mul_comm]
    omega

theorem exists_action?_entry (h : layOut entries footer capacity = .ok list) {e : Entry α}
    (mem : e ∈ entries) : ∃ page row, page < list.count ∧ list.action? page row = e.action := by
  obtain ⟨i, hi, rfl⟩ := List.getElem_of_mem mem
  have inside := page_of_entry h hi
  have pos := places_pos h (List.ne_nil_of_mem mem)
  refine ⟨_, i % places entries.length footer.length capacity, count_layOut h ▸ inside, ?_⟩
  rw [action?_layOut h inside, if_pos (Nat.mod_lt i pos), Nat.div_add_mod' i,
    List.getElem?_eq_getElem hi]
  rfl

theorem exists_action?_footer (h : layOut entries footer capacity = .ok list) {e : Entry α}
    (mem : e ∈ footer) (inside : page < list.count) :
    ∃ row, list.action? page row = e.action := by
  obtain ⟨i, hi, rfl⟩ := List.getElem_of_mem mem
  refine ⟨places entries.length footer.length capacity + i, ?_⟩
  rw [action?_layOut h (count_layOut h ▸ inside), if_neg (by omega), Nat.add_sub_cancel_left,
    List.getElem?_eq_getElem hi]
  rfl

/-! ### Which actions a menu has -/

/-- Some row of some page has the action. -/
def Carries (list : Paged α) (action : α) : Prop :=
  ∃ rows ∈ list.pages, ∃ e ∈ rows, e.action = some action

instance [DecidableEq α] (list : Paged α) (action : α) : Decidable (list.Carries action) :=
  inferInstanceAs (Decidable (∃ rows ∈ list.pages, ∃ e ∈ rows, e.action = some action))

theorem exists_page_of_entry? {e : Entry α} (shown : list.entry? page row = some e) :
    ∃ rows ∈ list.pages, e ∈ rows := by
  have mem : e ∈ list.page page := List.mem_of_getElem? shown
  rw [Paged.page] at mem
  cases inside : list.pages[page]? with
  | none =>
    rw [inside] at mem
    cases mem
  | some rows =>
    rw [inside] at mem
    exact ⟨rows, List.mem_of_getElem? inside, mem⟩

theorem carries_of_action? {action : α} (found : list.action? page row = some action) :
    list.Carries action := by
  obtain ⟨e, shown, acts⟩ := Option.bind_eq_some_iff.mp found
  obtain ⟨rows, inside, mem⟩ := exists_page_of_entry? shown
  exact ⟨rows, inside, e, mem, acts⟩

theorem mem_or_eq_spacer_of_mem_entryRows {e : Entry α} {perPage index : Nat}
    (mem : e ∈ entryRows entries perPage index) : e ∈ entries ∨ e = .spacer := by
  rw [entryRows, List.rightpad, List.mem_append] at mem
  rcases mem with mem | filler
  · exact .inl (List.mem_of_mem_drop (List.mem_of_mem_take mem))
  · exact .inr (List.eq_of_mem_replicate filler)

/-- On a page stand entries, the footer, spacers, and the caption. -/
theorem row_of_mem_pages (h : layOut entries footer capacity = .ok list) {rows : List (Entry α)}
    (page : rows ∈ list.pages) {e : Entry α} (mem : e ∈ rows) :
    (e ∈ entries ∨ e ∈ footer) ∨ e = .spacer ∨
      ∃ index count, e = .caption (captionText index count) := by
  rcases layOut_ok h with ⟨-, rfl⟩ | ⟨-, -, rfl⟩
  · rw [List.mem_singleton.mp page] at mem
    exact .inl (List.mem_append.mp mem)
  · obtain ⟨index, -, rfl⟩ := List.mem_map.mp page
    rcases List.mem_append.mp mem with mem | captions
    · rcases List.mem_append.mp mem with mem | mem
      · exact (mem_or_eq_spacer_of_mem_entryRows mem).imp .inl .inl
      · exact .inl (.inr mem)
    · simp only [List.mem_cons, List.not_mem_nil, or_false] at captions
      exact .inr (captions.imp_right fun caption => ⟨_, _, caption⟩)

theorem mem_of_mem_pages (h : layOut entries footer capacity = .ok list) {rows : List (Entry α)}
    (page : rows ∈ list.pages) {e : Entry α} (mem : e ∈ rows) {action : α}
    (acts : e.action = some action) : e ∈ entries ∨ e ∈ footer := by
  rcases row_of_mem_pages h page mem with row | rfl | ⟨index, count, rfl⟩
  · exact row
  · cases acts
  · cases acts

/-- The rows of a menu that do something are its entries and its footer. -/
theorem carries_layOut (h : layOut entries footer capacity = .ok list) {action : α} :
    list.Carries action ↔ ∃ e, (e ∈ entries ∨ e ∈ footer) ∧ e.action = some action := by
  constructor
  · rintro ⟨rows, page, e, mem, acts⟩
    exact ⟨e, mem_of_mem_pages h page mem acts, acts⟩
  · rintro ⟨e, mem | mem, acts⟩
    · obtain ⟨page, row, -, found⟩ := exists_action?_entry h mem
      exact carries_of_action? (found.trans acts)
    · obtain ⟨row, found⟩ := exists_action?_footer h mem (count_layOut h ▸ pageCount_pos h)
      exact carries_of_action? (found.trans acts)

/-! ### Layouts with equally many places on a page -/

theorem pageCount_eq {entries : Nat} (some : 0 < entries) (footer capacity : Nat) :
    pageCount entries footer capacity = pagesNeeded entries (places entries footer capacity) := by
  rw [pageCount]
  split
  · next fits =>
    rw [places, if_pos fits, pagesNeeded]
    exact (Nat.div_eq_of_lt_le (by omega) (by omega)).symm
  · rfl

theorem page_start_lt (h : layOut entries footer capacity = .ok list) (some : entries ≠ [])
    (inside : page < pageCount entries.length footer.length capacity) :
    page * places entries.length footer.length capacity < entries.length := by
  have length := List.length_pos_iff.mpr some
  have pos := places_pos h some
  rw [pageCount_eq length, pagesNeeded] at inside
  have full := (Nat.le_div_iff_mul_le pos).mp (Nat.succ_le_of_lt inside)
  rw [Nat.succ_mul] at full
  omega

/-- Menus with the same actions and equally many places on a page have each of them in the same
place. -/
theorem action?_of_places_eq {entries' footer' : List (Entry α)} {list' : Paged α}
    (h : layOut entries footer capacity = .ok list)
    (h' : layOut entries' footer' capacity = .ok list')
    (actions : entries'.map (·.action) = entries.map (·.action)) (some : entries ≠ [])
    (same : places entries'.length footer'.length capacity =
      places entries.length footer.length capacity)
    (inside : page < list.count) (place : row < places entries.length footer.length capacity) :
    page < list'.count ∧ list'.action? page row = list.action? page row := by
  have length : entries'.length = entries.length := by simpa using congrArg List.length actions
  have pos := List.length_pos_iff.mpr some
  have count : list'.count = list.count := by
    rw [count_layOut h, count_layOut h', pageCount_eq pos, pageCount_eq (length ▸ pos), same,
      length]
  have entry : ∀ (es : List (Entry α)) (i : Nat),
      (es[i]?).bind (·.action) = ((es.map (·.action))[i]?).join := by
    intro es i
    rw [List.getElem?_map]
    cases es[i]? <;> rfl
  refine ⟨count ▸ inside, ?_⟩
  rw [action?_layOut h (count_layOut h ▸ inside), if_pos place,
    action?_layOut h' (count_layOut h' ▸ count ▸ inside), if_pos (same ▸ place), same, entry,
    entry, actions]

end CameraSetup.Menu.Paged
