import CameraSetup.Proofs.Menu.Layout
import Mathlib.Data.List.Basic

/-! The pages of a menu put one behind the other. A menu that can be laid out loses none of its
entries and gets no others: the rows before the footers are its entries in their order, then spacers
that fill up the last page. Main statement: `loses_and_invents_nothing`. -/

namespace CameraSetup.Menu

variable {α : Type}

/-! ### Captions -/

/-- The caption of a page counts it, and has an arrow on each side that has another page. -/
structure PointsAround (index count : Nat) (text : String) : Prop where
  counts : ∃ left right : String, left.length = 2 ∧ right.length = 2 ∧
    text = s!"{left} {index + 1}/{count} {right}"
  left : ['<', '-'] <+: text.toList ↔ ∃ before, before + 1 = index
  right : ['-', '>'] <:+ text.toList ↔ index + 1 < count

/-- What stands between the arrows of a caption. -/
def captionMiddle (index count : Nat) : List Char :=
  ' ' :: ((toString (index + 1)).toList ++ '/' :: ((toString count).toList ++ [' ']))

theorem toList_captionText (index count : Nat) : (captionText index count).toList =
    (if index = 0 then [' ', ' '] else ['<', '-']) ++ (captionMiddle index count ++
      if index + 1 = count then [' ', ' '] else ['-', '>']) := by
  rw [captionText, captionMiddle]
  split <;> split <;> simp [toString]

theorem pointsAround_captionText {index count : Nat} (inside : index < count) :
    PointsAround index count (captionText index count) := by
  refine ⟨⟨_, _, ?_, ?_, rfl⟩, ?_, ?_⟩
  · split <;> rfl
  · split <;> rfl
  · rw [toList_captionText]
    by_cases first : index = 0
    · rw [if_pos first]
      simp [first]
    · rw [if_neg first]
      simpa using (Nat.exists_eq_succ_of_ne_zero first).imp fun _ => Eq.symm
  · rw [toList_captionText, ← List.append_assoc]
    by_cases last : index + 1 = count
    · rw [if_pos last]
      refine iff_of_false ?_ (by omega)
      rintro ⟨front, same⟩
      have ends := congrArg List.getLast? same
      simp at ends
    · rw [if_neg last]
      exact iff_of_true (List.suffix_append _ _) (by omega)

namespace Paged

variable {entries footer : List (Entry α)} {capacity perPage page : Nat}
  {list : Paged α}

/-! ### The rows before the footers -/

theorem flatMap_take_drop (rows : List (Entry α)) (perPage count : Nat) :
    ((List.range count).flatMap fun index => (rows.drop (index * perPage)).take perPage) =
      rows.take (count * perPage) := by
  induction count with
  | zero => simp
  | succ count ih =>
    rw [List.range_succ, List.flatMap_append, ih, List.flatMap_singleton, Nat.succ_mul,
      List.take_add]

/-- The places of a page are cut out of the entries with enough spacers behind them. -/
theorem entryRows_eq {index fillers : Nat} (start : index * perPage ≤ entries.length)
    (enough : index * perPage + perPage ≤ entries.length + fillers) :
    entryRows entries perPage index =
      ((entries ++ List.replicate fillers Entry.spacer).drop (index * perPage)).take perPage := by
  rw [entryRows, List.rightpad, List.drop_append_of_le_length start, List.take_append,
    List.length_take, List.length_drop, List.take_replicate]
  congr 2
  omega

theorem flatMap_entryRows {count fillers : Nat}
    (whole : entries.length + fillers = count * perPage) (last : fillers ≤ perPage) :
    (List.range count).flatMap (entryRows entries perPage) =
      entries ++ List.replicate fillers Entry.spacer := by
  have cut : ∀ index ∈ List.range count, entryRows entries perPage index =
      ((entries ++ List.replicate fillers Entry.spacer).drop (index * perPage)).take perPage := by
    intro index mem
    have inside := Nat.mul_le_mul_right perPage (Nat.succ_le_of_lt (List.mem_range.mp mem))
    rw [Nat.succ_mul] at inside
    exact entryRows_eq (by omega) (by omega)
  have length : (entries ++ List.replicate fillers Entry.spacer).length = count * perPage := by
    rw [List.length_append, List.length_replicate, whole]
  rw [List.flatMap_congr cut, flatMap_take_drop, ← length, List.take_length]

/-! ### Several pages -/

section
variable (h : layOut entries footer capacity = .ok list)
  (large : capacity < entries.length + footer.length)
include h large

theorem places_of_large :
    places entries.length footer.length capacity + footer.length + captionRows = capacity ∧
      places entries.length footer.length capacity < entries.length := by
  rcases layOut_ok h with ⟨fits, -⟩ | ⟨-, room, -⟩
  · omega
  · rw [places, if_neg (by omega)]
    omega

theorem one_lt_pageCount : 1 < pageCount entries.length footer.length capacity := by
  have less := (places_of_large h large).2
  have pos := places_pos h (List.ne_nil_of_length_pos (by omega))
  have second := page_of_entry h less
  rwa [Nat.div_self pos] at second

/-- Several pages have a place for each entry, and the places left over are fewer than a page
has. -/
theorem exists_fillers :
    ∃ fillers, fillers < places entries.length footer.length capacity ∧
      entries.length + fillers = pageCount entries.length footer.length capacity *
        places entries.length footer.length capacity := by
  have less := (places_of_large h large).2
  have some : entries ≠ [] := List.ne_nil_of_length_pos (by omega)
  have pos := places_pos h some
  have count := one_lt_pageCount h large
  have last := page_of_entry h (Nat.sub_one_lt_of_lt less)
  have start := page_start_lt h some (Nat.sub_one_lt_of_lt count)
  generalize places entries.length footer.length capacity = perPage at *
  generalize pageCount entries.length footer.length capacity = total at *
  obtain ⟨before, rfl⟩ := Nat.exists_eq_succ_of_ne_zero (Nat.ne_of_gt (Nat.zero_lt_of_lt count))
  rw [Nat.div_lt_iff_lt_mul pos] at last
  rw [Nat.succ_sub_one] at start
  rw [Nat.succ_mul] at last ⊢
  exact ⟨before * perPage + perPage - entries.length, by omega, by omega⟩

end

/-! ### Whole menus -/

/-- What stands on the pages of a menu that has `places` rows before the footer on each: the entries
and no others, the whole footer, and on each of several pages a spacer and the caption. -/
structure IsSpread (entries footer : List (Entry α)) (capacity places : Nat) (list : Paged α) :
    Prop where
  count_pos : 0 < list.count
  length_le : ∀ rows ∈ list.pages, rows.length ≤ capacity
  length_eq : 1 < list.count → ∀ rows ∈ list.pages, rows.length = capacity
  footed : ∀ rows ∈ list.pages, (rows.drop places).take footer.length = footer
  filled : ∃ fillers : List (Entry α),
    list.pages.flatMap (·.take places) = entries ++ fillers ∧
    (∀ e ∈ fillers, e = .spacer ∧ e.isSelectable = false) ∧ (list.count = 1 → fillers = []) ∧
    (1 < list.count → fillers.length < places)
  uncaptioned : list.count = 1 → ∀ rows ∈ list.pages, rows.drop (places + footer.length) = []
  captioned : 1 < list.count → ∀ index < list.count, ∃ text,
    (list.page index).drop (places + footer.length) = [.spacer, .caption text] ∧
      PointsAround index list.count text

theorem isSpread_one (fits : entries.length + footer.length ≤ capacity) :
    IsSpread entries footer capacity entries.length ⟨[entries ++ footer]⟩ := by
  have one : (⟨[entries ++ footer]⟩ : Paged α).count = 1 := rfl
  have only : ∀ rows ∈ [entries ++ footer], rows = entries ++ footer :=
    fun rows => List.mem_singleton.mp
  refine ⟨Nat.one_pos, fun rows mem => ?_, fun more => by omega, fun rows mem => ?_,
    ⟨[], by simp, by simp, fun _ => rfl, fun more => by omega⟩, fun _ rows mem => ?_,
    fun more => by omega⟩
  · rwa [only rows mem, List.length_append]
  · rw [only rows mem, List.drop_left, List.take_length]
  · rw [only rows mem, ← List.length_append, List.drop_length]

theorem take_page (rows tail : List (Entry α)) :
    (entryRows entries perPage page ++ rows ++ tail).take perPage =
      entryRows entries perPage page := by
  rw [List.append_assoc, List.take_left' (length_entryRows entries perPage page)]

theorem drop_page (rows tail : List (Entry α)) :
    (entryRows entries perPage page ++ rows ++ tail).drop perPage = rows ++ tail := by
  rw [List.append_assoc, List.drop_left' (length_entryRows entries perPage page)]

theorem isSpread_several {fillers total : Nat} (height : perPage + footer.length + 2 = capacity)
    (several : 1 < total) (few : fillers < perPage)
    (whole : entries.length + fillers = total * perPage) :
    IsSpread entries footer capacity perPage
      ⟨(List.range total).map fun index => entryRows entries perPage index ++ footer ++
        [.spacer, .caption (captionText index total)]⟩ := by
  have count : (⟨(List.range total).map fun index => entryRows entries perPage index ++ footer ++
      [.spacer, .caption (captionText index total)]⟩ : Paged α).count = total := by
    simp [Paged.count]
  have high : ∀ rows ∈ (List.range total).map fun index => entryRows entries perPage index ++
      footer ++ [.spacer, .caption (captionText index total)], rows.length = capacity := by
    intro rows mem
    obtain ⟨index, -, rfl⟩ := List.mem_map.mp mem
    simp only [List.length_append, length_entryRows, List.length_cons, List.length_nil]
    omega
  refine ⟨by omega, fun rows mem => Nat.le_of_eq (high rows mem), fun _ => high, fun rows mem => ?_,
    ⟨List.replicate fillers .spacer, ?_, fun e mem => ?_, fun one => by omega, fun _ => ?_⟩,
    fun one => by omega, fun _ index inside => ⟨captionText index total, ?_, ?_⟩⟩
  · obtain ⟨index, -, rfl⟩ := List.mem_map.mp mem
    rw [drop_page, List.take_left]
  · rw [List.flatMap_map]
    simp only [take_page]
    exact flatMap_entryRows whole (Nat.le_of_lt few)
  · rw [List.eq_of_mem_replicate mem]
    exact ⟨rfl, rfl⟩
  · rwa [List.length_replicate]
  · rw [count] at inside
    rw [Paged.page, List.getElem?_map, List.getElem?_range inside, Option.map_some,
      Option.getD_some, ← List.drop_drop, drop_page, List.drop_left]
  · rw [count] at inside ⊢
    exact pointsAround_captionText inside

theorem isSpread_of_layOut (h : layOut entries footer capacity = .ok list) :
    IsSpread entries footer capacity (places entries.length footer.length capacity) list := by
  rcases layOut_ok h with ⟨fits, rfl⟩ | ⟨large, -, same⟩
  · rw [places, if_pos fits]
    exact isSpread_one fits
  · obtain ⟨fillers, few, whole⟩ := exists_fillers h large
    rw [same]
    exact isSpread_several (places_of_large h large).1 (one_lt_pageCount h large) few whole

/-- Whether a menu can be laid out depends on how many rows it has. -/
theorem exists_layOut_iff : (∃ list, layOut entries footer capacity = .ok list) ↔
    entries.length + footer.length ≤ capacity ∨ footer.length + 3 ≤ capacity := by
  constructor
  · rintro ⟨list, h⟩
    rcases layOut_ok h with ⟨fits, -⟩ | ⟨-, room, -⟩
    · exact .inl fits
    · exact .inr room
  · intro room
    rw [layOut]
    split
    · exact ⟨_, rfl⟩
    · next large =>
      rw [if_neg (by rw [captionRows]; omega)]
      exact ⟨_, rfl⟩

/-- What can be chosen on the pages of a menu, page after page, in the rows before the footers. -/
def choices (list : Paged α) (places : Nat) : List α :=
  (list.pages.flatMap (·.take places)).filterMap (·.action)

theorem IsSpread.choices_eq {places : Nat}
    (h : IsSpread entries footer capacity places list) :
    list.choices places = entries.filterMap (·.action) := by
  obtain ⟨fillers, rows, inert, -⟩ := h.filled
  have none : fillers.filterMap (·.action) = [] := by
    refine List.filterMap_eq_nil_iff.mpr fun e mem => ?_
    simpa [Entry.isSelectable] using (inert e mem).2
  rw [choices, rows, List.filterMap_append, none, List.append_nil]

/-- Paging loses and invents nothing. A menu is laid out exactly when it fits on one page, or when a
page has room for an entry beside the footer and the caption. Then its pages hold its entries in
their order, and nothing else that can be chosen, with the whole footer on the same rows of each
page. So at any two capacities the same can be chosen in the same order. -/
theorem loses_and_invents_nothing (entries footer : List (Entry α)) :
    (∀ capacity,
      ((∃ list, layOut entries footer capacity = .ok list) ↔
        entries.length + footer.length ≤ capacity ∨ footer.length + 3 ≤ capacity) ∧
      ∀ list, layOut entries footer capacity = .ok list →
        IsSpread entries footer capacity (places entries.length footer.length capacity) list) ∧
    ∀ capacity capacity' list list', layOut entries footer capacity = .ok list →
      layOut entries footer capacity' = .ok list' →
      list.choices (places entries.length footer.length capacity) =
        list'.choices (places entries.length footer.length capacity') := by
  refine ⟨fun capacity => ⟨exists_layOut_iff, fun list => isSpread_of_layOut⟩, ?_⟩
  intro capacity capacity' list list' h h'
  rw [(isSpread_of_layOut h).choices_eq, (isSpread_of_layOut h').choices_eq]

/-- Five entries stand on three pages of two places, with one spacer behind them, or on one page. -/
theorem loses_and_invents_nothing_on_three_pages :
    let entries := [Entry.ofAction "a" 1, .ofAction "b" 2, .ofAction "c" 3, .ofAction "d" 4,
      .ofAction "e" 5]
    let footer := [Entry.spacer, .ofAction "Back" 9]
    ∃ list list' : Paged Nat, layOut entries footer 6 = .ok list ∧
      layOut entries footer 7 = .ok list' ∧ list.count = 3 ∧ list'.count = 1 ∧
      IsSpread entries footer 6 2 list ∧ list.choices 2 = list'.choices 5 := by
  intro entries footer
  obtain ⟨each, same⟩ := loses_and_invents_nothing entries footer
  obtain ⟨list, h⟩ := (each 6).1.mpr (.inr (by decide))
  obtain ⟨list', h'⟩ := (each 7).1.mpr (.inl (by decide))
  exact ⟨list, list', h, h', (count_layOut h).trans (by decide), (count_layOut h').trans (by decide),
    (each 6).2 list h, same 6 7 list list' h h'⟩

end Paged

end CameraSetup.Menu
