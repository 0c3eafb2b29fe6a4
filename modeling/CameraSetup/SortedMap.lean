/-! Finite maps as lists of entries in increasing order of their keys. One map has one list, so
two maps with the same entries are equal. The main statements say what each operation does to a
look-up. -/

namespace CameraSetup

/-- A finite map. Its entries are listed by increasing key, each key once. -/
structure SortedMap (κ : Type) (α : Type) [Ord κ] where
  toList : List (κ × α)
  sorted : toList.Pairwise fun a b => compare a.1 b.1 = .lt

/-- A finite set, as a map that holds nothing at its keys. -/
abbrev SortedSet (κ : Type) [Ord κ] := SortedMap κ Unit

namespace SortedMap

variable {κ α β : Type} [Ord κ]

instance [DecidableEq κ] [DecidableEq α] : DecidableEq (SortedMap κ α) := fun m n =>
  decidable_of_iff (m.toList = n.toList) <| by
    cases m; cases n; simp

theorem eq_of_toList_eq {m n : SortedMap κ α} (h : m.toList = n.toList) : m = n := by
  cases m; cases n; simp_all

/-- The map without entries. -/
def empty : SortedMap κ α := ⟨[], .nil⟩

instance : Inhabited (SortedMap κ α) := ⟨empty⟩

/-- The number of entries. -/
def size (m : SortedMap κ α) : Nat := m.toList.length

/-- Whether the map has no entry. -/
def isEmpty (m : SortedMap κ α) : Bool := m.toList.isEmpty

/-- The keys in increasing order. -/
def keys (m : SortedMap κ α) : List κ := m.toList.map (·.1)

/-- The value that entries hold at a key. -/
def lookup (k : κ) : List (κ × α) → Option α
  | [] => none
  | e :: es => if compare k e.1 = .eq then some e.2 else lookup k es

/-- The value at a key. -/
def get? (m : SortedMap κ α) (k : κ) : Option α := lookup k m.toList

/-- Whether the map has an entry at a key. -/
def contains (m : SortedMap κ α) (k : κ) : Bool := (m.get? k).isSome

/-- Puts a value where its key belongs among entries in order, in place of an older one. -/
def insertEntry (k : κ) (v : α) : List (κ × α) → List (κ × α)
  | [] => [(k, v)]
  | e :: es =>
    match compare k e.1 with
    | .lt => (k, v) :: e :: es
    | .eq => (k, v) :: es
    | .gt => e :: insertEntry k v es

theorem mem_insertEntry {k : κ} {v : α} {e : κ × α} {es : List (κ × α)}
    (h : e ∈ insertEntry k v es) : e = (k, v) ∨ e ∈ es := by
  induction es with
  | nil => simpa [insertEntry] using h
  | cons d ds ih =>
    rw [insertEntry] at h
    split at h <;> simp only [List.mem_cons] at h ⊢ <;> grind

theorem pairwise_insertEntry [Std.TransOrd κ] {k : κ} {v : α} {es : List (κ × α)}
    (h : es.Pairwise fun a b => compare a.1 b.1 = .lt) :
    (insertEntry k v es).Pairwise fun a b => compare a.1 b.1 = .lt := by
  induction es with
  | nil => simp [insertEntry]
  | cons d ds ih =>
    obtain ⟨hd, hds⟩ := List.pairwise_cons.mp h
    rw [insertEntry]
    split
    case h_1 hc =>
      refine List.pairwise_cons.mpr ⟨fun e he => ?_, h⟩
      rcases List.mem_cons.mp he with rfl | he
      · exact hc
      · exact Std.TransCmp.lt_trans hc (hd e he)
    case h_2 hc =>
      exact List.pairwise_cons.mpr ⟨fun e he => Std.TransCmp.lt_of_eq_of_lt hc (hd e he), hds⟩
    case h_3 hc =>
      refine List.pairwise_cons.mpr ⟨fun e he => ?_, ih hds⟩
      rcases mem_insertEntry he with rfl | he
      · exact Std.OrientedCmp.lt_of_gt hc
      · exact hd e he

section
variable [Std.TransOrd κ]

/-- The map with `v` at `k`. -/
def insert (m : SortedMap κ α) (k : κ) (v : α) : SortedMap κ α :=
  ⟨insertEntry k v m.toList, pairwise_insertEntry m.sorted⟩

/-- The map of a list of entries, where a later entry replaces an earlier one of equal key. -/
def ofList (es : List (κ × α)) : SortedMap κ α :=
  es.foldl (fun m e => m.insert e.1 e.2) empty

/-- The map with `f` applied to the value at `k`, or to `default` when there is none. -/
def update (m : SortedMap κ α) (k : κ) (default : α) (f : α → α) : SortedMap κ α :=
  m.insert k (f ((m.get? k).getD default))

end

/-- The map without `k`. -/
def erase (m : SortedMap κ α) (k : κ) : SortedMap κ α :=
  ⟨m.toList.filter fun e => compare k e.1 != .eq, m.sorted.filter _⟩

/-- The map with `f` applied to every entry's value. -/
def mapValues (m : SortedMap κ α) (f : κ → α → β) : SortedMap κ β :=
  ⟨m.toList.map fun e => (e.1, f e.1 e.2), List.pairwise_map.mpr m.sorted⟩

/-! ### Look-up -/

@[simp] theorem get?_empty (k : κ) : (empty : SortedMap κ α).get? k = none := rfl

section
variable [Std.LawfulEqOrd κ]

theorem lookup_insertEntry_self (k : κ) (v : α) (es : List (κ × α)) :
    lookup k (insertEntry k v es) = some v := by
  induction es with
  | nil => simp [insertEntry, lookup]
  | cons d ds ih =>
    rw [insertEntry]
    split <;> simp_all [lookup]

theorem lookup_insertEntry_of_ne {j k : κ} (h : j ≠ k) (v : α) (es : List (κ × α)) :
    lookup j (insertEntry k v es) = lookup j es := by
  have hjk : compare j k ≠ .eq := fun hc => h (Std.LawfulEqOrd.eq_of_compare hc)
  induction es with
  | nil => simp [insertEntry, lookup, hjk]
  | cons d ds ih =>
    rw [insertEntry]
    split
    case h_1 => simp [lookup, hjk]
    case h_2 hc =>
      have : d.1 = k := (Std.LawfulEqOrd.eq_of_compare hc).symm
      simp [lookup, hjk, this]
    case h_3 => simp [lookup, ih]

/-- A look-up finds exactly the entries of the list. -/
theorem get?_eq_some_iff [Std.OrientedOrd κ] {m : SortedMap κ α} {k : κ} {v : α} :
    m.get? k = some v ↔ (k, v) ∈ m.toList := by
  obtain ⟨es, h⟩ := m
  simp only [get?]
  induction es with
  | nil => simp [lookup]
  | cons d ds ih =>
    obtain ⟨hd, hds⟩ := List.pairwise_cons.mp h
    rw [lookup]
    split
    · next hc =>
      have hk : k = d.1 := Std.LawfulEqOrd.eq_of_compare hc
      subst hk
      have : (d.1, v) ∉ ds := fun hm => by simpa using hd _ hm
      simp [this, Prod.ext_iff, eq_comm]
    · next hc =>
      rw [ih hds, List.mem_cons]
      have : (k, v) ≠ d := by rintro rfl; simp at hc
      simp [this]

variable [Std.TransOrd κ]

@[simp] theorem get?_insert_self (m : SortedMap κ α) (k : κ) (v : α) :
    (m.insert k v).get? k = some v :=
  lookup_insertEntry_self k v m.toList

theorem get?_insert_of_ne (m : SortedMap κ α) {j k : κ} (h : j ≠ k) (v : α) :
    (m.insert k v).get? j = m.get? j :=
  lookup_insertEntry_of_ne h v m.toList

/-- Maps with equal look-ups are equal. -/
theorem ext {m n : SortedMap κ α} (h : ∀ k, m.get? k = n.get? k) : m = n := by
  apply eq_of_toList_eq
  have hmem : ∀ e, e ∈ m.toList ↔ e ∈ n.toList := fun e => by
    rw [← get?_eq_some_iff (k := e.1) (v := e.2), ← get?_eq_some_iff (k := e.1) (v := e.2), h]
  have nodup : ∀ p : SortedMap κ α, p.toList.Nodup := fun p =>
    p.sorted.imp fun {a b} hab heq => by subst heq; simp at hab
  exact List.Perm.eq_of_pairwise
    (fun a b _ _ (hab : compare a.1 b.1 = .lt) (hba : compare b.1 a.1 = .lt) =>
      absurd hba (Std.OrientedCmp.not_lt_of_lt hab))
    m.sorted n.sorted ((List.perm_ext_iff_of_nodup (nodup m) (nodup n)).mpr hmem)

theorem get?_erase_self (m : SortedMap κ α) (k : κ) : (m.erase k).get? k = none := by
  cases hv : (m.erase k).get? k with
  | none => rfl
  | some v =>
    have := (List.mem_filter.mp (get?_eq_some_iff.mp hv)).2
    simp at this

theorem get?_erase_of_ne (m : SortedMap κ α) {j k : κ} (h : j ≠ k) :
    (m.erase k).get? j = m.get? j := by
  have hkj : compare k j ≠ .eq := fun hc => h (Std.LawfulEqOrd.eq_of_compare hc).symm
  ext v
  rw [get?_eq_some_iff, get?_eq_some_iff]
  simp [erase, hkj]

end

end SortedMap

end CameraSetup
