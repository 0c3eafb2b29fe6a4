import CameraSetup.SortedMap

/-! The keys and look-ups of finite maps: what each operation that builds a map does to them, and
that a map is rebuilt from its own entries. -/

namespace CameraSetup.SortedMap

variable {κ α β : Type} [Ord κ]

theorem isEmpty_iff {m : SortedMap κ α} : m.isEmpty = true ↔ m.toList = [] := List.isEmpty_iff

theorem eq_empty_of_isEmpty {m : SortedMap κ α} (h : m.isEmpty = true) : m = empty :=
  eq_of_toList_eq (isEmpty_iff.mp h)

theorem insertEntry_ne_nil (k : κ) (v : α) (es : List (κ × α)) : insertEntry k v es ≠ [] := by
  cases es with
  | nil => simp [insertEntry]
  | cons e es => rw [insertEntry]; split <;> simp

@[simp] theorem isEmpty_insert [Std.TransOrd κ] (m : SortedMap κ α) (k : κ) (v : α) :
    (m.insert k v).isEmpty = false :=
  List.isEmpty_eq_false_iff.mpr (insertEntry_ne_nil k v m.toList)

theorem isEmpty_ofList [Std.TransOrd κ] {es : List (κ × α)} (some : es ≠ []) :
    (ofList es).isEmpty = false := by
  obtain ⟨front, last, rfl⟩ := (List.eq_nil_or_concat es).resolve_left some
  rw [ofList, List.concat_eq_append, List.foldl_append]
  exact isEmpty_insert _ _ _

@[simp] theorem keys_empty : (empty : SortedMap κ α).keys = [] := rfl

theorem keys_eq_nil_iff {m : SortedMap κ α} : m.keys = [] ↔ m.isEmpty = true := by
  simp [keys, isEmpty]

@[simp] theorem keys_mapValues (m : SortedMap κ α) (f : κ → α → β) :
    (m.mapValues f).keys = m.keys := by
  simp [keys, mapValues, Function.comp_def]

theorem mapValues_self (m : SortedMap κ α) : (m.mapValues fun _ v => v) = m :=
  eq_of_toList_eq (by simp [mapValues])

theorem mapValues_mapValues {γ : Type} (m : SortedMap κ α) (f : κ → α → β) (g : κ → β → γ) :
    (m.mapValues f).mapValues g = m.mapValues fun k v => g k (f k v) :=
  eq_of_toList_eq (by simp [mapValues, Function.comp_def])

/-- Steps that are taken at every key come to all the steps at each key by itself. -/
theorem foldl_mapValues {δ : Type} (f : α → δ → α) (ds : List δ) (m : SortedMap κ α) :
    ds.foldl (fun m d => m.mapValues fun _ v => f v d) m =
      m.mapValues fun _ v => ds.foldl f v := by
  induction ds generalizing m with
  | nil => exact (mapValues_self m).symm
  | cons d ds ih => rw [List.foldl_cons, ih, mapValues_mapValues]; rfl

/-- Entries that all come before an entry stay before it. -/
theorem insertEntry_append {es : List (κ × α)} {k : κ} (v : α)
    (h : ∀ e ∈ es, compare k e.1 = .gt) : insertEntry k v es = es ++ [(k, v)] := by
  induction es with
  | nil => rfl
  | cons d ds ih =>
    rw [insertEntry, h d (by simp)]
    simp [ih fun e he => h e (by simp [he])]

theorem perm_insertEntry [Std.LawfulEqOrd κ] {es : List (κ × α)} {k : κ} (v : α)
    (fresh : k ∉ es.map (·.1)) : (insertEntry k v es).Perm ((k, v) :: es) := by
  induction es with
  | nil => rfl
  | cons d ds ih =>
    rw [List.map_cons, List.mem_cons, not_or] at fresh
    rw [insertEntry]
    split
    · rfl
    · next same => exact absurd (Std.LawfulEqOrd.eq_of_compare same) fresh.1
    · exact ((ih fresh.2).cons d).trans (.swap (k, v) d ds)

section
variable [Std.TransOrd κ]

theorem ofList_toList (m : SortedMap κ α) : ofList m.toList = m := by
  have key : ∀ (es : List (κ × α)) (done : SortedMap κ α),
      (done.toList ++ es).Pairwise (fun a b => compare a.1 b.1 = .lt) →
      (es.foldl (fun m e => m.insert e.1 e.2) done).toList = done.toList ++ es := by
    intro es
    induction es with
    | nil => intro done _; simp
    | cons e es ih =>
      intro done h
      have hlast : (done.insert e.1 e.2).toList = done.toList ++ [e] :=
        insertEntry_append e.2 fun d hd =>
          Std.OrientedCmp.gt_of_lt ((List.pairwise_append.mp h).2.2 d hd e (by simp))
      rw [List.foldl_cons, ih, hlast, List.append_assoc, List.singleton_append]
      rw [hlast]
      simpa using h
  exact eq_of_toList_eq (key m.toList .empty m.sorted)

end

theorem nodup_keys [Std.OrientedOrd κ] (m : SortedMap κ α) : m.keys.Nodup :=
  List.pairwise_map.mpr (m.sorted.imp fun {a b} less same => by
    rw [same] at less
    simp at less)

theorem isLE_of_mem_keys [Std.ReflOrd κ] {m : SortedMap κ α} {first k : κ} {rest : List κ}
    (h : m.keys = first :: rest) (mem : k ∈ m.keys) : (compare first k).isLE = true := by
  have sorted : m.keys.Pairwise fun a b => compare a b = .lt := List.pairwise_map.mpr m.sorted
  rw [h] at sorted mem
  rcases List.mem_cons.mp mem with rfl | mem
  · rw [Std.ReflOrd.compare_self]
    rfl
  · rw [(List.pairwise_cons.mp sorted).1 k mem]
    rfl

section
variable [Std.LawfulEqOrd κ] [Std.TransOrd κ]

theorem mem_keys_iff {m : SortedMap κ α} {k : κ} : k ∈ m.keys ↔ ∃ v, m.get? k = some v := by
  simp [keys, get?_eq_some_iff]

theorem contains_iff {m : SortedMap κ α} {k : κ} : m.contains k = true ↔ k ∈ m.keys := by
  rw [contains, Option.isSome_iff_exists, mem_keys_iff]

/-- Keys that count for something are the same in maps that have the same at them. -/
theorem filterMap_keys_congr {γ : Type} {m n : SortedMap κ α} {f : κ → Option γ}
    (same : ∀ k, (f k).isSome → m.get? k = n.get? k) : m.keys.filterMap f = n.keys.filterMap f := by
  have counting : ∀ ks : List κ, ks.filterMap f = (ks.filter fun k => (f k).isSome).filterMap f := by
    intro ks
    induction ks with
    | nil => rfl
    | cons k ks ih => cases found : f k <;> simp [found, ih]
  have sorted : ∀ p : SortedMap κ α,
      (p.keys.filter fun k => (f k).isSome).Pairwise fun a b => compare a b = .lt :=
    fun p => (List.pairwise_map.mpr p.sorted).filter _
  have perm : (m.keys.filter fun k => (f k).isSome).Perm (n.keys.filter fun k => (f k).isSome) := by
    refine (List.perm_ext_iff_of_nodup ((nodup_keys m).filter _) ((nodup_keys n).filter _)).mpr
      fun k => ?_
    rw [List.mem_filter, List.mem_filter, mem_keys_iff, mem_keys_iff]
    exact and_congr_left fun some => by rw [same k some]
  have equal := perm.eq_of_pairwise
    (fun a b _ _ (hab : compare a b = .lt) (hba : compare b a = .lt) =>
      absurd hba (Std.OrientedCmp.not_lt_of_lt hab)) (sorted m) (sorted n)
  rw [counting m.keys, counting n.keys, equal]

theorem get?_insert [DecidableEq κ] (m : SortedMap κ α) (j k : κ) (v : α) :
    (m.insert k v).get? j = if j = k then some v else m.get? j := by
  split
  · next h => rw [h, get?_insert_self]
  · next h => exact get?_insert_of_ne m h v

theorem get?_erase [DecidableEq κ] (m : SortedMap κ α) (j k : κ) :
    (m.erase k).get? j = if j = k then none else m.get? j := by
  split
  · next h => rw [h, get?_erase_self]
  · next h => exact get?_erase_of_ne m h

theorem mem_keys_insert {m : SortedMap κ α} {j k : κ} {v : α} :
    j ∈ (m.insert k v).keys ↔ j = k ∨ j ∈ m.keys := by
  classical
  rw [mem_keys_iff, mem_keys_iff, get?_insert]
  split <;> simp_all

theorem get?_update [DecidableEq κ] (m : SortedMap κ α) (j k : κ) (default : α) (f : α → α) :
    (m.update k default f).get? j =
      if j = k then some (f ((m.get? k).getD default)) else m.get? j :=
  get?_insert m j k _

theorem get?_mapValues (m : SortedMap κ α) (f : κ → α → β) (k : κ) :
    (m.mapValues f).get? k = (m.get? k).map (f k) := by
  ext v
  rw [get?_eq_some_iff, Option.map_eq_some_iff]
  simp only [mapValues, List.mem_map, get?_eq_some_iff, Prod.mk.injEq, Prod.exists]
  constructor
  · rintro ⟨_, u, h, rfl, rfl⟩
    exact ⟨u, h, rfl⟩
  · rintro ⟨u, h, rfl⟩
    exact ⟨k, u, h, rfl, rfl⟩

theorem isSome_bind_get?_iff {m? : Option (SortedMap κ α)} {k : κ} :
    (m?.bind (·.get? k)).isSome = true ↔ k ∈ (m?.map (·.keys)).getD [] := by
  cases m? with
  | none => simp
  | some m => exact contains_iff

theorem mem_of_get?_ofList {es : List (κ × α)} {k : κ} {v : α}
    (h : (ofList es).get? k = some v) : (k, v) ∈ es := by
  classical
  have key : ∀ (es : List (κ × α)) (m : SortedMap κ α),
      (es.foldl (fun m e => m.insert e.1 e.2) m).get? k = some v →
        (k, v) ∈ es ∨ m.get? k = some v := by
    intro es
    induction es with
    | nil => exact fun _ h => .inr h
    | cons e es ih =>
      intro m h
      rcases ih _ h with mem | here
      · exact .inl (List.mem_cons_of_mem e mem)
      · rw [get?_insert] at here
        split at here
        · next same =>
          cases here
          exact .inl (by simp [same])
        · exact .inr here
  exact (key es .empty h).resolve_right (by simp)

theorem insert_insert [DecidableEq κ] (m : SortedMap κ α) (k : κ) (u v : α) :
    (m.insert k u).insert k v = m.insert k v := by
  refine ext fun i => ?_
  rw [get?_insert, get?_insert, get?_insert]
  split <;> rfl

theorem insert_comm [DecidableEq κ] (m : SortedMap κ α) {j k : κ} (h : j ≠ k) (u v : α) :
    (m.insert j u).insert k v = (m.insert k v).insert j u := by
  refine ext fun i => ?_
  rw [get?_insert, get?_insert, get?_insert, get?_insert]
  by_cases hj : i = j
  · have hk : i ≠ k := fun hk => h (hj.symm.trans hk)
    rw [if_neg hk, if_pos hj, if_pos hj]
  · simp [hj]

/-- A map is rebuilt from its entries in any order. -/
theorem ofList_of_perm [DecidableEq κ] {es : List (κ × α)} {m : SortedMap κ α}
    (perm : es.Perm m.toList) : ofList es = m := by
  have same : ofList es = ofList m.toList := by
    refine perm.foldl_eq' (fun d hd e he done => ?_) empty
    by_cases key : e.1 = d.1
    · have found := get?_eq_some_iff.mpr (perm.mem_iff.mp hd)
      have found' := get?_eq_some_iff.mpr (perm.mem_iff.mp he)
      rw [key, found, Option.some.injEq] at found'
      rw [key, found']
    · exact insert_comm done (Ne.symm key) d.2 e.2
  rw [same, ofList_toList]

/-- No entry of a list is lost when no two have the same key. -/
theorem perm_ofList {es : List (κ × α)} (nodup : (es.map (·.1)).Nodup) :
    (ofList es).toList.Perm es := by
  have key : ∀ (es : List (κ × α)) (done : SortedMap κ α),
      ((done.toList ++ es).map (·.1)).Nodup →
      (es.foldl (fun m e => m.insert e.1 e.2) done).toList.Perm (done.toList ++ es) := by
    intro es
    induction es with
    | nil =>
      intro done _
      rw [List.append_nil]
      exact .refl _
    | cons e es ih =>
      intro done nodup
      have moved : (done.toList ++ e :: es).Perm (e :: (done.toList ++ es)) := List.perm_middle
      have fresh := (List.nodup_cons.mp ((moved.map _).nodup_iff.mp nodup)).1
      rw [List.map_append, List.mem_append, not_or] at fresh
      have added : ((done.insert e.1 e.2).toList ++ es).Perm (done.toList ++ e :: es) :=
        ((perm_insertEntry e.2 fresh.1).append_right es).trans moved.symm
      exact (ih _ ((added.map _).nodup_iff.mpr nodup)).trans added
  exact key es .empty nodup

theorem mem_keys_ofList {es : List (κ × α)} {k : κ} : k ∈ (ofList es).keys ↔ k ∈ es.map (·.1) := by
  have key : ∀ (es : List (κ × α)) (m : SortedMap κ α),
      k ∈ (es.foldl (fun m e => m.insert e.1 e.2) m).keys ↔ k ∈ m.keys ∨ k ∈ es.map (·.1) := by
    intro es
    induction es with
    | nil => simp
    | cons e es ih =>
      intro m
      rw [List.foldl_cons, ih, mem_keys_insert, List.map_cons, List.mem_cons, ← or_assoc,
        or_comm (a := k ∈ m.keys)]
  exact (key es .empty).trans (by simp)

/-- Sets with the same members are equal. -/
theorem eq_of_mem_keys_iff {m n : SortedSet κ} (h : ∀ k, k ∈ m.keys ↔ k ∈ n.keys) : m = n := by
  refine ext fun k => Option.ext fun _ => ?_
  have here := h k
  rw [mem_keys_iff, mem_keys_iff] at here
  constructor
  · intro found
    obtain ⟨_, found'⟩ := here.mp ⟨_, found⟩
    exact found'
  · intro found
    obtain ⟨_, found'⟩ := here.mpr ⟨_, found⟩
    exact found'

/-- A map of maps that are not empty is determined by what is found at two keys. -/
theorem eq_of_getD {γ : Type} [Ord γ] {m n : SortedMap κ (SortedMap γ α)}
    (hm : ∀ k v, m.get? k = some v → v.keys ≠ []) (hn : ∀ k v, n.get? k = some v → v.keys ≠ [])
    (same : ∀ k, (m.get? k).getD .empty = (n.get? k).getD .empty) : m = n := by
  refine ext fun k => ?_
  have here := same k
  cases found : m.get? k with
  | none =>
    cases found' : n.get? k with
    | none => rfl
    | some v =>
      rw [found, found'] at here
      exact absurd (congrArg keys here.symm) (hn k v found')
  | some u =>
    cases found' : n.get? k with
    | none =>
      rw [found, found'] at here
      exact absurd (congrArg keys here) (hm k u found)
    | some v =>
      rw [found, found'] at here
      exact congrArg some here

end

end CameraSetup.SortedMap
