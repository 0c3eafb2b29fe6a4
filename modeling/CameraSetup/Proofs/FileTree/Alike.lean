import CameraSetup.Proofs.Except
import CameraSetup.Proofs.FileTree.Walk

/-! Trees that differ at one location, and below it, alone. What a path leads to is the same in both
unless the path leads over that location, and a directory holds the same names but for the name of
that location. -/

namespace CameraSetup.FileTree

variable {t t' : FileTree} {entry directory l m : Location} {steps : List String}
  {dir name path : String}

/-! ### The way of a path -/

/-- The locations that steps lead over, the first and the last included. -/
def way (location : Location) : List String → List Location
  | [] => [location]
  | step :: steps => location :: way (taken location step) steps

theorem mem_way_of_walk (h : t.walk l steps = .ok m) : m ∈ way l steps := by
  induction steps generalizing l with
  | nil =>
    cases h
    exact List.mem_singleton_self _
  | cons step steps ih => exact List.mem_cons_of_mem l (ih (walk_cons_ok h).2.2)

theorem walk_congr (same : ∀ m ∈ way l steps, t.node? m = t'.node? m) :
    t.walk l steps = t'.walk l steps := by
  induction steps generalizing l with
  | nil => rfl
  | cons step steps ih =>
    obtain ⟨here, rest⟩ := List.forall_mem_cons.mp same
    have later := ih rest
    unfold taken at later
    rw [walk, walk, here]
    split
    · rfl
    · rfl
    · by_cases stays : step = "."
      · rw [if_pos stays] at later
        rw [if_pos stays, if_pos stays, later]
      · by_cases up : step = ".."
        · rw [if_neg stays, if_pos up] at later
          rw [if_neg stays, if_neg stays, if_pos up, if_pos up, later]
        · rw [if_neg stays, if_neg up] at later
          rw [if_neg stays, if_neg stays, if_neg up, if_neg up, later]

theorem stat_congr (located : t.locate path = t'.locate path)
    (same : ∀ l, t.locate path = .ok l → t.node? l = t'.node? l) : t.stat path = t'.stat path := by
  unfold stat
  rw [← located]
  cases leads : t.locate path with
  | error => rfl
  | ok l =>
    simp only [bind, Except.bind]
    rw [same l leads]

theorem not_prefix_of_mem_way (outside : ¬ entry <+: l) (avoided : entry ∉ way l steps) :
    ∀ m ∈ way l steps, ¬ entry <+: m := by
  induction steps generalizing l with
  | nil =>
    intro m mem
    rw [List.mem_singleton.mp mem]
    exact outside
  | cons step steps ih =>
    rw [way, List.mem_cons, not_or] at avoided
    refine List.forall_mem_cons.mpr ⟨outside, ih ?_ avoided.2⟩
    have next : entry ≠ taken l step := by
      rintro rfl
      apply avoided.2
      cases steps <;> exact List.mem_cons_self
    unfold taken at next ⊢
    split
    · exact outside
    · split
      · exact fun below => outside (below.trans (List.dropLast_prefix l))
      · next stays up =>
        rw [if_neg stays, if_neg up] at next
        intro below
        rcases List.prefix_concat_iff.mp below with same | below
        · exact next same
        · exact outside below

/-- A path leads to something, and over a location or to it. -/
def LeadsOver (t : FileTree) (path : String) (location : Location) : Prop :=
  (∃ node, t.stat path = .ok node) ∧ location ∈ way [] (Path.steps path)

/-! ### Alike trees -/

/-- The trees are the same, except for what is at a location and below it. -/
def AlikeBut (entry : Location) (t t' : FileTree) : Prop :=
  ∀ l, ¬ entry <+: l → t.node? l = t'.node? l

theorem alikeBut_put (t : FileTree) (entry : Location) (node : Node) :
    AlikeBut entry t (t.put entry node) := by
  intro l outside
  refine (node?_put_of_ne t ?_ node).symm
  rintro rfl
  exact outside List.prefix_rfl

namespace AlikeBut

theorem symm (h : AlikeBut entry t t') : AlikeBut entry t' t :=
  fun l outside => (h l outside).symm

theorem node?_sibling (h : AlikeBut (directory ++ [name]) t t') {other : String}
    (ne : other ≠ name) : t.node? (directory ++ [other]) = t'.node? (directory ++ [other]) := by
  refine h _ fun below => ne ?_
  have same := below.eq_of_length (by simp)
  simpa using same.symm

variable (h : AlikeBut entry t t') (below : entry ≠ [])

include h below

theorem node?_of_mem_way (avoided : entry ∉ way [] steps) (mem : m ∈ way [] steps) :
    t.node? m = t'.node? m :=
  h m (not_prefix_of_mem_way (fun root => below (List.prefix_nil.mp root)) avoided m mem)

theorem locate_eq (avoided : entry ∉ way [] (Path.steps path)) : t.locate path = t'.locate path := by
  rw [locate, locate, walk_congr fun m => h.node?_of_mem_way below avoided]

theorem stat_eq (avoided : entry ∉ way [] (Path.steps path)) : t.stat path = t'.stat path :=
  stat_congr (h.locate_eq below avoided) fun _ located =>
    h.node?_of_mem_way below avoided (mem_way_of_walk (locate_ok located).2)

/-- A path that leads over the location in neither tree is read alike, or nothing is there. -/
theorem toOption_read_eq (apart : ¬ t.LeadsOver path entry) (apart' : ¬ t'.LeadsOver path entry) :
    (t.read path).toOption = (t'.read path).toOption := by
  by_cases mem : entry ∈ way [] (Path.steps path)
  · have nothing : ∀ u : FileTree, ¬ u.LeadsOver path entry → (u.read path).toOption = none := by
      intro u apart
      unfold read
      cases found : u.stat path with
      | error => rfl
      | ok node => exact absurd ⟨⟨node, found⟩, mem⟩ apart
    rw [nothing t apart, nothing t' apart']
  · rw [read, read, h.stat_eq below mem]

end AlikeBut

/-! ### Names in a directory -/

/-- A name that a file can have. -/
def IsEntryName (name : String) : Prop :=
  name ≠ "" ∧ '/' ∉ name.toList ∧ name ≠ "." ∧ name ≠ ".."

instance (name : String) : Decidable (IsEntryName name) :=
  inferInstanceAs (Decidable (_ ∧ _ ∧ _ ∧ _))

/-- Everything in a tree has a name that a file can have, and so has every directory on the way to
it. -/
def HasEntryNames (t : FileTree) : Prop :=
  ∀ l ∈ t.nodes.keys, ∀ name ∈ l, IsEntryName name

instance (t : FileTree) : Decidable t.HasEntryNames :=
  inferInstanceAs (Decidable (∀ l ∈ t.nodes.keys, ∀ name ∈ l, IsEntryName name))

theorem mem_keys_of_node? {node : Node} (inside : l ≠ []) (present : t.node? l = some node) :
    l ∈ t.nodes.keys := by
  rw [node?, List.isEmpty_eq_false_iff.mpr inside] at present
  exact SortedMap.mem_keys_iff.mpr ⟨node, present⟩

theorem HasEntryNames.isEntryName (h : t.HasEntryNames) {node : Node}
    (present : t.node? (directory ++ [name]) = some node) : IsEntryName name :=
  h _ (mem_keys_of_node? (by simp) present) name (by simp)

theorem nameIn?_eq_some_iff : nameIn? directory l = some name ↔ l = directory ++ [name] := by
  unfold nameIn?
  split
  · next empty =>
    rw [List.getLast?_eq_none_iff.mp empty]
    simp
  · next last found =>
    constructor
    · intro same
      split at same
      · next whole =>
        cases same
        exact whole
      · cases same
    · rintro rfl
      rw [List.getLast?_concat, Option.some.injEq] at found
      rw [found, if_pos rfl]

/-- The names in a directory, in order. -/
def namesIn (t : FileTree) (directory : Location) : List String :=
  t.nodes.keys.filterMap (nameIn? directory)

theorem exists_of_mem_namesIn (mem : name ∈ t.namesIn directory) :
    ∃ node, t.node? (directory ++ [name]) = some node := by
  obtain ⟨l, key, named⟩ := List.mem_filterMap.mp mem
  rw [nameIn?_eq_some_iff] at named
  subst named
  obtain ⟨node, found⟩ := SortedMap.mem_keys_iff.mp key
  exact ⟨node, by simpa [node?] using found⟩

theorem list_eq_ok_iff {names : List String} : t.list path = .ok names ↔
    ∃ directory, t.locate path = .ok directory ∧ t.node? directory = some .directory ∧
      names = t.namesIn directory := by
  unfold list
  rw [bind_eq_ok]
  refine exists_congr fun directory => and_congr_right fun _ => ?_
  split
  · next nothing => simp [nothing, throw, throwThe, MonadExceptOf.throw]
  · next file => simp [file, throw, throwThe, MonadExceptOf.throw]
  · next inside =>
    rw [pure_eq_ok, inside]
    simp [namesIn, eq_comm]

theorem AlikeBut.namesIn_eq (h : AlikeBut (directory ++ [name]) t t') :
    (t.namesIn directory).filter (· ≠ name) = (t'.namesIn directory).filter (· ≠ name) := by
  rw [namesIn, namesIn, List.filter_filterMap, List.filter_filterMap]
  refine SortedMap.filterMap_keys_congr fun l some => ?_
  obtain ⟨other, found⟩ := Option.isSome_iff_exists.mp some
  obtain ⟨named, ne⟩ := Option.filter_eq_some_iff.mp found
  rw [nameIn?_eq_some_iff] at named
  subst named
  simpa [node?] using h.node?_sibling (of_decide_eq_true ne)

/-! ### A file of a directory -/

theorem walk_names_of_locate (located : t.locate dir = .ok directory) :
    t.walk [] (Path.names dir) = .ok directory := by
  have walked := (locate_ok located).2
  unfold Path.steps at walked
  split at walked
  · obtain ⟨between, before, last⟩ := walk_append_ok walked
    obtain ⟨-, -, rest⟩ := walk_cons_ok last
    cases rest
    exact before
  · exact walked

/-- A name taken from a directory leads to that name in it, if it leads anywhere. -/
theorem locate_join (located : t.locate dir = .ok directory)
    (inside : t.node? directory = some .directory) (named : IsEntryName name) :
    t.locate (Path.join dir name) = (checkPath (Path.join dir name) >>= fun _ =>
      if maxNameSize < name.utf8ByteSize then .error .nameTooLong
      else .ok (directory ++ [name])) := by
  obtain ⟨nonempty, free, stays, up⟩ := named
  rw [locate, Path.steps_join nonempty free, walk_append (walk_names_of_locate located), walk,
    inside]
  dsimp only
  rw [if_neg stays, if_neg up]
  rfl

theorem eq_of_locate_join (located : t.locate dir = .ok directory)
    (inside : t.node? directory = some .directory) (named : IsEntryName name)
    (leads : t.locate (Path.join dir name) = .ok l) : l = directory ++ [name] := by
  rw [locate_join located inside named] at leads
  obtain ⟨-, -, leads⟩ := bind_eq_ok.mp leads
  split at leads
  · cases leads
  · cases leads
    rfl

theorem exists_file_of_read {content : List UInt8} (done : t.read path = .ok content) :
    ∃ l file, t.locate path = .ok l ∧ t.node? l = some (.file file) ∧ file.content = content := by
  obtain ⟨node, found, done⟩ := bind_eq_ok.mp done
  obtain ⟨l, located, present⟩ := stat_ok_iff.mp found
  cases node with
  | file file => exact ⟨l, file, located, present, pure_eq_ok.mp done⟩
  | directory => exact absurd done throw_ne_ok

theorem read_join_congr (located : t.locate dir = .ok directory)
    (located' : t'.locate dir = .ok directory) (inside : t.node? directory = some .directory)
    (inside' : t'.node? directory = some .directory) (named : IsEntryName name)
    (same : t.node? (directory ++ [name]) = t'.node? (directory ++ [name])) :
    t.read (Path.join dir name) = t'.read (Path.join dir name) := by
  have same' : t.locate (Path.join dir name) = t'.locate (Path.join dir name) := by
    rw [locate_join located inside named, locate_join located' inside' named]
  rw [read, read, stat_congr same' fun l leads => ?_]
  rw [eq_of_locate_join located inside named leads, same]

end CameraSetup.FileTree
