import CameraSetup.FileTree.Replacement
import CameraSetup.Proofs.FileTree.Path
import CameraSetup.Proofs.SortedMap

/-! Where steps lead in a tree of files. A walk passes through directories only, so it leads to the
same place in every tree that has these directories, and a file that it leads to lies in a directory
under the last name of the path. -/

namespace CameraSetup.FileTree

variable {t : FileTree} {l m : Location}

/-! ### Putting and removing -/

@[simp] theorem node?_nil (t : FileTree) : t.node? [] = some .directory := rfl

theorem ne_nil_of_file {file : File} (h : t.node? l = some (.file file)) : l ≠ [] := by
  rintro rfl
  cases h

theorem remove_put (absent : t.node? l = none) (node : Node) : (t.put l node).remove l = t := by
  have inside : l ≠ [] := by
    rintro rfl
    simp at absent
  have : (t.nodes.insert l node).erase l = t.nodes := by
    refine SortedMap.ext fun m => ?_
    rw [SortedMap.get?_erase]
    split
    · next same =>
      rw [same]
      simpa [node?, inside] using absent.symm
    · next other => exact SortedMap.get?_insert_of_ne _ other _
  simp only [remove, put, this]

theorem put_put (t : FileTree) (l : Location) (a b : Node) : (t.put l a).put l b = t.put l b := by
  simp only [put, SortedMap.insert_insert]

theorem put_node (inside : l ≠ []) {node : Node} (present : t.node? l = some node) :
    t.put l node = t := by
  have : t.nodes.insert l node = t.nodes := by
    refine SortedMap.ext fun m => ?_
    rw [SortedMap.get?_insert]
    split
    · next same =>
      rw [same]
      simpa [node?, inside] using present.symm
    · rfl
  simp only [put, this]

/-! ### Walks -/

/-- Where one step leads from a directory. -/
def taken (location : Location) (step : String) : Location :=
  if step = "." then location else if step = ".." then parent location else location ++ [step]

theorem walk_cons (directory : t.node? l = some .directory) {step : String}
    (short : step.utf8ByteSize ≤ maxNameSize) (steps : List String) :
    t.walk l (step :: steps) = t.walk (taken l step) steps := by
  rw [walk, directory, taken]
  dsimp only
  split
  · rfl
  · split
    · rfl
    · rw [if_neg (Nat.not_lt.mpr short)]

theorem walk_cons_ok {step : String} {steps : List String} (h : t.walk l (step :: steps) = .ok m) :
    t.node? l = some .directory ∧ step.utf8ByteSize ≤ maxNameSize ∧
      t.walk (taken l step) steps = .ok m := by
  have short : step.utf8ByteSize ≤ maxNameSize := by
    by_contra long
    rw [walk] at h
    split at h
    · cases h
    · cases h
    · by_cases here : step = "."
      · rw [here] at long
        exact long (by decide)
      · by_cases up : step = ".."
        · rw [up] at long
          exact long (by decide)
        · rw [if_neg here, if_neg up, if_pos (Nat.lt_of_not_le long)] at h
          cases h
  have directory : t.node? l = some .directory := by
    rw [walk] at h
    split at h
    · cases h
    · cases h
    · assumption
  exact ⟨directory, short, walk_cons directory short steps ▸ h⟩

theorem walk_append_ok {steps more : List String} (h : t.walk l (steps ++ more) = .ok m) :
    ∃ between, t.walk l steps = .ok between ∧ t.walk between more = .ok m := by
  induction steps generalizing l with
  | nil => exact ⟨l, rfl, h⟩
  | cons step steps ih =>
    obtain ⟨directory, short, rest⟩ := walk_cons_ok h
    rw [walk_cons directory short]
    exact ih rest

theorem walk_append {steps more : List String} (h : t.walk l steps = .ok m) :
    t.walk l (steps ++ more) = t.walk m more := by
  induction steps generalizing l with
  | nil =>
    cases h
    rfl
  | cons step steps ih =>
    obtain ⟨directory, short, rest⟩ := walk_cons_ok h
    rw [List.cons_append, walk_cons directory short, ih rest]

/-- A walk is the same in every tree that has the directories of the tree. -/
theorem walk_mono {t' : FileTree}
    (keeps : ∀ l, t.node? l = some .directory → t'.node? l = some .directory)
    {steps : List String} (h : t.walk l steps = .ok m) : t'.walk l steps = .ok m := by
  induction steps generalizing l with
  | nil => exact h
  | cons step steps ih =>
    obtain ⟨directory, short, rest⟩ := walk_cons_ok h
    rw [walk_cons (keeps l directory) short]
    exact ih rest

/-! ### What lies above a location -/

/-- Everything above a location is a directory. -/
def HasParents (t : FileTree) (location : Location) : Prop :=
  ∀ above, above <+: location → above ≠ location → t.node? above = some .directory

theorem hasParents_nil (t : FileTree) : t.HasParents [] :=
  fun _ prefixed other => absurd (List.prefix_nil.mp prefixed) other

theorem HasParents.parent (h : t.HasParents l) : t.HasParents (parent l) := by
  intro above prefixed other
  have := (List.dropLast_prefix l)
  refine h above (prefixed.trans this) ?_
  rintro rfl
  exact other (prefixed.eq_of_length_le this.length_le)

theorem HasParents.parent_directory (h : t.HasParents l) :
    t.node? (FileTree.parent l) = some .directory := by
  by_cases root : l = []
  · rw [root]
    rfl
  · refine h _ (List.dropLast_prefix l) fun same => ?_
    have := congrArg List.length same
    have := List.length_pos_iff.mpr root
    simp only [FileTree.parent, List.length_dropLast] at *
    omega

theorem HasParents.append (h : t.HasParents l) (directory : t.node? l = some .directory)
    (name : String) : t.HasParents (l ++ [name]) := by
  intro above prefixed other
  rcases List.prefix_concat_iff.mp prefixed with same | prefixed
  · exact absurd same other
  · by_cases same : above = l
    · rw [same, directory]
    · exact h above prefixed same

theorem HasParents.walk {steps : List String} (h : t.HasParents l)
    (walked : t.walk l steps = .ok m) : t.HasParents m := by
  induction steps generalizing l with
  | nil =>
    cases walked
    exact h
  | cons step steps ih =>
    obtain ⟨directory, short, rest⟩ := walk_cons_ok walked
    refine ih ?_ rest
    unfold taken
    split
    · exact h
    · split
      · exact h.parent
      · exact h.append directory step

/-! ### Where a path leads -/

theorem locate_ok {path : String} (h : t.locate path = .ok l) :
    checkPath path = .ok () ∧ t.walk [] (Path.steps path) = .ok l := by
  unfold locate at h
  cases checked : checkPath path with
  | error cause =>
    rw [checked] at h
    cases h
  | ok =>
    rw [checked] at h
    exact ⟨rfl, h⟩

theorem locate_eq {path : String} (checked : checkPath path = .ok ()) :
    t.locate path = t.walk [] (Path.steps path) := by
  rw [locate, checked]
  rfl

theorem checkPath_ok_iff {path : String} :
    checkPath path = .ok () ↔
      path ≠ "" ∧ '\x00' ∉ path.toList ∧ path.utf8ByteSize ≤ maxPathSize := by
  unfold checkPath
  split
  · next h => simp_all
  · split
    · next h => simp_all
    · split
      · next h => simp [Nat.not_le.mpr h]
      · next h => simp_all

theorem stat_ok_iff {path : String} {node : Node} :
    t.stat path = .ok node ↔ ∃ l, t.locate path = .ok l ∧ t.node? l = some node := by
  unfold stat
  cases t.locate path with
  | error cause => simp [bind, Except.bind]
  | ok l =>
    simp only [bind, Except.bind, Except.ok.injEq, exists_eq_left']
    split <;> simp_all [throw, throwThe, MonadExceptOf.throw, pure, Except.pure]

/-- A path that leads to a file ends in the file's name, and what comes before leads to the
directory of the file. -/
structure LeadsToFile (t : FileTree) (path : String) (directory : Location) (name : String) :
    Prop where
  checked : checkPath path = .ok ()
  asked : Path.asksForDirectory path = false
  names : ∃ front, Path.names path = front ++ [name] ∧ t.walk [] front = .ok directory
  inside : t.node? directory = some .directory
  short : name.utf8ByteSize ≤ maxNameSize
  name : name ≠ "." ∧ name ≠ ".."

theorem leadsToFile {path : String} (located : t.locate path = .ok l) {file : File}
    (present : t.node? l = some (.file file)) :
    ∃ directory name, l = directory ++ [name] ∧ t.LeadsToFile path directory name := by
  obtain ⟨checked, walked⟩ := locate_ok located
  have noDirectory : t.node? l ≠ some .directory := by simp [present]
  cases asked : Path.asksForDirectory path with
  | true =>
    rw [Path.steps, if_pos asked] at walked
    obtain ⟨between, -, last⟩ := walk_append_ok walked
    obtain ⟨directory, -, rest⟩ := walk_cons_ok last
    cases rest
    exact absurd directory noDirectory
  | false =>
    rw [Path.steps, asked] at walked
    rcases List.eq_nil_or_concat (Path.names path) with none | ⟨front, name, some⟩
    · rw [none] at walked
      cases walked
      exact absurd (node?_nil t) noDirectory
    · rw [List.concat_eq_append] at some
      rw [if_neg Bool.false_ne_true, some] at walked
      obtain ⟨directory, before, last⟩ := walk_append_ok walked
      obtain ⟨inside, short, rest⟩ := walk_cons_ok last
      have parents := (hasParents_nil t).walk before
      have here : name ≠ "." := by
        rintro rfl
        cases rest
        exact noDirectory inside
      have up : name ≠ ".." := by
        rintro rfl
        cases rest
        exact noDirectory parents.parent_directory
      rw [taken, if_neg here, if_neg up] at rest
      cases rest
      exact ⟨directory, name, rfl, checked, asked, ⟨front, some, before⟩, inside, short, here, up⟩

/-! ### Files in a directory -/

theorem isFile_iff {path : String} : t.isFile path = true ↔
    ∃ l file, t.locate path = .ok l ∧ t.node? l = some (.file file) := by
  unfold isFile
  constructor
  · intro h
    split at h
    · next file found =>
      obtain ⟨l, located, present⟩ := stat_ok_iff.mp found
      exact ⟨l, file, located, present⟩
    · cases h
  · rintro ⟨l, file, located, present⟩
    rw [stat_ok_iff.mpr ⟨l, located, present⟩]

/-- A path leads to a regular file directly inside the directory that the steps of `dir` lead to. -/
def LiesIn (t : FileTree) (dir path : String) : Prop :=
  ∃ directory name file, t.walk [] (Path.steps dir) = .ok directory ∧
    t.node? directory = some .directory ∧ t.locate path = .ok (directory ++ [name]) ∧
    t.node? (directory ++ [name]) = some (.file file)

theorem liesIn_of_isFile {dir name : String} (nonempty : name ≠ "") (free : '/' ∉ name.toList)
    (here : name ≠ ".") (up : name ≠ "..") (h : t.isFile (Path.join dir name) = true) :
    t.LiesIn dir (Path.join dir name) := by
  obtain ⟨l, file, located, present⟩ := isFile_iff.mp h
  have walked := (locate_ok located).2
  rw [Path.steps_join nonempty free] at walked
  obtain ⟨directory, before, last⟩ := walk_append_ok walked
  obtain ⟨inside, -, rest⟩ := walk_cons_ok last
  rw [taken, if_neg here, if_neg up] at rest
  cases rest
  refine ⟨directory, name, file, ?_, inside, located, present⟩
  unfold Path.steps
  split
  · rw [walk_append before, walk_cons inside (by decide)]
    rfl
  · exact before

/-- A file stays in its directory in every tree that has the directories, and a file there. -/
theorem LiesIn.mono {t' : FileTree} {dir path : String} (h : t.LiesIn dir path)
    (directories : ∀ l, t.node? l = some .directory → t'.node? l = some .directory)
    (files : ∀ l file, t.node? l = some (.file file) → ∃ file', t'.node? l = some (.file file')) :
    t'.LiesIn dir path := by
  obtain ⟨directory, name, file, walked, inside, located, present⟩ := h
  obtain ⟨checked, steps⟩ := locate_ok located
  obtain ⟨file', present⟩ := files _ file present
  exact ⟨directory, name, file', walk_mono directories walked, directories _ inside,
    (locate_eq checked).trans (walk_mono directories steps), present⟩

end CameraSetup.FileTree
