import CameraSetup.OverlayScan
import CameraSetup.Proofs.DeviceTree.Acceptance
import CameraSetup.Proofs.FileTree.Alike
import Mathlib.Data.List.Basic

/-! Entries of the overlay directory that are no overlays for the board. A scan does not depend on
them, unless they are on the way to what it reads. Main statement: `load_of_foreignChange`. -/

namespace CameraSetup.OverlayScan

open FileTree

variable {tree tree' : FileTree} {settings : Settings} {scan : OverlayScan} {directory : Location}
  {name : String}

/-! ### What a scan passes over -/

/-- An entry of the overlay directory that is no overlay for the board. -/
inductive IsForeign (settings : Settings) (tree : FileTree) (directory : Location) (name : String) :
    Prop
  | directory (here : tree.node? (directory ++ [name]) = some .directory)
  | otherExtension (other : Path.extension? name ≠ some fileExtension)
  | malformed {file : File} {e : DeviceTree.FormatError}
      (here : tree.node? (directory ++ [name]) = some (.file file))
      (rejected : OverlayIdentity.decode file.content = .error e)
  | otherBoard {file : File} {info : OverlayIdentity} {board : List UInt8}
      (here : tree.node? (directory ++ [name]) = some (.file file))
      (read : OverlayIdentity.decode file.content = .ok info)
      (known : tree.read settings.compatibleFile = .ok board)
      (apart : ∀ s ∈ info.compatible, s ∉ DeviceTree.stringsIn board)

theorem boardStrings?_eq (tree : FileTree) (path : String) :
    boardStrings? tree path = (tree.read path).toOption.map DeviceTree.stringsIn := by
  unfold boardStrings?
  cases tree.read path <;> rfl

theorem overlayAt?_eq_none (located : tree.locate settings.overlayDir = .ok directory)
    (inside : tree.node? directory = some .directory) (named : IsEntryName name)
    (foreign : IsForeign settings tree directory name) :
    overlayAt? tree settings.overlayDir (boardStrings? tree settings.compatibleFile) name = none := by
  unfold overlayAt?
  split
  · next extension =>
    cases done : tree.read (Path.join settings.overlayDir name) with
    | error => rfl
    | ok content =>
      obtain ⟨l, file, leads, present, rfl⟩ := exists_file_of_read done
      rw [eq_of_locate_join located inside named leads] at present
      dsimp only
      cases foreign with
      | directory here =>
        rw [present] at here
        cases here
      | otherExtension other => exact absurd extension other
      | malformed here rejected =>
        rw [present] at here
        cases here
        rw [rejected]
      | @otherBoard _ info board here read known apart =>
        rw [present] at here
        cases here
        have unsuited : info.isMadeFor (DeviceTree.stringsIn board) = false := by
          simpa [OverlayIdentity.isMadeFor] using apart
        rw [boardStrings?_eq, known, read]
        exact if_neg (Bool.eq_false_iff.mp unsuited)
  · rfl

theorem overlayAt?_of_mem_namesIn (located : tree.locate settings.overlayDir = .ok directory)
    (inside : tree.node? directory = some .directory) (named : tree.HasEntryNames)
    (foreign : tree.node? (directory ++ [name]) = none ∨ IsForeign settings tree directory name)
    (mem : name ∈ tree.namesIn directory) :
    overlayAt? tree settings.overlayDir (boardStrings? tree settings.compatibleFile) name = none := by
  obtain ⟨node, present⟩ := exists_of_mem_namesIn mem
  refine overlayAt?_eq_none located inside (named.isEntryName present) ?_
  exact foreign.resolve_left (by simp [present])

theorem overlayAt?_of_read {dir : String} {content : List UInt8} {info : OverlayIdentity}
    {board : Option (List String)} (extension : Path.extension? name = some fileExtension)
    (done : tree.read (Path.join dir name) = .ok content)
    (decoded : OverlayIdentity.decode content = .ok info) :
    overlayAt? tree dir board name = if suits board info then some ⟨name, info⟩ else none := by
  rw [overlayAt?, if_pos extension, done]
  dsimp only
  rw [decoded]

theorem overlayAt?_congr {dir : String} (board : Option (List String))
    (same : tree.read (Path.join dir name) = tree'.read (Path.join dir name)) :
    overlayAt? tree dir board name = overlayAt? tree' dir board name := by
  rw [overlayAt?, overlayAt?, same]

theorem load_eq_ok_iff : load tree settings = .ok scan ↔
    ∃ directory, tree.locate settings.overlayDir = .ok directory ∧
      tree.node? directory = some .directory ∧
      scan = ⟨settings.overlayDir, (tree.namesIn directory).filterMap
        (overlayAt? tree settings.overlayDir (boardStrings? tree settings.compatibleFile))⟩ := by
  unfold load
  rw [bind_eq_ok]
  constructor
  · rintro ⟨names, listed, done⟩
    obtain ⟨directory, located, inside, rfl⟩ := list_eq_ok_iff.mp listed
    exact ⟨directory, located, inside, (pure_eq_ok.mp done).symm⟩
  · rintro ⟨directory, located, inside, rfl⟩
    exact ⟨_, list_eq_ok_iff.mpr ⟨directory, located, inside, rfl⟩, rfl⟩

theorem filterMap_filter_ne {α : Type} {f : String → Option α} {names : List String}
    (nothing : name ∈ names → f name = none) :
    (names.filter (· ≠ name)).filterMap f = names.filterMap f := by
  rw [List.filterMap_filter]
  refine List.filterMap_congr fun n mem => ?_
  by_cases same : n = name
  · rw [if_neg (by simpa using same), same, nothing (same ▸ mem)]
  · rw [if_pos (by simpa using same)]

/-! ### Foreign entries come and go -/

/-- Two trees differ in one entry of the overlay directory, with what is below it. In either tree
nothing is there, or something foreign. The entry is not the file of the board's strings, and
neither the path of that file nor that of the overlay directory leads over it. -/
structure ForeignChange (settings : Settings) (directory : Location) (name : String)
    (tree tree' : FileTree) : Prop where
  located : tree.locate settings.overlayDir = .ok directory
  alike : AlikeBut (directory ++ [name]) tree tree'
  foreign : tree.node? (directory ++ [name]) = none ∨ IsForeign settings tree directory name
  foreign' : tree'.node? (directory ++ [name]) = none ∨ IsForeign settings tree' directory name
  dirElsewhere : ¬ tree.LeadsOver settings.overlayDir (directory ++ [name])
  boardElsewhere : ¬ tree.LeadsOver settings.compatibleFile (directory ++ [name])
  boardElsewhere' : ¬ tree'.LeadsOver settings.compatibleFile (directory ++ [name])

namespace ForeignChange

theorem located' (change : ForeignChange settings directory name tree tree')
    (inside : tree.node? directory = some .directory) :
    tree'.locate settings.overlayDir = .ok directory := by
  have avoided : directory ++ [name] ∉ way [] (Path.steps settings.overlayDir) := by
    intro mem
    exact change.dirElsewhere ⟨⟨_, stat_ok_iff.mpr ⟨_, change.located, inside⟩⟩, mem⟩
  rw [← change.alike.locate_eq (by simp) avoided]
  exact change.located

theorem inside' (change : ForeignChange settings directory name tree tree')
    (inside : tree.node? directory = some .directory) :
    tree'.node? directory = some .directory := by
  have shorter : ¬directory ++ [name] <+: directory := by
    intro longer
    have := longer.length_le
    rw [List.length_append, List.length_singleton] at this
    omega
  rw [← change.alike directory shorter]
  exact inside

theorem board_eq (change : ForeignChange settings directory name tree tree') :
    boardStrings? tree settings.compatibleFile = boardStrings? tree' settings.compatibleFile := by
  rw [boardStrings?_eq, boardStrings?_eq,
    change.alike.toOption_read_eq (by simp) change.boardElsewhere change.boardElsewhere']

end ForeignChange

/-- A change of foreign entries leaves the result of a scan as it is: the same overlays in the same
order, so also the same connector and descriptors, and the same session to start with. -/
theorem load_of_foreignChange (change : ForeignChange settings directory name tree tree')
    (named : tree.HasEntryNames) (named' : tree'.HasEntryNames)
    (loaded : load tree settings = .ok scan) : load tree' settings = .ok scan := by
  obtain ⟨_, located, inside, rfl⟩ := load_eq_ok_iff.mp loaded
  cases change.located.symm.trans located
  have located' := change.located' inside
  have inside' := change.inside' inside
  have nothing := overlayAt?_of_mem_namesIn located inside named change.foreign
  have nothing' := overlayAt?_of_mem_namesIn located' inside' named' change.foreign'
  refine load_eq_ok_iff.mpr ⟨directory, located', inside', ?_⟩
  rw [← filterMap_filter_ne nothing, ← filterMap_filter_ne nothing', change.alike.namesIn_eq,
    change.board_eq]
  -- What is left are the other names, which the trees have in common.
  congr 1
  refine List.filterMap_congr fun n mem => ?_
  obtain ⟨mem, ne⟩ := List.mem_filter.mp mem
  obtain ⟨node, present⟩ := exists_of_mem_namesIn mem
  have same := change.alike.node?_sibling (of_decide_eq_true ne)
  exact overlayAt?_congr _
    (read_join_congr located located' inside inside' (named'.isEntryName present) same)

open DeviceTree in
/-- An overlay for the boards whose string is `nv,` and a letter. -/
def overlayFor (letter : UInt8) : List UInt8 :=
  word magicNumber ++ word 87 ++ word 40 ++ word 76 ++ List.replicate 24 0 ++
    (word 1 ++ [0, 0, 0, 0]) ++
    (word 3 ++ word 5 ++ word 0 ++ [110, 118, 44, letter, 0, 0, 0, 0]) ++ word 2 ++ word 9 ++
    Text.encodeUtf8 "compatible" ++ [0]

open DeviceTree OverlayIdentity in
theorem decode_overlayFor : decode (overlayFor 97) = .ok ⟨none, none, ["nv,a"]⟩ ∧
    decode (overlayFor 98) = .ok ⟨none, none, ["nv,b"]⟩ := by
  have streams : ∀ letter ∈ [97, 98], Streams (overlayFor letter)
      (Text.encodeUtf8 "compatible" ++ [0])
      [.beginNode, .property 0 [110, 118, 44, letter, 0], .endNode] := by
    intro letter mem
    rw [List.mem_cons, List.mem_singleton] at mem
    rcases mem with rfl | rfl
    all_goals
      refine ⟨⟨40, 76⟩, by rfl, by decide +kernel, by rfl, ?_⟩
      refine Reader.tokens_cons rfl (by decide) ?_
      refine Reader.tokens_cons rfl (by decide) ?_
      exact Reader.tokens_cons rfl (by decide) (Reader.tokens_of_finish rfl)
  exact ⟨decode_eq_ok_iff.mpr ⟨_, _, 0, streams 97 (by simp), by decide +kernel⟩,
    decode_eq_ok_iff.mpr ⟨_, _, 0, streams 98 (by simp), by decide +kernel⟩⟩

/-- The files of a board whose string is `nv,a`, with an overlay for it and one for another. -/
def boardFiles : FileTree :=
  ((((FileTree.empty.put ["etc"] .directory).put ["etc", "compatible"]
    (.file ⟨0o444, Text.encodeUtf8 "nv,a" ++ [0]⟩)).put ["ov"] .directory).put ["ov", "a.dtbo"]
    (.file ⟨0o644, overlayFor 97⟩)).put ["ov", "b.dtbo"] (.file ⟨0o644, overlayFor 98⟩)

/-- `boardFiles` with a directory among the overlays. -/
def nestedFiles : FileTree := boardFiles.put ["ov", "sub"] .directory

/-- Settings with these paths to the overlay directory and to the strings of the board. -/
def settingsFor (overlayDir compatibleFile : String) : Settings :=
  { Settings.standard with overlayDir, compatibleFile }

theorem load_eq_of_names {dir compatible : String} {rest : List String}
    (located : tree.locate dir = .ok ["ov"]) (inside : tree.node? ["ov"] = some .directory)
    (names : tree.namesIn ["ov"] = "a.dtbo" :: "b.dtbo" :: rest)
    (others : ∀ name ∈ rest, Path.extension? name ≠ some fileExtension)
    (first : tree.read (Path.join dir "a.dtbo") = .ok (overlayFor 97))
    (second : tree.read (Path.join dir "b.dtbo") = .ok (overlayFor 98)) :
    load tree (settingsFor dir compatible) = .ok ⟨dir,
      [⟨"a.dtbo", none, none, ["nv,a"]⟩, ⟨"b.dtbo", none, none, ["nv,b"]⟩].filter
        fun o => suits (boardStrings? tree compatible) o.info⟩ := by
  obtain ⟨a, b⟩ := decode_overlayFor
  have nothing : ∀ board, rest.filterMap (overlayAt? tree dir board) = [] := fun board =>
    List.filterMap_eq_nil_iff.mpr fun name mem => if_neg (others name mem)
  refine load_eq_ok_iff.mpr ⟨["ov"], located, inside, ?_⟩
  show _ = OverlayScan.mk dir ((tree.namesIn ["ov"]).filterMap
    (overlayAt? tree dir (boardStrings? tree compatible)))
  generalize boardStrings? tree compatible = board
  rw [names, List.filterMap_cons, overlayAt?_of_read (by decide +kernel) first a,
    List.filterMap_cons, overlayAt?_of_read (by decide +kernel) second b, nothing,
    List.filter_cons, List.filter_cons]
  dsimp only
  cases suits board ⟨none, none, ["nv,a"]⟩ <;> cases suits board ⟨none, none, ["nv,b"]⟩ <;> rfl

/-- The directory among the overlays is removed. -/
theorem load_of_foreignChange_directory :
    ∃ scan, load nestedFiles (settingsFor "/ov" "/etc/compatible") = .ok scan ∧
      scan.overlays = [⟨"a.dtbo", none, none, ["nv,a"]⟩] ∧
      load boardFiles (settingsFor "/ov" "/etc/compatible") = .ok scan := by
  have change : ForeignChange (settingsFor "/ov" "/etc/compatible") ["ov"] "sub" nestedFiles
      boardFiles := {
    located := by decide +kernel
    alike := (alikeBut_put _ _ _).symm
    foreign := .inr (.directory (by decide +kernel))
    foreign' := .inl (by decide +kernel)
    dirElsewhere := fun led => absurd led.2 (by decide +kernel)
    boardElsewhere := fun led => absurd led.2 (by decide +kernel)
    boardElsewhere' := fun led => absurd led.2 (by decide +kernel) }
  have loaded := @load_eq_of_names nestedFiles "/ov" "/etc/compatible" ["sub"] (by decide +kernel)
    (by decide +kernel) (by decide +kernel) (by decide +kernel) (by decide +kernel)
    (by decide +kernel)
  exact ⟨_, loaded, by decide +kernel,
    load_of_foreignChange change (by decide +kernel) (by decide +kernel) loaded⟩

/-- The directory that is removed is on the way to the overlay directory, which is not found any
more, or on the way to the strings of the board, and then the other board's overlay is taken. -/
theorem load_led_over_foreign_directory :
    AlikeBut ["ov", "sub"] nestedFiles boardFiles ∧
    nestedFiles.node? ["ov", "sub"] = some .directory ∧
    boardFiles.node? ["ov", "sub"] = none ∧
    nestedFiles.locate "/ov/sub/.." = .ok ["ov"] ∧
    nestedFiles.locate "/ov/sub/../../etc/compatible" = .ok ["etc", "compatible"] ∧
    load nestedFiles (settingsFor "/ov/sub/.." "/etc/compatible") =
      .ok ⟨"/ov/sub/..", [⟨"a.dtbo", none, none, ["nv,a"]⟩]⟩ ∧
    load boardFiles (settingsFor "/ov/sub/.." "/etc/compatible") = .error .notFound ∧
    load nestedFiles (settingsFor "/ov" "/ov/sub/../../etc/compatible") =
      .ok ⟨"/ov", [⟨"a.dtbo", none, none, ["nv,a"]⟩]⟩ ∧
    load boardFiles (settingsFor "/ov" "/ov/sub/../../etc/compatible") =
      .ok ⟨"/ov", [⟨"a.dtbo", none, none, ["nv,a"]⟩, ⟨"b.dtbo", none, none, ["nv,b"]⟩]⟩ := by
  refine ⟨(alikeBut_put _ _ _).symm, by decide +kernel, by decide +kernel, by decide +kernel,
    by decide +kernel, ?_, by decide +kernel, ?_, ?_⟩
  · rw [@load_eq_of_names nestedFiles "/ov/sub/.." "/etc/compatible" ["sub"] (by decide +kernel)
      (by decide +kernel) (by decide +kernel) (by decide +kernel) (by decide +kernel)
      (by decide +kernel)]
    decide +kernel
  · rw [@load_eq_of_names nestedFiles "/ov" "/ov/sub/../../etc/compatible" ["sub"]
      (by decide +kernel) (by decide +kernel) (by decide +kernel) (by decide +kernel)
      (by decide +kernel) (by decide +kernel)]
    decide +kernel
  · rw [@load_eq_of_names boardFiles "/ov" "/ov/sub/../../etc/compatible" [] (by decide +kernel)
      (by decide +kernel) (by decide +kernel) (by decide +kernel) (by decide +kernel)
      (by decide +kernel)]
    decide +kernel

end CameraSetup.OverlayScan
