import CameraSetup.Invocation
import CameraSetup.KeyPress.Typed
import CameraSetup.Screen.ControlSequence

/-! The command line. The files that a run looks at are read into a tree, the run is carried out on
the tree, and the files that it changed are written back. An interactive run draws on the terminal
and reads keys by lines. -/

namespace CameraSetup.CommandLine

/-! ### Files -/

/-- What an action gives, if it succeeds. -/
def attempt {α : Type} (action : IO α) : IO (Option α) := do
  try
    let result ← action
    pure (some result)
  catch _ => pure none

/-- What is at a location of the disk. The content of a file is only read if it is wanted; what
cannot be read counts as absent. -/
def lookAt (location : Location) (wanted : Bool) : IO (Option Node) := do
  let path := (← IO.currentDir) / ("/" ++ String.intercalate "/" location)
  match ← attempt path.metadata with
  | none => pure none
  | some about =>
    if about.type == .dir then pure (some .directory)
    else if wanted then
      let octets ← attempt (IO.FS.readBinFile path)
      pure (octets.map fun octets => .file ⟨FileTree.newFileMode, octets.toList⟩)
    else pure (some (.file ⟨FileTree.newFileMode, []⟩))

/-- Adds what is at a location of the disk to a tree, unless it is known well enough. -/
def addLocation (tree : FileTree) (location : Location) (wanted : Bool) : IO FileTree := do
  match tree.node? location, wanted with
  | some .directory, _ | some (.file _), false => pure tree
  | _, _ =>
    match ← lookAt location wanted with
    | none => pure tree
    | some node => pure (tree.put location node)

/-- Adds what the disk has on the way from a location to a tree, and what is at its end. -/
def addWay (tree : FileTree) (location : Location) (wanted : Bool) :
    List String → IO FileTree
  | [] => addLocation tree location wanted
  | step :: steps => do
    let tree ← addLocation tree location false
    if step = "." then addWay tree location wanted steps
    else if step = ".." then addWay tree (FileTree.parent location) wanted steps
    else addWay tree (location ++ [step]) wanted steps

/-- Adds what the disk has at a path, and on the way there, to a tree. -/
def addPath (tree : FileTree) (path : String) (wanted : Bool) : IO FileTree :=
  addWay tree [] wanted (Path.steps path)

/-- Adds a directory of the disk to a tree, with what is in it. The content of a file is only read
where the file's name says that it is wanted. -/
def addDirectory (tree : FileTree) (path : String) (wanted : String → Bool) : IO FileTree := do
  let tree ← addPath tree path false
  match tree.locate path with
  | .error _ => pure tree
  | .ok location =>
    match ← attempt ((← IO.currentDir) / path).readDir with
    | none => pure tree
    | some found =>
      found.toList.foldlM (fun tree entry =>
        addLocation tree (location ++ [entry.fileName]) (wanted entry.fileName)) tree

/-- Whether a file holds an overlay. -/
def isOverlay (name : String) : Bool := Path.extension? name = some OverlayScan.fileExtension

/-- Everything on the disk that a run with some settings looks at. -/
def treeFor (settings : Settings) : IO FileTree := do
  let tree ← addDirectory .empty settings.overlayDir isOverlay
  let tree ← addDirectory tree settings.dtbDir fun _ => false
  let tree ← addPath tree settings.compatibleFile true
  let tree ← addPath tree settings.bootConfig true
  addPath tree settings.logFile false

/-- A tree with the file at a path of the disk, which can be relative, or with what is in its
place. -/
def treeWith (path : String) : IO FileTree := do
  match ← attempt (IO.FS.readBinFile path) with
  | some octets =>
    let file : File := ⟨FileTree.newFileMode, octets.toList⟩
    pure (FileTree.empty.planted [] (.file file) (Path.steps path))
  | none =>
    if Path.isAbsolute path then addPath .empty path false
    else if ← ((← IO.currentDir) / path).isDir then
      pure (FileTree.empty.planted [] .directory (Path.steps path))
    else pure .empty

/-- A path in the directory of another, at which nothing exists. -/
def unusedBeside (path : String) : IO String := do
  let here ← IO.currentDir
  for number in List.range 1000 do
    let beside := Path.join (Path.parent path) s!".setup{number}"
    unless ← (here / beside).pathExists do return beside
  throw (IO.userError s!"no room for a temporary file beside {path}")

/-- Writes a file to the disk as a whole, if a run changed it. -/
def save (before after : FileTree) (path : String) : IO Unit := do
  match after.stat path with
  | .ok (.file file) =>
    if (before.stat path).toOption ≠ some (.file file) then
      let temporary ← unusedBeside path
      IO.FS.writeBinFile temporary ⟨file.content.toArray⟩
      IO.FS.rename temporary path
  | _ => pure ()

/-! ### Interactive runs -/

/-- The width and height of the terminal, as the environment gives them. The last line is left to
what is typed. -/
def screenSize : IO (Nat × Nat) := do
  let size (name : String) (standard : Nat) : IO Nat := do
    pure (((← IO.getEnv name).bind String.toNat?).getD standard)
  pure (← size "COLUMNS" 80, (← size "LINES" 24) - 1)

/-- Draws a picture. -/
def draw (picture : Screen.Picture) : IO Unit := do
  let output ← IO.getStdout
  output.putStrLn (Screen.drawing picture)
  output.flush

/-- The keys in the next line of the input. -/
def readKeys : IO (List KeyPress) := do
  pure (KeyPress.ofLine (← (← IO.getStdin).getLine))

/-- What an interactive run leaves. -/
structure Left where
  tree : FileTree
  exit : Except SetupError Session.Exit

/-- Goes on with a session, with the keys that were read and then with those that are typed. -/
partial def converse (session : Session) (tree : FileTree) (keys : List KeyPress) : IO Left := do
  let (width, height) ← screenSize
  match keys with
  | [] =>
    if let .ok view := (session.fitted height).view then draw (Screen.menu width height view)
    converse session tree (← readKeys)
  | key :: keys =>
    let turn := session.turn tree ⟨height, .ok key.meaning, .plain⟩
    for (view, lines) in turn.views.zip turn.messages do
      draw (Screen.message width height lines (Screen.menu width height view))
      let _ ← readKeys
    match turn.exit with
    | none => converse turn.session turn.tree keys
    | some exit => pure ⟨turn.tree, exit⟩

/-- Runs a session on the terminal. -/
def runSession (session : Session) (tree : FileTree) : IO Left := do
  if ← (← IO.getStdin).isTty then converse session tree []
  else pure ⟨tree, .error (.terminal "standard input is no terminal")⟩

/-! ### Runs -/

/-- What an invocation depends on, given the tree of files. What a write to the disk meets shows only
when the changed files are saved. -/
def surroundings (tree : FileTree) : IO Surroundings := do
  let status ← attempt (IO.FS.readFile "/proc/self/status")
  pure
    { tree
      isRoot := status.any Readiness.hasRootStatus
      rootWaiver := ← IO.getEnv "CAMCONFIG_SKIP_ROOT_CHECK"
      circumstances := .plain }

/-- Carries out an invocation on the tree of its files, with the settings file in a tree of its
own. -/
def carryOut (given tree : FileTree) (arguments : List String) : IO Invocation.Ended := do
  match Invocation.run (Settings.load given) (← surroundings tree) arguments with
  | .ended ended => pure ended
  | .interactive session tree =>
    let left ← runSession session tree
    match left.exit with
    | .ok exit => pure ⟨0, exit.printed, "", left.tree⟩
    | .error cause => pure (Invocation.failed left.tree (.setup cause))

/-- The settings file that arguments name. -/
def settingsFile? (arguments : List String) : Option String :=
  (Options.parse arguments).toOption.bind (·.config)

/-- The settings of an invocation; the standard ones when they cannot be loaded. -/
def settingsOf (tree : FileTree) (arguments : List String) : Settings :=
  match settingsFile? arguments with
  | none => .standard
  | some path => (Settings.load tree path).toOption.getD .standard

end CameraSetup.CommandLine

open CameraSetup CommandLine in
/-- Carries out an invocation on the files of the disk. -/
def main (arguments : List String) : IO UInt32 := do
  let given ← match settingsFile? arguments with
    | none => pure FileTree.empty
    | some path => treeWith path
  let settings := settingsOf given arguments
  let tree ← treeFor settings
  let ended ← carryOut given tree arguments
  try
    save tree ended.tree settings.logFile
    save tree ended.tree settings.bootConfig
    (← IO.getStderr).putStr ended.errors
    (← IO.getStdout).putStr ended.output
    pure (UInt32.ofNat ended.code)
  catch cause =>
    (← IO.getStderr).putStrLn s!"Error: {cause}"
    pure 1
