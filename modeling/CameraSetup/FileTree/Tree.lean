import CameraSetup.FileTree.Path
import CameraSetup.SortedMap
import CameraSetup.Text.Quoted
import CameraSetup.Text.Utf8

/-! A tree of files: what exists at each location, with the operations that read it and the one that
writes a file in place. There are regular files and directories. Symbolic links are left out: what a
link leads to would stand at its location. -/

namespace CameraSetup

/-- A failure of the operating system that a tree of files does not tell of, such as a full disk: its
number and its text. -/
structure SystemError where
  number : Nat
  text : String
  deriving DecidableEq, Repr

/-- Why an operation on files fails. -/
inductive FileError
  | notFound
  | notADirectory
  | isADirectory
  | invalidData
  | invalidInput
  | nameTooLong
  | busy
  | tooManyTemporaryFiles
  | system (cause : SystemError)
  | atPath (path : String) (cause : FileError)
  deriving DecidableEq, Repr

/-- How the error is worded. -/
def FileError.message : FileError → String
  | .notFound => "No such file or directory (os error 2)"
  | .notADirectory => "Not a directory (os error 20)"
  | .isADirectory => "Is a directory (os error 21)"
  | .invalidData => "stream did not contain valid UTF-8"
  | .invalidInput => "file name contained an unexpected NUL byte"
  | .nameTooLong => "File name too long (os error 36)"
  | .busy => "Device or resource busy (os error 16)"
  | .tooManyTemporaryFiles => "too many temporary files exist"
  | .system cause => s!"{cause.text} (os error {cause.number})"
  | .atPath path cause => s!"{cause.message} at path {Text.quoted path}"

/-- A regular file: its permission bits and its octets. -/
structure File where
  mode : Nat
  content : List UInt8
  deriving DecidableEq, Repr

/-- What can exist at a location. -/
inductive Node
  | file (file : File)
  | directory
  deriving DecidableEq, Repr

/-- A place in the tree, as the names on the way from the root. -/
abbrev Location := List String

/-- What exists at which location. The root always exists. -/
structure FileTree where
  nodes : SortedMap Location Node
  deriving DecidableEq

namespace FileTree

/-- The tree with nothing but the root. -/
def empty : FileTree := ⟨.empty⟩

variable (t : FileTree)

/-- What exists at a location. -/
def node? (location : Location) : Option Node :=
  if location.isEmpty then some .directory else t.nodes.get? location

/-- The tree with something else at a location. -/
def put (location : Location) (node : Node) : FileTree := ⟨t.nodes.insert location node⟩

theorem node?_put_self {location : Location} (h : location ≠ []) (node : Node) :
    (t.put location node).node? location = some node := by
  simp [node?, put, h]

theorem node?_put_of_ne {l m : Location} (h : m ≠ l) (node : Node) :
    (t.put l node).node? m = t.node? m := by
  simp only [node?, put]
  split
  · rfl
  · exact SortedMap.get?_insert_of_ne _ h _

/-- The directory of a location. -/
def parent (location : Location) : Location := location.dropLast

/-- The size that a name can have. -/
def maxNameSize : Nat := 255

/-- The size that a path can have. -/
def maxPathSize : Nat := 4095

/-- Follows steps from a location; each is taken from a directory. -/
def walk (location : Location) : List String → Except FileError Location
  | [] => .ok location
  | step :: steps =>
    match t.node? location with
    | none => .error .notFound
    | some (.file _) => .error .notADirectory
    | some .directory =>
      if step = "." then walk location steps
      else if step = ".." then walk (parent location) steps
      else if maxNameSize < step.utf8ByteSize then .error .nameTooLong
      else walk (location ++ [step]) steps

/-- Whether a path can be followed at all. -/
def checkPath (path : String) : Except FileError Unit :=
  if path.isEmpty then .error .notFound
  else if path.toList.contains '\x00' then .error .invalidInput
  else if maxPathSize < path.utf8ByteSize then .error .nameTooLong
  else .ok ()

/-- The location that a path leads to, whether something exists there or not. -/
def locate (path : String) : Except FileError Location := do
  checkPath path
  t.walk [] (Path.steps path)

/-- What exists at a path. -/
def stat (path : String) : Except FileError Node := do
  let location ← t.locate path
  match t.node? location with
  | none => throw .notFound
  | some node => pure node

/-- Whether there is a regular file at a path. -/
def isFile (path : String) : Bool :=
  match t.stat path with
  | .ok (.file _) => true
  | _ => false

/-- The octets of a file. -/
def read (path : String) : Except FileError (List UInt8) := do
  match ← t.stat path with
  | .file file => pure file.content
  | .directory => throw .isADirectory

/-- The text of a file, which has to be well-formed UTF-8. -/
def readText (path : String) : Except FileError String := do
  let content ← t.read path
  match Text.decodeUtf8? content with
  | none => throw .invalidData
  | some text => pure text

/-- The name that a location has in a directory, if it lies directly inside. -/
def nameIn? (directory location : Location) : Option String :=
  match location.getLast? with
  | none => none
  | some name => if location = directory ++ [name] then some name else none

/-- The names in a directory, in order. -/
def list (path : String) : Except FileError (List String) := do
  let location ← t.locate path
  match t.node? location with
  | none => throw .notFound
  | some (.file _) => throw .notADirectory
  | some .directory => pure (t.nodes.keys.filterMap (nameIn? location))

/-- The mode of a file that a write makes: everyone can read it. -/
def newFileMode : Nat := 0o644

/-- Writes a file in place. The mode of a file that is there is kept. -/
def writeText (path text : String) : Except FileError FileTree := do
  let location ← t.locate path
  let content := Text.encodeUtf8 text
  match t.node? location with
  | some .directory => throw .isADirectory
  | some (.file old) => pure (t.put location (.file ⟨old.mode, content⟩))
  | none => pure (t.put location (.file ⟨newFileMode, content⟩))

/-- The tree after a file was opened to be written at its end: one that does not exist is made,
empty, if its directory is there. -/
def opened (path : String) : FileTree :=
  match t.locate path with
  | .error _ => t
  | .ok location =>
    match t.node? location with
    | some _ => t
    | none => t.put location (.file ⟨newFileMode, []⟩)

/-- The regular files with their locations, in order. -/
def files : List (Location × File) :=
  t.nodes.toList.filterMap fun (location, node) =>
    match node with
    | .file file => some (location, file)
    | .directory => none

/-- The tree with a directory at a location, and all directories on the way to it. What exists
already stays. -/
def withDirectory (location : Location) : FileTree :=
  (List.range (location.length + 1)).foldl (fun t depth =>
    let ancestor := location.take depth
    if (t.node? ancestor).isSome then t else t.put ancestor .directory) t

/-- The tree with something put where steps from a location lead, and with all directories on the
way there. -/
def planted (t : FileTree) (location : Location) (node : Node) : List String → FileTree
  | [] => t.put location node
  | step :: steps =>
    let t := t.withDirectory location
    if step = "." then t.planted location node steps
    else if step = ".." then t.planted (parent location) node steps
    else t.planted (location ++ [step]) node steps

end FileTree

end CameraSetup
