import CameraSetup.FileTree.Tree

/-! Replacing a file as a whole. The text goes to a temporary file in the directory of the path, which
then takes the place of the file. Every step can fail, also for reasons that the tree does not tell,
and the temporary file is then removed. That removal is taken not to fail. -/

namespace CameraSetup

/-- A name that is picked for a temporary file: six letters or digits after a fixed start. -/
structure TemporaryName where
  letters : List Char
  length : letters.length = 6
  alphanumeric : ∀ c ∈ letters, c.isAlphanum = true
  deriving DecidableEq, Repr

/-- The name as text. -/
def TemporaryName.text (name : TemporaryName) : String := ".tmp" ++ String.ofList name.letters

/-- What the steps of a replacement meet that the tree does not tell: the names picked for the
temporary file, in the order in which they are tried, and what each step fails with, if it does. -/
structure Circumstances where
  names : List TemporaryName
  creation : Option SystemError := none
  /-- The number of octets that are written before the failure, and the failure. -/
  writing : Option (Nat × SystemError) := none
  syncing : Option SystemError := none
  mode : Option SystemError := none
  moving : Option SystemError := none
  deriving DecidableEq, Repr

/-- Nothing fails, and a name is at hand. -/
def Circumstances.plain : Circumstances where
  names := [⟨['s', 'p', 'a', 'r', 'e', '1'], rfl, List.all_eq_true.mp rfl⟩]

namespace FileTree

/-- Steps on a tree of files. What they changed stays changed when a later one fails. -/
abbrev Steps := EStateM FileError FileTree

/-- The mode of a temporary file: only its owner can read it. -/
def temporaryMode : Nat := 0o600

/-- Fails where there is a failure to meet. -/
def meet : Option SystemError → Steps Unit
  | none => pure ()
  | some cause => throw (.system cause)

/-- Makes an empty file in the directory of a path, under the first of some names at which nothing
exists. The answer is the file's location and path. -/
def makeTemporary (path : String) (failure : Option SystemError) :
    List TemporaryName → Steps (Location × String)
  | [] => throw (.atPath (Path.join "/" (Path.parent path)) .tooManyTemporaryFiles)
  | name :: names => do
    let temporary := Path.beside path name.text
    let t ← get
    match t.locate temporary with
    | .error cause => throw (.atPath temporary cause)
    | .ok location =>
      match t.node? location, failure with
      | some _, _ => makeTemporary path failure names
      | none, some cause => throw (.atPath temporary (.system cause))
      | none, none =>
        set (t.put location (.file ⟨temporaryMode, []⟩))
        pure (location, temporary)

variable (t : FileTree)

/-- The tree with the file at a location changed. -/
def edit (location : Location) (change : File → File) : FileTree :=
  match t.node? location with
  | some (.file file) => t.put location (.file (change file))
  | _ => t

/-- The tree with nothing at a location. -/
def remove (location : Location) : FileTree := ⟨t.nodes.erase location⟩

/-- The tree with octets at the end of a file. -/
def append (location : Location) (octets : List UInt8) : FileTree :=
  t.edit location fun file => { file with content := file.content ++ octets }

/-- Moves what is at one location to another, in place of a file there. -/
def rename (source target : Location) : Except FileError FileTree :=
  match t.node? source, t.node? target with
  | none, _ => .error .notFound
  | some _, some .directory => .error .isADirectory
  | some node, _ => .ok ((t.remove source).put target node)

/-- The location that a file can be moved to by a path. The path has to end in a name, and must not
ask for a directory. -/
def destination (path : String) : Except FileError Location := do
  checkPath path
  let directory ← t.walk [] ((Path.names path).dropLast ++ ["."])
  match (Path.names path).getLast? with
  | none | some "." | some ".." => throw .busy
  | some name =>
    let location ← t.walk directory [name]
    if Path.asksForDirectory path then throw .notADirectory else pure location

/-- Writes octets to a file. When that fails, some of them have been written. -/
def writeOctets (location : Location) (path : String) (octets : List UInt8) :
    Option (Nat × SystemError) → Steps Unit
  | none => modify (·.append location octets)
  | some (count, cause) => do
    modify (·.append location (octets.take count))
    throw (.atPath path (.system cause))

/-- Gives a file the mode of what is at a path, if something is. Directories have no mode here, as no
file takes the place of one. -/
def copyMode (location : Location) (path : String) (failure : Option SystemError) :
    Steps Unit := do
  let t ← get
  match t.stat path with
  | .error _ => pure ()
  | .ok node =>
    meet failure
    match node with
    | .file old => set (t.edit location fun file => { file with mode := old.mode })
    | .directory => pure ()

/-- Moves a file to a path, in place of a file there. -/
def moveTo (location : Location) (path : String) (failure : Option SystemError) :
    Steps Unit := do
  let t ← get
  match t.destination path >>= t.rename location with
  | .error cause => throw cause
  | .ok moved =>
    meet failure
    set moved

/-- Fills the temporary file at a location, and has it take the place of the file at a path. -/
def completeReplacement (c : Circumstances) (location : Location) (temporary path text : String) :
    Steps Unit := do
  writeOctets location temporary (Text.encodeUtf8 text) c.writing
  meet c.syncing
  copyMode location path c.mode
  moveTo location path c.moving

/-- Replaces the file at a path as a whole. -/
def replaceText (c : Circumstances) (path text : String) : FileTree × Except FileError Unit :=
  match (makeTemporary path c.creation c.names).run t with
  | .error cause left => (left, .error cause)
  | .ok (location, temporary) prepared =>
    match (completeReplacement c location temporary path text).run prepared with
    | .error cause left => (left.remove location, .error cause)
    | .ok () left => (left, .ok ())

end FileTree

end CameraSetup
