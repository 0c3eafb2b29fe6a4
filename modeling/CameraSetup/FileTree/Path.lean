import CameraSetup.Text.Cut

/-! Paths as text, and the steps they take through a tree of files. -/

namespace CameraSetup.Path

/-- Whether a path starts at the root. -/
def isAbsolute (path : String) : Bool := path.toList.head? == some '/'

/-- Whether a path ends in a separator, which asks for a directory. -/
def asksForDirectory (path : String) : Bool := path.toList.getLast? == some '/'

/-- A name taken from a directory. An absolute name stands for itself; a separator is put between
the two unless the directory ends in one. -/
def join (dir name : String) : String :=
  if isAbsolute name || dir.isEmpty then name
  else if asksForDirectory dir then dir ++ name
  else dir ++ "/" ++ name

/-- The names between the separators of a path. -/
def names (path : String) : List String :=
  ((Text.fields '/' path.toList).filter (!·.isEmpty)).map String.ofList

/-- The steps of a path. Where it asks for a directory, one more step on the spot makes sure of
that. -/
def steps (path : String) : List String :=
  if asksForDirectory path then names path ++ ["."] else names path

/-- What stands between the separators of a path, also where that is nothing. -/
def parts (path : String) : List String := (Text.fields '/' path.toList).map String.ofList

/-- Parts of a path without those at the end that stay on the spot: nothing, and the name that stands
for the directory itself. -/
def withoutIdleEnd (parts : List String) : List String :=
  (parts.reverse.dropWhile fun part => part.isEmpty || part == ".").reverse

/-- The path of the directory that a path's last name lies in. Where nothing of the path is left, that
is the directory that relative paths start from. -/
def parent (path : String) : String :=
  match withoutIdleEnd (parts path) with
  | [] => "."
  | kept =>
    match withoutIdleEnd kept.dropLast with
    | [] => if isAbsolute path then "/" else "."
    | above => String.intercalate "/" above

/-- The path of a name in the directory of a path. A relative path starts at the root. -/
def beside (path name : String) : String := join (join "/" (parent path)) name

/-- What follows the last period of a file name, unless nothing precedes that period. -/
def extension? (name : String) : Option String :=
  match Text.cutLast? '.' name.toList with
  | none => none
  | some (stem, ext) => if stem.isEmpty then none else some (String.ofList ext)

end CameraSetup.Path
