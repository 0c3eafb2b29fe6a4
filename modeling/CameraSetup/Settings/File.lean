import CameraSetup.FileTree.Tree
import CameraSetup.Json.Value
import CameraSetup.Settings.Basic

/-! Settings as JSON. A file holds an object with some of the fields, each once, or a list of values
for the first fields; the fields it leaves out keep their standard values. -/

namespace CameraSetup.Settings

/-- The fields, as a file names them. -/
inductive Field
  | overlayDir
  | bootConfig
  | dtbDir
  | compatibleFile
  | pageCapacity
  | rebootCommand
  | logFile
  deriving DecidableEq, Repr

namespace Field

/-- The fields in the order in which a list gives them. -/
def all : List Field :=
  [.overlayDir, .bootConfig, .dtbDir, .compatibleFile, .pageCapacity, .rebootCommand, .logFile]

/-- The name of a field. -/
def name : Field → String
  | .overlayDir => "overlay_dir"
  | .bootConfig => "boot_config"
  | .dtbDir => "dtb_dir"
  | .compatibleFile => "compatible_file"
  | .pageCapacity => "page_capacity"
  | .rebootCommand => "reboot_command"
  | .logFile => "log_file"

/-- The field of a name. -/
def ofName? (name : List Char) : Option Field := all.find? fun f => f.name.toList == name

end Field

/-- Page capacities are below this bound. -/
def capacityBound : Nat := 0x10000000000000000

/-- The text that a value is. -/
def textOf? : Json → Option String
  | .string s => some (String.ofList s)
  | _ => none

/-- The page capacity that a value is: a number of digits only. -/
def capacityOf? : Json → Option Nat
  | .number literal =>
    let n := literal.foldl (fun n d => 10 * n + (d.toNat - '0'.toNat)) 0
    if literal.all Char.isDigit && n < capacityBound then some n else none
  | _ => none

/-- The list of texts that a value is. -/
def textsOf? : Json → Option (List String)
  | .array elements => elements.mapM textOf?
  | _ => none

/-- The settings with a field taken from a value of its type. -/
def withField? (s : Settings) (field : Field) (value : Json) : Option Settings :=
  match field with
  | .overlayDir => (textOf? value).map fun v => { s with overlayDir := v }
  | .bootConfig => (textOf? value).map fun v => { s with bootConfig := v }
  | .dtbDir => (textOf? value).map fun v => { s with dtbDir := v }
  | .compatibleFile => (textOf? value).map fun v => { s with compatibleFile := v }
  | .pageCapacity => (capacityOf? value).map fun v => { s with pageCapacity := v }
  | .rebootCommand => (textsOf? value).map fun v => { s with rebootCommand := v }
  | .logFile => (textOf? value).map fun v => { s with logFile := v }

/-- The standard settings with some fields replaced. -/
def withFields? (fields : List (Field × Json)) : Option Settings :=
  fields.foldlM (fun s f => s.withField? f.1 f.2) standard

/-- The settings that a value describes. -/
def ofJson? : Json → Option Settings
  | .object members => do
    let fields ← members.mapM fun m => (Field.ofName? m.1).map fun f => (f, m.2)
    if (fields.map (·.1)).Nodup then withFields? fields else none
  | .array values =>
    if values.length ≤ Field.all.length then withFields? (Field.all.zip values) else none
  | _ => none

/-- A text as a value. -/
def textJson (s : String) : Json := .string s.toList

/-- The value of a field. -/
def field (s : Settings) : Field → Json
  | .overlayDir => textJson s.overlayDir
  | .bootConfig => textJson s.bootConfig
  | .dtbDir => textJson s.dtbDir
  | .compatibleFile => textJson s.compatibleFile
  | .pageCapacity => .number (toString s.pageCapacity).toList
  | .rebootCommand => .array (s.rebootCommand.map textJson)
  | .logFile => textJson s.logFile

/-- The settings as an object with all fields. -/
def toJson (s : Settings) : Json := .object (Field.all.map fun f => (f.name.toList, s.field f))

/-! ### Files -/

/-- Why settings cannot be loaded or saved. -/
inductive Error
  | unreadable (path : String) (cause : FileError)
  | malformed
  | invalid (fault : Fault)
  | unwritable (path : String) (cause : FileError)
  deriving DecidableEq, Repr

/-- How the operator is told, without what lies behind it. -/
def Error.message : Error → String
  | .unreadable path _ => s!"Failed to read settings from {Text.quoted path}"
  | .malformed => "Failed to parse settings JSON"
  | .invalid fault => fault.message
  | .unwritable path _ => s!"Failed to write settings to {Text.quoted path}"

/-- The message with what lies behind it. -/
def Error.fullMessage (e : Error) : String :=
  match e with
  | .unreadable _ cause | .unwritable _ cause => s!"{e.message}: {cause.message}"
  | .malformed | .invalid _ => e.message

/-- The settings that a text holds. -/
def ofText? (text : String) : Except Error Settings :=
  match (Json.parse? text).bind ofJson? with
  | none => .error .malformed
  | some s =>
    match s.check with
    | .error fault => .error (.invalid fault)
    | .ok () => .ok s

/-- Loads settings from a file. -/
def load (tree : FileTree) (path : String) : Except Error Settings :=
  match tree.readText path with
  | .error cause => .error (.unreadable path cause)
  | .ok text => ofText? text

/-- Saves settings to a file. They are not checked. -/
def save (s : Settings) (tree : FileTree) (path : String) : Except Error FileTree :=
  (tree.writeText path s.toJson.render).mapError (.unwritable path)

end CameraSetup.Settings
