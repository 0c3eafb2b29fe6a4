import CameraSetup.Text.Cut

/-! The options of the command line. An option that takes values takes them from the arguments that
follow, up to the next option, or has one attached to it. Options without values may be joined
behind one dash. No other arguments are taken. -/

namespace CameraSetup

/-- The options that were given. -/
structure Options where
  dryRun : Bool
  config : Option String
  list : Bool
  modules : Option (List String)
  deriving DecidableEq, Repr

/-- What a run is asked for. -/
inductive Mode
  | interactive
  | list
  | apply (modules : List String)
  deriving DecidableEq, Repr

/-- Why arguments are not acted upon. -/
inductive UsageError
  | invalidValue
  | unknownArgument
  | argumentConflict
  | tooManyValues
  | helpRequested
  | versionRequested
  deriving DecidableEq, Repr

namespace Options

/-- The options of a command line without arguments. -/
def none : Options := ⟨false, .none, false, .none⟩

/-- What the options ask for. -/
def mode (o : Options) : Mode :=
  match o.modules with
  | some modules => .apply modules
  | .none => if o.list then .list else .interactive

/-- The options that take values. -/
inductive ValueOption
  | config
  | modules
  deriving DecidableEq, Repr

/-- The options that take none. -/
inductive Flag
  | dryRun
  | list
  | help
  | version
  deriving DecidableEq, Repr

/-- An option. -/
inductive Name
  | flag (flag : Flag)
  | value (option : ValueOption)
  deriving DecidableEq, Repr

/-- The option of a long name. -/
def long? (name : String) : Option Name :=
  match name with
  | "dry-run" => some (.flag .dryRun)
  | "list" => some (.flag .list)
  | "help" => some (.flag .help)
  | "version" => some (.flag .version)
  | "config" => some (.value .config)
  | "name" => some (.value .modules)
  | _ => .none

/-- The option of a short name. -/
def short? (name : Char) : Option Name :=
  match name with
  | 'l' => some (.flag .list)
  | 'h' => some (.flag .help)
  | 'V' => some (.flag .version)
  | 'c' => some (.value .config)
  | 'n' => some (.value .modules)
  | _ => .none

/-- The options read so far. -/
structure Reading where
  options : Options
  /-- An option whose values are being collected, or have just been. -/
  pending : Option (ValueOption × List String)
  /-- Whether the pending option takes more values. -/
  collecting : Bool
  /-- Whether the end of the options was marked. -/
  ended : Bool
  deriving DecidableEq, Repr

/-- Gives an option its values. There has to be at least one. -/
def assign (o : Options) (option : ValueOption) (values : List String) :
    Except UsageError Options :=
  match option, values with
  | _, [] => .error .invalidValue
  | .config, value :: _ =>
    if o.config.isSome then .error .argumentConflict
    else if value.isEmpty then .error .invalidValue
    else .ok { o with config := some value }
  | .modules, values => .ok { o with modules := some (o.modules.getD [] ++ values) }

namespace Reading

/-- Gives the pending option its values. -/
def settle (r : Reading) : Except UsageError Reading :=
  match r.pending with
  | .none => .ok r
  | some (option, values) =>
    (r.options.assign option values).map fun options =>
      { r with options, pending := .none, collecting := false }

/-- Takes in an option without values. -/
def setFlag (r : Reading) (flag : Flag) : Except UsageError Reading := do
  let r ← r.settle
  match flag with
  | .dryRun =>
    if r.options.dryRun then throw .argumentConflict
    pure { r with options := { r.options with dryRun := true } }
  | .list =>
    if r.options.list then throw .argumentConflict
    pure { r with options := { r.options with list := true } }
  | .help => throw .helpRequested
  | .version => throw .versionRequested

/-- Takes in an option with a value attached. -/
def attach (r : Reading) (option : ValueOption) (value : String) : Except UsageError Reading := do
  let r ← r.settle
  let options ← r.options.assign option [value]
  pure { r with options }

/-- Starts to collect the values of an option. -/
def collect (r : Reading) (option : ValueOption) : Except UsageError Reading := do
  let r ← r.settle
  pure { r with pending := some (option, []), collecting := true }

/-- Takes in a long option, with what follows an equals sign. -/
def longOption (r : Reading) (name : String) (value : Option String) :
    Except UsageError Reading :=
  match long? name, value with
  | .none, _ => .error .unknownArgument
  | some (.flag _), some _ => .error .tooManyValues
  | some (.flag flag), .none => r.setFlag flag
  | some (.value option), some value => r.attach option value
  | some (.value option), .none => r.collect option

/-- The value that is attached to a short option; an equals sign before it does not count. -/
def attached (rest : List Char) : String :=
  match rest with
  | '=' :: value => String.ofList value
  | value => String.ofList value

/-- Takes in short options joined behind one dash. -/
def shortOptions (r : Reading) : List Char → Except UsageError Reading
  | [] => .ok r
  | c :: rest =>
    match short? c with
    | .none => .error .unknownArgument
    | some (.flag flag) =>
      match r.setFlag flag with
      | .error e => .error e
      | .ok r => shortOptions r rest
    | some (.value option) =>
      if rest.isEmpty then r.collect option else r.attach option (attached rest)

/-- Takes in an argument that is no option. -/
def plainArgument (r : Reading) (argument : String) : Except UsageError Reading :=
  match r.collecting, r.pending with
  | true, some (option, values) =>
    .ok { r with
      pending := some (option, values ++ [argument])
      collecting := option = .modules }
  | _, _ => .error .unknownArgument

/-- Takes in an argument. -/
def step (r : Reading) (argument : String) : Except UsageError Reading :=
  if r.ended then .error .unknownArgument
  else match argument.toList with
    | ['-', '-'] => .ok { r with ended := true }
    | '-' :: '-' :: long =>
      match Text.cut? '=' long with
      | .none => r.longOption (String.ofList long) .none
      | some (name, value) => r.longOption (String.ofList name) (some (String.ofList value))
    | '-' :: c :: short => r.shortOptions (c :: short)
    | _ => r.plainArgument argument

end Reading

/-- Reads the arguments of a command line. Listing and applying modules exclude each other. -/
def parse (arguments : List String) : Except UsageError Options := do
  let reading ← arguments.foldlM Reading.step ⟨none, .none, false, false⟩
  let reading ← reading.settle
  if reading.options.list && reading.options.modules.isSome then throw .argumentConflict
  pure reading.options

end Options

end CameraSetup
