import CameraSetup.Text.Blank
import CameraSetup.Text.Cut

/-! The boot configuration, edited by lines. A line counts by its first word, its keyword; a line
whose first word starts with `#` is a comment and has none. The `FDT` line names the base device
tree, the `OVERLAYS` line lists the overlays. An `FDT` line is added after the primary kernel entry
when there is none, an `OVERLAYS` line after the first `FDT` line, and then every `OVERLAYS` line
gets the list. -/

namespace CameraSetup

/-- The lines of a boot configuration, and whether its text ends in a line feed. -/
structure BootConfig where
  lines : List String
  endsInNewline : Bool
  deriving DecidableEq, Repr

/-- Why a line cannot be added: there is no line to put it after. -/
inductive AnchorError
  | noPrimaryEntry
  | noDeviceTreeLine
  deriving DecidableEq, Repr

namespace BootConfig

/-- The label of the primary kernel entry. -/
def primaryLabel : String := "MENU LABEL primary kernel"

/-- The keyword of a line that names the base device tree. -/
def baseKeyword : String := "FDT"

/-- The keyword of a line that lists overlays. -/
def overlaysKeyword : String := "OVERLAYS"

/-- The lines after the label that belong to the primary kernel entry. -/
def primaryTail : Nat := 2

/-- The indentation of added lines. -/
def addedIndent : String := "      "

end BootConfig

/-- How the operator is told. -/
def AnchorError.message : AnchorError → String
  | .noPrimaryEntry => s!"no \"{BootConfig.primaryLabel}\" entry to add the FDT line to"
  | .noDeviceTreeLine => "no FDT entry to add the OVERLAYS line to"

namespace BootConfig

/-- The configuration that a text holds. -/
def parse (text : String) : BootConfig where
  lines := (Text.lines text.toList).map String.ofList
  endsInNewline := text.toList.getLast? == some '\n'

/-- The text of a configuration. One without lines is empty. -/
def render (config : BootConfig) : String :=
  String.intercalate "\n" config.lines
    ++ (if config.endsInNewline && !config.lines.isEmpty then "\n" else "")

/-- Whether a line's first word is a keyword; a comment has none. -/
def hasKeyword (keyword line : String) : Bool :=
  match Text.firstWord line.toList with
  | [] => false
  | c :: word => c != '#' && c :: word == keyword.toList

/-- Whether a line holds the label of the primary kernel entry. -/
def isPrimaryLabel (line : String) : Bool :=
  Text.occursIn primaryLabel.toList line.toList

variable (config : BootConfig)

/-- Whether a line has the keyword. -/
def mentions (keyword : String) : Bool := config.lines.any (hasKeyword keyword)

/-- The configuration with a line put in at a position, or at the end when that is beyond it. -/
def withLineAt (position : Nat) (line : String) : BootConfig :=
  { config with lines := config.lines.insertIdx (min position config.lines.length) line }

/-- The line that names the base device tree. -/
def deviceTreeLine (path : String) : String := s!"{addedIndent}{baseKeyword} {path}"

/-- Adds an `FDT` line for the base device tree after the primary kernel entry, unless there is
one. Also says whether it did. -/
def withBaseLine (path : String) : Except AnchorError (BootConfig × Bool) :=
  if config.mentions baseKeyword then .ok (config, false)
  else match config.lines.findIdx? isPrimaryLabel with
    | none => .error .noPrimaryEntry
    | some label => .ok (config.withLineAt (label + primaryTail + 1) (deviceTreeLine path), true)

/-- Adds an empty `OVERLAYS` line after the first `FDT` line, unless there is one. Also says whether
it did. -/
def withOverlayLine : Except AnchorError (BootConfig × Bool) :=
  if config.mentions overlaysKeyword then .ok (config, false)
  else match config.lines.findIdx? (hasKeyword baseKeyword) with
    | none => .error .noDeviceTreeLine
    | some base => .ok (config.withLineAt (base + 1) (addedIndent ++ overlaysKeyword), true)

/-- An `OVERLAYS` line that lists the paths, with the indentation of `line`. -/
def overlaysLine (paths : List String) (line : String) : String :=
  String.ofList (Text.indentation line.toList)
    ++ overlaysKeyword ++ " " ++ String.intercalate "," paths

/-- Gives every `OVERLAYS` line the list of paths. -/
def withOverlays (paths : List String) : BootConfig :=
  { config with
    lines := config.lines.map fun line =>
      if hasKeyword overlaysKeyword line then overlaysLine paths line else line }

/-- The number of `OVERLAYS` lines. -/
def overlayLineCount : Nat := config.lines.countP (hasKeyword overlaysKeyword)

/-- Why a text cannot be edited: the base device tree is needed and not known, or a line has no
place. -/
inductive EditError (ε : Type)
  | base (cause : ε)
  | anchor (cause : AnchorError)
  deriving DecidableEq, Repr

/-- Whether an edit needs the base device tree. -/
def needsBase : Bool := !config.mentions baseKeyword

/-- The text with its `OVERLAYS` lines set to the paths. `base` is the path of the base device tree;
it only matters when the text names none. -/
def edit {ε : Type} (base : Except ε String) (paths : List String) (text : String) :
    Except (EditError ε) String := do
  let config := parse text
  let based ←
    if config.needsBase then
      match base with
      | .error cause => throw (.base cause)
      | .ok path => (config.withBaseLine path).mapError .anchor
    else pure (config, false)
  let (complete, _) ← based.1.withOverlayLine.mapError .anchor
  pure (complete.withOverlays paths).render

end BootConfig

end CameraSetup
