import CameraSetup.Settings.Basic
import CameraSetup.SetupError

/-! A scan of the overlay directory: the overlays made for the running board, the connector that
they show it to have, and the descriptors of the overlays for that connector. Files that are no
overlays are passed over. -/

namespace CameraSetup

/-- An overlay file and what it says about itself. -/
structure InstalledOverlay where
  fileName : String
  info : OverlayIdentity
  deriving DecidableEq, Repr

/-- The overlays found in a directory, by file name. -/
structure OverlayScan where
  dir : String
  overlays : List InstalledOverlay
  deriving DecidableEq, Repr

namespace OverlayScan

/-- What the name of an overlay file ends in, after a period. -/
def fileExtension : String := "dtbo"

/-- The compatible strings of the running board; nothing when they cannot be read. -/
def boardStrings? (tree : FileTree) (path : String) : Option (List String) :=
  match tree.read path with
  | .ok octets => some (DeviceTree.stringsIn octets)
  | .error _ => none

/-- Whether an overlay is made for a board; every one is when the board is not known. -/
def suits (board : Option (List String)) (info : OverlayIdentity) : Bool :=
  match board with
  | none => true
  | some strings => info.isMadeFor strings

/-- The overlay in a file of a directory, if there is one and it suits the board. -/
def overlayAt? (tree : FileTree) (dir : String) (board : Option (List String)) (name : String) :
    Option InstalledOverlay :=
  if Path.extension? name = some fileExtension then
    match tree.read (Path.join dir name) with
    | .error _ => none
    | .ok octets =>
      match OverlayIdentity.decode octets with
      | .error _ => none
      | .ok info => if suits board info then some ⟨name, info⟩ else none
  else none

/-- Scans the overlay directory of the settings. -/
def load (tree : FileTree) (settings : Settings) : Except FileError OverlayScan := do
  let names ← tree.list settings.overlayDir
  let board := boardStrings? tree settings.compatibleFile
  pure ⟨settings.overlayDir, names.filterMap (overlayAt? tree settings.overlayDir board)⟩

variable (scan : OverlayScan)

/-- The overlays for a connector. -/
def overlaysFor (connector : Connector) : List InstalledOverlay :=
  scan.overlays.filter fun o => o.info.headerName == some connector.headerName

/-- The first connector that an overlay is made for. -/
def connector? : Option Connector :=
  Connector.all.find? fun c => !(scan.overlaysFor c).isEmpty

/-- The connector of the running board. -/
def connector : Except SetupError Connector :=
  match scan.connector? with
  | none => .error (.unknownConnector scan.dir)
  | some connector => .ok connector

/-- The names of the overlays for the running board's connector. -/
def descriptors : Except SetupError (List String) := do
  let connector ← scan.connector
  pure ((scan.overlaysFor connector).filterMap (·.info.overlayName))

/-- Whether a file of this name is in a directory. -/
def isInstalled (tree : FileTree) (dir name : String) : Bool := tree.isFile (Path.join dir name)

end OverlayScan

end CameraSetup
