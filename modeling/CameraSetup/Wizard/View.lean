import CameraSetup.Wizard.State

/-! What the wizard shows: the rows of its menu in front, laid out on pages, and the row under the
cursor. -/

namespace CameraSetup.Wizard

open Menu (Entry Paged NoRoom)

/-- One row as it is shown. -/
structure ShownRow where
  label : String
  selectable : Bool
  highlighted : Bool
  deriving DecidableEq, Repr

/-- One page of a menu as it is shown. -/
structure View where
  title : String
  rows : List ShownRow
  status : Option String
  deriving DecidableEq, Repr

/-- The label of the row under the cursor. -/
def View.highlighted? (view : View) : Option String :=
  (view.rows.find? (·.highlighted)).map (·.label)

variable (w : Wizard)

/-- The title of the menu in front. -/
def title : String :=
  match w.place with
  | .topLevel => s!"Select the FPA attached to your {w.topology.connector.productName}:"
  | .portMenu board => s!"Configure camera connector on {board.label}:"
  | .sensorMenu board port => s!"Configure an image sensor on {port} on {board.label}:"
  | .laneMenu board port sensor =>
    s!"Configure number of lanes for {sensor} on {port} on {board.label}:"
  | .linkBoosterMenu board port sensor lanes =>
    s!"Configure GMSL for {laneText lanes} on {sensor} on {port} on {board.label}:"

/-- A board in the top-level menu; the one with pending setups is marked. -/
def boardEntry (board : BoardId) : Entry Action :=
  let modified := w.selection.any fun s => s.board == board
  .ofAction (if modified then s!"{board.label} (modified)" else board.label) (.openBoard board)

/-- A port in the menu of its board, with its pending setup. -/
def portEntry (board : BoardId) (port : String) : Entry Action :=
  let label := match w.pendingSetup? board port with
    | some setup => s!"Re-configure {port}: {setup.label}"
    | none => s!"Configure {port}"
  .ofAction label (.openPort port)

/-- The choices of the menu in front. -/
def entries : List (Entry Action) :=
  match w.place with
  | .topLevel => w.topology.boards.keys.map w.boardEntry
  | .portMenu board => ((w.topology.ports? board).getD []).map (w.portEntry board)
  | .sensorMenu board port =>
    ((w.topology.sensors? board port).getD []).map fun sensor =>
      .ofAction sensor (.openSensor sensor)
  | .laneMenu board port sensor =>
    ((w.topology.lanes? board port sensor).getD []).map fun lanes =>
      .ofAction (laneText lanes) (.openLanes lanes)
  | .linkBoosterMenu board port sensor lanes =>
    ((w.topology.boosters? board port sensor lanes).getD []).map fun option =>
      .ofAction option.label (.choose option)

/-- The rows that save or discard, which the top-level menu has while there is something to
save. -/
def saveEntries : List (Entry Action) :=
  [.ofAction "Save and reboot to apply" .saveAndReboot,
    .ofAction "Save without rebooting" .saveOnly,
    .ofAction "Discard all changes" .discardAll]

/-- Whether there is something to save. -/
def hasPending : Bool := w.selection.any fun s => !s.isEmpty

/-- The rows below the choices, which every page repeats. -/
def footer : List (Entry Action) :=
  match w.place with
  | .topLevel =>
    .spacer :: (if w.hasPending then saveEntries else []) ++ [.ofAction "Exit" .exit]
  | .portMenu _ => [.spacer, .ofAction "Back" .back]
  | _ => [.ofAction "None" .clearPort, .spacer, .ofAction "Back" .back]

/-- The menu in front, laid out on pages. -/
def menu : Except NoRoom (Paged Action) :=
  Paged.layOut w.entries w.footer w.pageCapacity

/-- Where the cursor stands on a laid-out menu: the stored page, or the last when there are fewer,
and the stored row, or the page's first selectable row when that one cannot be selected. -/
def cursor (menu : Paged Action) : Nat × Nat :=
  let page := min w.current.page (menu.count - 1)
  let row :=
    if menu.isSelectable page w.current.row then w.current.row
    else (menu.firstChoice? page).getD 0
  (page, row)

/-- The rows of a page with the cursor on one of them. -/
def shownRows (rows : List (Entry Action)) (cursorRow : Nat) : List ShownRow :=
  rows.mapIdx fun index entry =>
    { label := entry.label
      selectable := entry.isSelectable
      highlighted := index == cursorRow && entry.isSelectable }

/-- What is to be drawn. -/
def view : Except NoRoom View := do
  let menu ← w.menu
  let (page, row) := w.cursor menu
  pure
    { title := w.title
      rows := shownRows (menu.page page) row
      status := w.notice.map (·.text) }

end CameraSetup.Wizard
