/-! Menus that are spread over pages. When entries and footer fit into the page capacity they make
one page. Otherwise the entries go on pages of equal height, the last one filled up with spacers,
and each page ends with the footer, a spacer and a caption that counts the pages. -/

namespace CameraSetup.Menu

/-- One row of a menu. A row without an action cannot be selected. -/
structure Entry (α : Type) where
  label : String
  action : Option α
  deriving DecidableEq, Repr

namespace Entry

variable {α : Type}

/-- A row that carries out an action. -/
def ofAction (label : String) (action : α) : Entry α := ⟨label, some action⟩

/-- A row that only shows a text. -/
def caption (label : String) : Entry α := ⟨label, none⟩

/-- A row that only separates others. -/
def spacer : Entry α := caption ""

/-- Whether the row can be selected. -/
def isSelectable (e : Entry α) : Bool := e.action.isSome

end Entry

/-- The pages of a menu, each a list of rows. -/
structure Paged (α : Type) where
  pages : List (List (Entry α))
  deriving DecidableEq, Repr

/-- A page has room for too few rows to hold the footer, the caption and an entry. -/
structure NoRoom where
  capacity : Nat
  footer : Nat
  deriving DecidableEq, Repr

/-- How the operator is told. -/
def NoRoom.message (e : NoRoom) : String :=
  s!"Page size {e.capacity} too low to display menu with {e.footer} footer rows"

/-- The direction in which the cursor moves. -/
inductive Direction
  | up
  | down
  deriving DecidableEq, Repr

/-- The rows that the page spacer and the page caption take. -/
def captionRows : Nat := 2

/-- The caption of a page, with an arrow on each side that has another page. -/
def captionText (index count : Nat) : String :=
  let left := if index = 0 then "  " else "<-"
  let right := if index + 1 = count then "  " else "->"
  s!"{left} {index + 1}/{count} {right}"

namespace Paged

variable {α : Type}

/-- The least number of pages of `perPage` rows that hold `entries` rows. -/
def pagesNeeded (entries perPage : Nat) : Nat := (entries + perPage - 1) / perPage

/-- The entries on a page, followed by spacers up to `perPage` rows. -/
def entryRows (entries : List (Entry α)) (perPage index : Nat) : List (Entry α) :=
  List.rightpad perPage .spacer ((entries.drop (index * perPage)).take perPage)

/-- Lays out a menu on pages of at most `capacity` rows. -/
def layOut (entries footer : List (Entry α)) (capacity : Nat) :
    Except NoRoom (Paged α) :=
  if entries.length + footer.length ≤ capacity then .ok ⟨[entries ++ footer]⟩
  else if capacity ≤ footer.length + captionRows then .error ⟨capacity, footer.length⟩
  else
    let perPage := capacity - (footer.length + captionRows)
    let count := pagesNeeded entries.length perPage
    .ok ⟨(List.range count).map fun index =>
      entryRows entries perPage index ++ footer ++ [.spacer, .caption (captionText index count)]⟩

variable (list : Paged α)

/-- The number of pages. -/
def count : Nat := list.pages.length

/-- The rows of a page; a page past the last has none. -/
def page (index : Nat) : List (Entry α) := (list.pages[index]?).getD []

/-- A row of a page. -/
def entry? (page row : Nat) : Option (Entry α) := (list.page page)[row]?

/-- Whether a row can be selected. -/
def isSelectable (page row : Nat) : Bool := (list.entry? page row).any (·.isSelectable)

/-- The topmost row of a page that can be selected. -/
def firstChoice? (page : Nat) : Option Nat :=
  (list.page page).findIdx? (·.isSelectable)

/-- The row `offset` steps away on a page of `height` rows, round the page's ends. -/
def stepFrom (direction : Direction) (height row offset : Nat) : Nat :=
  match direction with
  | .down => (row + offset) % height
  | .up => (row + height - offset % height) % height

/-- The nearest row in a direction that can be selected, the row itself coming last. -/
def nextChoice? (page row : Nat) (direction : Direction) : Option Nat :=
  let height := (list.page page).length
  ((List.range height).map fun k => stepFrom direction height row (k + 1)).find?
    (list.isSelectable page)

end Paged

end CameraSetup.Menu
