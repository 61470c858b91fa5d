import ActionBoard.Action.Basic
import ActionBoard.Time

/-!
# Rows and boards

A board is a list of rows and a row a list of actions, both in the order in which they run.  Rows
and actions are switched off one by one.  A disabled row hides its actions whatever their own switch
says, and a subroutine row is never run on its own, only where an action calls it; what is left is
the list of actions that a run goes through (`Board.flattened`).

Identifiers need not be unique.  Wherever a row or an action is named, the first one with that
identifier is meant.
-/

namespace ActionBoard

/-- A named sequence of actions. -/
structure Row where
  id : String
  name : String
  enabled : Bool
  /-- Run only when called. -/
  subroutine : Bool
  actions : List Action

namespace Row

/-- An enabled row without actions. -/
def new (id name : String) : Row :=
  { id, name, enabled := true, subroutine := false, actions := [] }

def asSubroutine (row : Row) : Row :=
  { row with subroutine := true }

def addAction (row : Row) (a : Action) : Row :=
  { row with actions := row.actions ++ [a] }

/-- The row without the first action of that identifier, if it has one. -/
def removeAction? (row : Row) (actionId : String) : Option Row :=
  if row.actions.any (·.id == actionId) then
    some { row with actions := row.actions.eraseP (·.id == actionId) }
  else
    none

/-- The actions that are switched on, whether or not the row itself is. -/
def enabledActions (row : Row) : List Action :=
  row.actions.filter (·.enabled)

end Row

/-- An ordered collection of rows. -/
structure Board where
  id : String
  name : String
  rows : List Row
  createdAt : UtcTime
  modifiedAt : UtcTime

namespace Board

/-- A board without rows, made at a time. -/
def new (id name : String) (now : UtcTime) : Board :=
  { id, name, rows := [], createdAt := now, modifiedAt := now }

/-- The board with its modification recorded. -/
def touch (board : Board) (now : UtcTime) : Board :=
  { board with modifiedAt := now }

def addRow (board : Board) (row : Row) (now : UtcTime) : Board :=
  { board with rows := board.rows ++ [row], modifiedAt := now }

/-- The board without the first row of that identifier, if it has one. -/
def removeRow? (board : Board) (rowId : String) (now : UtcTime) : Option Board :=
  if board.rows.any (·.id == rowId) then
    some { board with rows := board.rows.eraseP (·.id == rowId), modifiedAt := now }
  else
    none

/-- The first row of that identifier. -/
def row? (board : Board) (rowId : String) : Option Row :=
  board.rows.find? (·.id == rowId)

/-- The rows with the first one of that identifier changed. -/
def modifyFirst (rowId : String) (change : Row → Row) : List Row → List Row
  | [] => []
  | row :: rows => if row.id == rowId then change row :: rows
      else row :: modifyFirst rowId change rows

/-- The board with the first row of that identifier changed. -/
def modifyRow (board : Board) (rowId : String) (change : Row → Row) : Board :=
  { board with rows := modifyFirst rowId change board.rows }

/-- The rows that a run goes through. -/
def runningRows (board : Board) : List Row :=
  board.rows.filter fun row => row.enabled && !row.subroutine

/-- The actions that a run goes through: those enabled in enabled rows that are no subroutines. -/
def flattened (board : Board) : List Action :=
  board.runningRows.flatMap Row.enabledActions

/-- How many actions there are, disabled ones included. -/
def actionCount (board : Board) : Nat :=
  (board.rows.flatMap (·.actions)).length

theorem mem_flattened {board : Board} {a : Action} :
    a ∈ board.flattened ↔
      ∃ row ∈ board.rows, row.enabled = true ∧ row.subroutine = false ∧ a ∈ row.actions
        ∧ a.enabled = true := by
  simp only [flattened, runningRows, Row.enabledActions, List.mem_flatMap, List.mem_filter,
    Bool.and_eq_true, Bool.not_eq_true']
  exact ⟨fun ⟨row, ⟨inBoard, on, sub⟩, inRow, enabled⟩ => ⟨row, inBoard, on, sub, inRow, enabled⟩,
    fun ⟨row, inBoard, on, sub, inRow, enabled⟩ => ⟨row, ⟨inBoard, on, sub⟩, inRow, enabled⟩⟩

end Board

end ActionBoard
