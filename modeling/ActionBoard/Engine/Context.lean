import ActionBoard.Board.Basic
import ActionBoard.Json.Printer
import ActionBoard.Text.Numeral

/-!
# The context of a run

Every run has one context.  It holds the variables that all its actions share, the board for the
look-up of rows, and how many calls of rows are open.

Handlers ask the engine for two things through variables with reserved names: to skip some of the
following actions, and to break off the run.  Both are ordinary variables, so a seed or an action
may set them too; they are therefore read with tolerance.  The count of skips is a number of 64
bits, so there may be no room in it for one more (`Variables.skipsAreFull`).
-/

namespace ActionBoard

/-- The variables that the actions of a run share. -/
abbrev Variables := Dictionary Value

/-! ## Reserved variables -/

/-- The number of actions still to be skipped. -/
def skipVariable : String := "_skip_next_count"

/-- Whether the run is to be broken off. -/
def breakVariable : String := "_break_execution"

/-- Whether the run is still going on. -/
def runningVariable : String := "_running"

/-- The identifier of the board that runs. -/
def boardVariable : String := "_board"

/-- The number of skips that a value stands for: a number of 64 bits without sign, or
the text of one. -/
def skipCountOf (v : Value) : Option UInt64 :=
  match v.json with
  | .number (.int n) => if 0 ≤ n.val then some (UInt64.ofNat n.val.toNat) else none
  | .string s => Text.word64Of? (Text.trim s.toList)
  | _ => none

/-- Whether a value asks for a break: truth, a text that is not empty, or anything else but null. -/
def asksForBreak (v : Value) : Bool :=
  match v.json with
  | .bool b => b
  | .null => false
  | .string s => !s.isEmpty
  | _ => true

namespace Variables

/-- The number of actions still to be skipped; none, if it cannot be read. -/
def skipCount (vars : Variables) : UInt64 :=
  ((vars.find? skipVariable).bind skipCountOf).getD 0

/-- Whether the count is at its end, so that one more request overflows it. -/
def skipsAreFull (vars : Variables) : Bool :=
  vars.skipCount.toNat + 1 == UInt64.size

/-- Asks for one more action to be skipped.  The sum is one of words: from its end the count would
go round to its beginning, where nobody checks for that. -/
def requestSkip (vars : Variables) : Variables :=
  vars.insert skipVariable (.word (vars.skipCount + 1))

/-- With one request for a skip less, if there is one. -/
def takeSkip? (vars : Variables) : Option Variables :=
  let count := vars.skipCount
  if count = 0 then none else some (vars.insert skipVariable (.word (count - 1)))

theorem takeSkip?_eq_none {vars : Variables} : vars.takeSkip? = none ↔ vars.skipCount = 0 := by
  show (if vars.skipCount = 0 then none else some _) = none ↔ _
  by_cases h : vars.skipCount = 0 <;> simp [h]

/-- Asks for the run to be broken off. -/
def requestBreak (vars : Variables) : Variables :=
  vars.insert breakVariable (.bool true)

def breakRequested (vars : Variables) : Bool :=
  (vars.find? breakVariable).any asksForBreak

/-- Whether the run is going on, as it is unless a variable says otherwise. -/
def isRunning (vars : Variables) : Bool :=
  match (vars.find? runningVariable).map Value.json with
  | some (.bool b) => b
  | _ => true

end Variables

/-! ## Contexts -/

/-- The state that a run hands from action to action. -/
structure Context where
  vars : Variables := ∅
  board : Option Board := none
  /-- Whether an action has been dispatched in this context. -/
  dispatched : Bool := false
  /-- How many calls of rows are open. -/
  callDepth : Nat := 0

namespace Context

/-- The context in which a board begins to run. -/
def forBoard (board : Board) : Context :=
  { vars :=
      (Dictionary.empty.insert boardVariable (.string board.id)).insert runningVariable (.bool true)
    board := some board }

def setVariable (ctx : Context) (name : String) (value : Value) : Context :=
  { ctx with vars := ctx.vars.insert name value }

def withVariables (ctx : Context) (vars : Variables) : Context :=
  { ctx with vars }

def markDispatched (ctx : Context) : Context :=
  { ctx with dispatched := true }

/-- With one more call of a row open. -/
def enterCall (ctx : Context) : Context :=
  { ctx with callDepth := ctx.callDepth + 1 }

/-- With one call of a row less open. -/
def exitCall (ctx : Context) : Context :=
  { ctx with callDepth := ctx.callDepth - 1 }

end Context

end ActionBoard
