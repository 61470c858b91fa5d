import ActionBoard.Action.Outcome
import ActionBoard.Engine.Context

/-!
# Controlling runs

At most one board runs at a time.  What lasts from run to run is the state here: the three flags,
the variables that the last run left, the variables that the next run starts with, and the outcomes
of the latest run as far as they are known.

A variable set between runs, or during one, waits among the seeds until a run begins; the run takes
all of them at once.  The end of a run takes back a pause.  A run that is broken off, from outside
or by a sum that outgrows its word, has no end of its own: only the running flag goes down.
-/

namespace ActionBoard

/-- Why a requested run gives no outcomes. -/
inductive EngineError where
  /-- It could not begin. -/
  | alreadyRunning
  /-- A sum in it outgrew its word.  No caller is told so, for the failure goes through all of
  them. -/
  | overflow
  deriving DecidableEq

def EngineError.message : EngineError → String
  | .alreadyRunning => "a board is already running on this engine"
  | .overflow => "attempt to add with overflow"

/-- What a requested run gives: the outcomes of its actions, if it began and came to its end. -/
abbrev RunResult := Except EngineError (List Outcome)

/-- What is seen of an engine from outside. -/
inductive EngineState where
  | idle
  | running
  | paused
  deriving DecidableEq

/-- The state that outlives runs. -/
structure Control where
  isRunning : Bool := false
  isPaused : Bool := false
  isStopRequested : Bool := false
  /-- What the last finished run left, and what was set since. -/
  vars : Variables := ∅
  /-- What the next run starts with. -/
  seeds : Variables := ∅
  /-- The outcomes of the latest run so far. -/
  results : List Outcome := []

namespace Control

/-! ## Requests -/

def state (c : Control) : EngineState :=
  if !c.isRunning then .idle else if c.isPaused then .paused else .running

def stop (c : Control) : Control :=
  { c with isStopRequested := true }

def pause (c : Control) : Control :=
  { c with isPaused := true }

def resume (c : Control) : Control :=
  { c with isPaused := false }

/-- Whether a run may go on with its next action, be it only to stop. -/
def gateOpen (c : Control) : Bool :=
  !c.isPaused || c.isStopRequested

/-- Sets a variable for the next run. -/
def setVariable (c : Control) (name : String) (value : Value) : Control :=
  { c with vars := c.vars.insert name value, seeds := c.seeds.insert name value }

/-! ## The life of a run -/

/-- The context in which a run of the board begins: the seeds, and over them the seed of this
run. -/
def startingContext (c : Control) (board : Board) (seed : Variables) : Context :=
  let ctx := Context.forBoard board
  ctx.withVariables ((ctx.vars.insertAll c.seeds.toList).insertAll seed.toList)

/-- The state in which a run begins, which forgets an old request to stop. -/
def started (c : Control) : Control :=
  { c with isRunning := true, isStopRequested := false, seeds := ∅, results := [] }

/-- Begins a run, unless there is one. -/
def begin? (c : Control) (board : Board) (seed : Variables) :
    Except EngineError (Control × Context) :=
  if c.isRunning then .error .alreadyRunning
  else .ok (c.started, c.startingContext board seed)

def publish (c : Control) (outcome : Outcome) : Control :=
  { c with results := c.results ++ [outcome] }

/-- The end of a run in a context. -/
def finish (c : Control) (ctx : Context) : Control :=
  { c with
    isRunning := false, isPaused := false
    vars := ctx.vars.insert runningVariable (.bool false) }

/-- A run broken off. -/
def abandon (c : Control) : Control :=
  { c with isRunning := false }

end Control

end ActionBoard
