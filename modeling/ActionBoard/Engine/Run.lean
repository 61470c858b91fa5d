import ActionBoard.Engine.Registry

/-!
# Running a board

A run goes through the flattened actions of its board one after the other.  Before each of them it
looks, in this order, whether a stop was requested, whether a break was, whether the action is to be
skipped, and whether the run is paused; nothing else interrupts it.  An action that is under way,
with its delays and everything that it dispatches, is always finished first.

A run is a program, and what it depends on are its questions: the effects of handlers, the handler
of a kind, the stop flag, the gate that is closed while the run is paused.  Outcomes are published
one by one as they come.  So a run can be suspended at any of its waits, and nothing about its
surroundings is fixed.

The order of things and what is done in each of them are kept apart.  The course of a run
(`Course.through`) decides which actions are performed; performing one is a question to it, whose
answer may be anything.  The run itself is the course in which that question is replaced by the
execution of the action.

An action may call another row of the board.  Rows may call themselves, so the depth of calls is
bounded; that bound is what the recursion in `dispatchWithin` is on, and every run ends if its
questions are answered.

A sum that outgrows its word is a question like the others, and to leave it unanswered is to check
arithmetic.  A program with that check (`RunProgram.checked`) ends where it would ask such a
question, in the middle of whatever it was doing.
-/

namespace ActionBoard

/-! ## The questions of a run -/

/-- What a run needs from outside. -/
inductive RunRequest where
  | effect (e : Effect)
  /-- The handler that a kind has now. -/
  | handlerFor (kind : ActionKind)
  | stopRequested
  /-- Answered as soon as the run is not paused, or a stop is requested. -/
  | gate
  | publish (outcome : Outcome)

namespace RunRequest

abbrev Answer : RunRequest → Type
  | effect e => e.Answer
  | handlerFor _ => Option Handler
  | stopRequested => Bool
  | gate => Unit
  | publish _ => Unit

/-- How long the answer takes; the gate does not count. -/
def duration : RunRequest → Nat
  | effect e => e.duration
  | _ => 0

def isOverflow : RunRequest → Bool
  | effect .overflow => true
  | _ => false

end RunRequest

/-- How a program ends where arithmetic is checked. -/
inductive Completion (α : Type) where
  | result (a : α)
  /-- A sum outgrew its word, and nothing came back from that. -/
  | overflow

/-- A run or a part of one. -/
abbrev RunProgram (α : Type) := Dialogue RunRequest.Answer α

namespace RunProgram

variable {α : Type}

/-- The activity of a handler as a part of a run. -/
def ofActivity (activity : Activity α) : RunProgram α :=
  activity.translate RunRequest.effect fun _ answer => answer

def handlerFor (kind : ActionKind) : RunProgram (Option Handler) :=
  .question (RunRequest.handlerFor kind)

def stopRequested : RunProgram Bool :=
  .question RunRequest.stopRequested

def gate : RunProgram Unit :=
  .question RunRequest.gate

def publish (outcome : Outcome) : RunProgram Unit :=
  .question (RunRequest.publish outcome)

/-- Waits, unless there is nothing to wait for. -/
def delay (duration : Nat) : RunProgram Unit :=
  if duration = 0 then .done () else .question (RunRequest.effect (.wait duration))

/-- The program with the time it takes, added to what was spent before. -/
def timedFrom : RunProgram α → Nat → RunProgram (α × Nat)
  | .done result, spent => .done (result, spent)
  | .ask request rest, spent =>
    .ask request fun answer => timedFrom (rest answer) (spent + request.duration)

/-- The program with the time it takes. -/
def timed (program : RunProgram α) : RunProgram (α × Nat) :=
  timedFrom program 0

/-- The program as far as it gets where arithmetic is checked. -/
def checked : RunProgram α → RunProgram (Completion α)
  | .done a => .done (.result a)
  | .ask request rest =>
    if request.isOverflow then .done .overflow
    else .ask request fun answer => checked (rest answer)

end RunProgram

/-! ## Dispatching -/

/-- The outcome of a handler's program; an error becomes a failed outcome. -/
def outcomeOf (a : Action) : Except HandlerError Outcome → Outcome
  | .ok outcome => outcome
  | .error e => .failed a e.message

/-- Executes an action by a program. -/
def runHandling (program : Handling Outcome) (a : Action) (ctx : Context) :
    RunProgram (Outcome × Context) := do
  let (result, vars) ← RunProgram.ofActivity (program.run ctx.vars)
  return (outcomeOf a result, ctx.withVariables vars)

/-- The row that an action calls, or the outcome if it cannot be called. -/
def calledRow (a : Action) (ctx : Context) : Except Outcome Row :=
  let rowId := a.metaTextOr "row_id" ""
  match ctx.board with
  | none => .error (.failed a "board not available for row call")
  | some board =>
    match board.row? rowId with
    | none => .error (.failed a ("row " ++ rowId ++ " not found"))
    | some row =>
      if row.enabled then .ok row else .error (.unmet a ("row " ++ row.name ++ " is disabled"))

/-- Dispatches actions one after the other, each in the context that the one before it left. -/
def dispatchEach (dispatch : Action → Context → RunProgram (Outcome × Context)) :
    List Action → Context → RunProgram (List Outcome × Context)
  | [], ctx => return ([], ctx)
  | a :: rest, ctx => do
    let (outcome, ctx) ← dispatch a ctx
    let (outcomes, ctx) ← dispatchEach dispatch rest ctx
    return (outcome :: outcomes, ctx)

/-- The outcome of the call of a row, from the outcomes of the row's actions. -/
def callOutcome (a : Action) (row : Row) (outcomes : List Outcome) : Outcome :=
  let unsuccessful := outcomes.countP fun outcome => !outcome.success
  .succeeded a
    ("row " ++ row.name ++ " executed (" ++ Text.natText outcomes.length ++ " actions, "
      ++ Text.natText unsuccessful ++ " unsuccessful)")

/-- Calls a row: dispatches its actions while one more call is open. -/
def callRow (dispatch : Action → Context → RunProgram (Outcome × Context)) (a : Action) (row : Row)
    (ctx : Context) : RunProgram (Outcome × Context) := do
  let (outcomes, ctx) ← dispatchEach dispatch row.enabledActions ctx.enterCall
  return (callOutcome a row outcomes, ctx.exitCall)

/-- The outcome of an action whose kind has no handler. -/
def unhandled (a : Action) : Outcome :=
  .failed a ("no handler for kind " ++ a.kind.name)

/-- The outcome of the call of a row when no more calls may be opened. -/
def tooDeep (limit : Nat) (a : Action) : Outcome :=
  .failed a ("call depth exceeded (" ++ Text.natText limit ++ ")")

/-- Lets a handler execute an action, where a row that can be called is called as given. -/
def handleBy (call : Action → Row → Context → RunProgram (Outcome × Context))
    (handler : Handler) (a : Action) (ctx : Context) : RunProgram (Outcome × Context) :=
  match handler with
  | .leaf execute => runHandling (execute a ctx) a ctx
  | .rowCall =>
    match calledRow a ctx with
    | .error outcome => return (outcome, ctx)
    | .ok row => call a row ctx

/-- Dispatches an action to the handler that its kind has now. -/
def dispatchBy (call : Action → Row → Context → RunProgram (Outcome × Context)) (a : Action)
    (ctx : Context) : RunProgram (Outcome × Context) := do
  match ← RunProgram.handlerFor a.kind with
  | none => return (unhandled a, ctx)
  | some handler => handleBy call handler a ctx.markDispatched

/-- Dispatches an action to the handler of its kind, where so many more calls of rows may be opened.
The actions of a called row are dispatched without their delays, and nobody asks for a stop, a
break, a skip or a pause between them. -/
def dispatchWithin (limit : Nat) : Nat → Action → Context → RunProgram (Outcome × Context)
  | 0 => dispatchBy fun a _ ctx => return (tooDeep limit a, ctx)
  | remaining + 1 => dispatchBy (callRow (dispatchWithin limit remaining))

/-- Dispatches an action to the handler of its kind. -/
def dispatch (limit : Nat) (a : Action) (ctx : Context) : RunProgram (Outcome × Context) :=
  dispatchWithin limit (limit - ctx.callDepth) a ctx

/-! ## Executing -/

/-- Executes an action with its delays.  The delay before it is waited in full; the delay after it
only as far as the dispatch did not take that long itself.  A disabled action is not dispatched. -/
def execute (limit : Nat) (a : Action) (ctx : Context) : RunProgram (Outcome × Context) :=
  if a.enabled then do
    RunProgram.delay a.delayBefore.toNat
    let (result, spent) ← RunProgram.timed (dispatch limit a ctx)
    RunProgram.delay (a.delayAfter.toNat - spent)
    return result
  else
    return (.unmet a "disabled", ctx)

/-! ## The course of a run -/

/-- What the course of a run depends on. -/
inductive CourseRequest where
  | stopRequested
  /-- Answered as soon as the run is not paused, or a stop is requested. -/
  | gate
  /-- Performs an action in a context, however long that takes. -/
  | perform (a : Action) (ctx : Context)
  | publish (outcome : Outcome)

abbrev CourseRequest.Answer : CourseRequest → Type
  | stopRequested => Bool
  | gate => Unit
  | perform .. => Outcome × Context
  | publish _ => Unit

/-- Which actions a run performs and in what order, whatever it is to perform one. -/
abbrev Course (α : Type) := Dialogue CourseRequest.Answer α

/-- Goes through actions and gives the outcomes of those that were performed. -/
def Course.through : List Action → Context → Course (List Outcome × Context)
  | [], ctx => return ([], ctx)
  | a :: rest, ctx => do
    if ← Dialogue.question CourseRequest.stopRequested then
      return ([], ctx)
    else if ctx.vars.breakRequested then
      return ([], ctx)
    else
      match ctx.vars.takeSkip? with
      | some vars => Course.through rest (ctx.withVariables vars)
      | none =>
        Dialogue.question CourseRequest.gate
        if ← Dialogue.question CourseRequest.stopRequested then
          return ([], ctx)
        else
          let (outcome, ctx) ← Dialogue.question (CourseRequest.perform a ctx)
          Dialogue.question (CourseRequest.publish outcome)
          let (outcomes, ctx) ← Course.through rest ctx
          return (outcome :: outcomes, ctx)

/-- What a run does about a question of its course: an action is performed by being executed. -/
def RunProgram.ofCourse (limit : Nat) : (request : CourseRequest) → RunProgram request.Answer
  | .stopRequested => RunProgram.stopRequested
  | .gate => RunProgram.gate
  | .perform a ctx => execute limit a ctx
  | .publish outcome => RunProgram.publish outcome

/-- Goes through actions and executes them. -/
def runActions (limit : Nat) (actions : List Action) (ctx : Context) :
    RunProgram (List Outcome × Context) :=
  (Course.through actions ctx).elaborate (RunProgram.ofCourse limit)

/-- The run of a board. -/
def runBoard (limit : Nat) (board : Board) (ctx : Context) : RunProgram (List Outcome × Context) :=
  runActions limit board.flattened ctx

end ActionBoard
