import ActionBoard.Engine.Stage

/-!
# Sessions

A session is an engine in use.  One run may go on in the background while the session does other
things; time passes for both together.  Requests to stop, pause or resume reach a background run
between two of its waits.

Where the session itself has to wait, the background run goes on up to that time and no further
(`Session.elapse`).  Of two that would go on at the same time the session comes first.

A background run is known to the session by its task, through which it can be joined or aborted.
Starting another one gives the task away: the earlier run goes on but cannot be joined any more.

Arithmetic is checked in all that a session plays.
-/

namespace ActionBoard

/-- The run that was started last. -/
inductive Task where
  | none
  | active
  | done (result : RunResult)

/-- The task when the background run ends with a result. -/
def Task.settle (result : RunResult) : Task → Task
  | active => done result
  | task => task

/-- How a run has ended: with outcomes and its last context, unless a sum in it has
outgrown its word. -/
abbrev RunCompletion := Completion (List Outcome × Context)

/-- An engine in use, with the run in its background and a context that belongs to no run. -/
structure Session (σ : Type) where
  stage : Stage σ
  background : Option (Suspended RunCompletion) := none
  task : Task := .none
  context : Context := {}

namespace Session

variable {σ α : Type}

def control (s : Session σ) : Control :=
  s.stage.control

def withStage (s : Session σ) (stage : Stage σ) : Session σ :=
  { s with stage }

/-- A request to the engine that takes no time. -/
def request (s : Session σ) (change : Control → Control) : Session σ :=
  s.withStage (s.stage.withControl (change s.control))

def register (s : Session σ) (kind : ActionKind) (handler : Handler) : Session σ :=
  s.withStage { s.stage with registry := s.stage.registry.register kind handler }

def withContext (s : Session σ) (context : Context) : Session σ :=
  { s with context }

/-! ## Time -/

/-- What a run gives that has ended on the stage, and the stage after its end. -/
def endRun (stage : Stage σ) : RunCompletion → RunResult × Stage σ
  | .result (outcomes, ctx) => (.ok outcomes, stage.withControl (stage.control.finish ctx))
  | .overflow => (.error .overflow, stage.withControl stage.control.abandon)

/-- With the background run played until a moment. -/
def advance (setting : Setting σ) (s : Session σ) (moment : Nat) : Session σ :=
  match s.background with
  | none => s
  | some suspended =>
    if suspended.wake < moment then
      match (s.stage.atTime suspended.wake).proceedUntil setting moment suspended.rest with
      | (.inl completion, stage) =>
        let (result, stage) := endRun stage completion
        { s with stage, background := none, task := s.task.settle result }
      | (.inr later, stage) => { s with stage, background := some later }
    else
      s

/-- Waits for some milliseconds. -/
def elapse (setting : Setting σ) (s : Session σ) (duration : Nat) : Session σ :=
  let moment := s.stage.clock + duration
  let s := s.advance setting moment
  s.withStage (s.stage.atTime moment)

/-- Plays a program in the foreground to its end, if it has one. -/
def perform (setting : Setting σ) : RunProgram α → Session σ → Option α × Session σ
  | .done result, s => (some result, s)
  | .ask (.effect (.wait duration)) rest, s => perform setting (rest ()) (s.elapse setting duration)
  | .ask .gate rest, s =>
    if s.control.gateOpen then perform setting (rest ()) s else (none, s)
  | .ask request rest, s =>
    let (answer, stage) := s.stage.answer setting.devices request
    perform setting (rest answer) (s.withStage stage)

/-! ## Runs -/

/-- Begins a run, if none is under way: its program, and the session in which it goes on. -/
def begin? (setting : Setting σ) (s : Session σ) (board : Board) (seed : Variables) :
    Except EngineError (RunProgram RunCompletion × Session σ) := do
  let (control, ctx) ← s.control.begin? board seed
  return (.checked (runBoard setting.callDepthLimit board ctx),
    s.withStage (s.stage.withControl control))

theorem begin?_eq (setting : Setting σ) {s : Session σ} (board : Board) (seed : Variables)
    (h : s.control.isRunning = false) :
    s.begin? setting board seed =
      .ok (.checked (runBoard setting.callDepthLimit board (s.control.startingContext board seed)),
        s.withStage (s.stage.withControl s.control.started)) := by
  simp only [begin?, Control.begin?, h, Bool.false_eq_true, if_false]
  rfl

/-- Runs a board to its end.  A run that is paused from its beginning has none. -/
def run (setting : Setting σ) (s : Session σ) (board : Board) (seed : Variables) :
    Option RunResult × Session σ :=
  match s.begin? setting board seed with
  | .error e => (some (.error e), s)
  | .ok (program, s) =>
    match s.perform setting program with
    | (some completion, s) =>
      let (result, stage) := endRun s.stage completion
      (some result, s.withStage stage)
    | (none, s) => (none, s)

/-- Starts the run of a board in the background. -/
def start (setting : Setting σ) (s : Session σ) (board : Board) (seed : Variables) : Session σ :=
  match s.begin? setting board seed with
  | .error e => { s with task := .done (.error e) }
  | .ok (program, s) =>
    { s with background := some ⟨s.stage.clock, program⟩, task := .active }

/-- Waits for the started run to end, and gives what it gave. -/
def join (setting : Setting σ) (s : Session σ) : Option RunResult × Session σ :=
  match s.task, s.background with
  | .done result, _ => (some result, { s with task := .none })
  | .active, some suspended =>
    match (s.stage.atTime (max suspended.wake s.stage.clock)).complete setting suspended.rest with
    | (some completion, stage) =>
      let (result, stage) := endRun stage completion
      (some result, { s with stage, background := none, task := .none })
    | (none, stage) => (none, { s with stage })
  | _, _ => (none, { s with task := .none })

/-- Drops the started run at the point where it waits. -/
def abort (s : Session σ) : Session σ :=
  match s.task with
  | .active => { s.request Control.abandon with background := none, task := .none }
  | _ => { s with task := .none }

/-! ## Single actions -/

/-- Plays a program in the context of the session. -/
def inContext (setting : Setting σ) (s : Session σ)
    (program : Context → RunProgram (Outcome × Context)) :
    Option (Completion Outcome) × Session σ :=
  match s.perform setting (program s.context).checked with
  | (some (.result (outcome, ctx)), s) => (some (.result outcome), s.withContext ctx)
  | (some .overflow, s) => (some .overflow, s)
  | (none, s) => (none, s)

/-- Executes an action with its delays in the context of the session. -/
def execute (setting : Setting σ) (s : Session σ) (a : Action) :
    Option (Completion Outcome) × Session σ :=
  s.inContext setting (ActionBoard.execute setting.callDepthLimit a)

/-- Dispatches an action in the context of the session. -/
def dispatch (setting : Setting σ) (s : Session σ) (a : Action) :
    Option (Completion Outcome) × Session σ :=
  s.inContext setting (ActionBoard.dispatch setting.callDepthLimit a)

/-- The engine on one line, for diagnosis. -/
def describe (s : Session σ) : String :=
  let state := match s.control.state with
    | .idle => "Idle"
    | .running => "Running"
    | .paused => "Paused"
  "ExecutionEngine \x7b state: " ++ state ++ ", registry: " ++ s.stage.registry.describe ++ " \x7d"

end Session

end ActionBoard
