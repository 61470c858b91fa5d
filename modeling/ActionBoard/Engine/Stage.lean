import ActionBoard.Engine.Control
import ActionBoard.Engine.Run

/-!
# The stage of a run

A stage is what a run acts on: a clock that moves only when everything waits, devices, the control
state of the engine, the registry, and a record of what was done and when.

A run is played on a stage until it has to wait beyond some moment (`Stage.proceedUntil`).  It is
then suspended: what remains of it is a program again, together with the time at which that goes on.
A run whose gate is closed looks at the gate again at every poll; nothing on the stage opens it
before the moment, so the next look that matters is the first one that is not before it.
-/

namespace ActionBoard

/-- An effect, and when it was. -/
structure Event where
  time : Nat
  effect : Effect

/-- What runs act on. -/
structure Stage (σ : Type) where
  /-- Milliseconds since the beginning. -/
  clock : Nat := 0
  devices : σ
  control : Control := {}
  registry : Registry
  /-- What was done, latest first. -/
  events : List Event := []

/-- A program that goes on at some time. -/
structure Suspended (α : Type) where
  wake : Nat
  rest : RunProgram α

/-- How devices answer, and how the engine is set. -/
structure Setting (σ : Type) where
  devices : Devices σ
  settings : EngineSettings

namespace Setting

def callDepthLimit {σ : Type} (setting : Setting σ) : Nat :=
  setting.settings.callDepthLimit.toNat

end Setting

namespace Stage

variable {σ α : Type}

def record (stage : Stage σ) (effect : Effect) : Stage σ :=
  { stage with events := ⟨stage.clock, effect⟩ :: stage.events }

def withControl (stage : Stage σ) (control : Control) : Stage σ :=
  { stage with control }

/-- The stage at a later time. -/
def atTime (stage : Stage σ) (clock : Nat) : Stage σ :=
  { stage with clock }

/-- The effects so far in their order, and the stage without a record of them. -/
def drainEvents (stage : Stage σ) : List Event × Stage σ :=
  (stage.events.reverse, { stage with events := [] })

/-- The answer of the devices, recorded. -/
def call (devices : Devices σ) (c : DeviceCall) (stage : Stage σ) : c.Result × Stage σ :=
  let (answer, state) := devices c stage.devices
  (answer, { stage.record (.device c) with devices := state })

/-- The answer to a request.  Only the clock has to be watched for waits and gates; otherwise an
answer takes no time. -/
def answer (devices : Devices σ) : (request : RunRequest) → Stage σ → request.Answer × Stage σ
  | .effect (.device c), stage => stage.call devices c
  | .effect (.log level message), stage => ((), stage.record (.log level message))
  | .effect (.wait duration), stage => ((), stage.atTime (stage.clock + duration))
  | .effect .overflow, stage => ((), stage)
  | .handlerFor kind, stage => (stage.registry.handler? kind, stage)
  | .stopRequested, stage => (stage.control.isStopRequested, stage)
  | .gate, stage => ((), stage)
  | .publish outcome, stage => ((), stage.withControl (stage.control.publish outcome))

/-- When a gate that is closed now, and is looked at again at every poll, is looked at for the first
time at the moment or after it. -/
def nextLook (poll clock moment : Nat) : Nat :=
  clock + (moment - clock + (poll - 1)) / poll * poll

/-- Plays a program on the stage until it ends or would go on at the moment or after it. -/
def proceedUntil (setting : Setting σ) (moment : Nat) :
    RunProgram α → Stage σ → (α ⊕ Suspended α) × Stage σ
  | .done result, stage => (.inl result, stage)
  | .ask (.effect (.wait duration)) rest, stage =>
    let wake := stage.clock + duration
    if wake < moment then proceedUntil setting moment (rest ()) (stage.atTime wake)
    else (.inr ⟨wake, rest ()⟩, stage)
  | .ask .gate rest, stage =>
    if stage.control.gateOpen then proceedUntil setting moment (rest ()) stage
    else
      let wake := nextLook setting.settings.pausePoll.toNat stage.clock moment
      (.inr ⟨wake, .ask .gate rest⟩, stage)
  | .ask request rest, stage =>
    let (answer, stage) := stage.answer setting.devices request
    proceedUntil setting moment (rest answer) stage

/-- Plays a program to its end.  It has none if it comes to the closed gate: nobody is
left to open it. -/
def complete (setting : Setting σ) : RunProgram α → Stage σ → Option α × Stage σ
  | .done result, stage => (some result, stage)
  | .ask .gate rest, stage =>
    if stage.control.gateOpen then complete setting (rest ()) stage else (none, stage)
  | .ask request rest, stage =>
    let (answer, stage) := stage.answer setting.devices request
    complete setting (rest answer) stage

end Stage

end ActionBoard
