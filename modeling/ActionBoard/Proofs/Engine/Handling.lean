import ActionBoard.Proofs.Engine.Inlining

/-!
# Handlers on a stage

A dispatch to a standard handler that calls no row is the program of this handler, played on
the stage.  Here is how such a program is gone through step by step, with the answers of the
devices as they come.

* `Stage.play_bind_of_ok`, `Stage.play_bind_of_error`: the next step, or none.
* `Stage.play_device`: a step that calls a device.
* `Stage.handle`, `run_dispatch_of_handler?`: what the dispatch comes to, and
  `run_execute_of_simple` the execution of an action without delays.
* `Stage.handle_device`, `Stage.success_handle_device`: what is left behind by a handler that makes
  one call and nothing else, and when it succeeds.
-/

namespace ActionBoard

variable {σ α β : Type} {devices : Devices σ}

/-! ## Steps -/

namespace Stage

variable {program : Handling α} {next : α → Handling β} {vars after : Variables}
  {stage stage' : Stage σ}

/-- A program that ends well is followed by the next one. -/
theorem play_bind_of_ok {a : α}
    (h : play devices (program.run vars) stage = ((.ok a, after), stage')) :
    play devices ((program >>= next).run vars) stage =
      play devices ((next a).run after) stage' := by
  show play devices ((program.run vars).bind _) stage = _
  rw [play_bind, h]

/-- An error is the end. -/
theorem play_bind_of_error {e : HandlerError}
    (h : play devices (program.run vars) stage = ((.error e, after), stage')) :
    play devices ((program >>= next).run vars) stage = ((.error e, after), stage') := by
  show play devices ((program.run vars).bind _) stage = _
  rw [play_bind, h]
  rfl

/-- A device answers, or its failure is the error of the program. -/
theorem play_device (devices : Devices σ) (call : DeviceCall) (vars : Variables) (stage : Stage σ) :
    play devices ((Handling.device call).run vars) stage =
      (((stage.call devices call).1.mapError HandlerError.port, vars),
        (stage.call devices call).2) := by
  show play devices (.ask (.device call) _) stage = _
  rw [play_ask]
  show play devices _ (stage.call devices call).2 = _
  cases h : (stage.call devices call).1 with
  | error e => simp [answer, h, Except.mapError]
  | ok result => simp [answer, h, Except.mapError]

end Stage

/-! ## Dispatches -/

/-- The program of a handler executed on a stage. -/
def Stage.handle (devices : Devices σ) (program : Handling Outcome) (a : Action) (ctx : Context)
    (stage : Stage σ) : (Outcome × Context) × Stage σ :=
  let played := play devices (program.run ctx.vars) stage
  ((outcomeOf a played.1.1, ctx.markDispatched.withVariables played.1.2), played.2)

/-- What calls a device first and does nothing afterwards leaves behind what the call does. -/
theorem Stage.handle_device (devices : Devices σ) (call : DeviceCall)
    {next : call.Answer → Handling Outcome}
    (hnext : ∀ answer vars, ∃ ending, (next answer).run vars = .done ending) (a : Action)
    (ctx : Context) (stage : Stage σ) :
    (stage.handle devices (Handling.device call >>= next) a ctx).2 =
      (stage.call devices call).2 := by
  have hdevice := play_device devices call ctx.vars stage
  cases hcalled : (stage.call devices call).1 with
  | error e =>
    rw [hcalled] at hdevice
    rw [handle, play_bind_of_error hdevice]
  | ok answer =>
    rw [hcalled] at hdevice
    obtain ⟨ending, hending⟩ := hnext answer ctx.vars
    rw [handle, play_bind_of_ok hdevice, hending, play_done]

/-- What calls a device and then has an outcome succeeds if the device does. -/
theorem Stage.success_handle_device (devices : Devices σ) (call : DeviceCall) {outcome : Outcome}
    (hsuccess : outcome.success = true) (a : Action) (ctx : Context) (stage : Stage σ) :
    (stage.handle devices (Handling.device call >>= fun _ => pure outcome) a ctx).1.1.success =
      (stage.call devices call).1.isOk := by
  have hdevice := play_device devices call ctx.vars stage
  cases hcalled : (stage.call devices call).1 with
  | error e =>
    rw [hcalled] at hdevice
    rw [handle, play_bind_of_error hdevice]
    rfl
  | ok answer =>
    rw [hcalled] at hdevice
    rw [handle, play_bind_of_ok hdevice]
    exact hsuccess

/-- Dispatching an action is executing the program of the handler that its kind has. -/
theorem run_dispatch_of_handler? {a : Action} {ctx : Context} {stage : Stage σ}
    {execute : Action → Handling Outcome}
    (h : stage.registry.handler? a.kind = some (.simple execute)) (limit : Nat) :
    (dispatch limit a ctx).run (Stage.answer devices) stage = stage.handle devices
      (execute a) a ctx := by
  have hanswer : Stage.answer devices (.handlerFor a.kind) stage =
      (some (.simple execute), stage) := by
    show (stage.registry.handler? a.kind, stage) = _
    rw [h]
  obtain ⟨call, hcall⟩ := exists_dispatchWithin_eq limit (limit - ctx.callDepth)
  rw [dispatch, hcall, dispatchBy_eq_ask, Dialogue.run_ask, hanswer]
  show (handleBy call (.simple execute) a ctx.markDispatched).run (Stage.answer devices) stage = _
  rw [Handler.simple, handleBy, runHandling, Dialogue.bind_eq, Dialogue.run_bind]
  rfl

/-- On a stage with the standard registry this is the standard handler. -/
theorem run_dispatch_of_simple {enumeration : Enumeration} {ports : PortSet}
    {settings : EngineSettings}
    {a : Action} {ctx : Context} {stage : Stage σ} {execute : Action → Handling Outcome}
    (hregistry : stage.registry = .standard enumeration ports settings)
    (h : Handler.standard enumeration ports settings a.kind = .simple execute) (limit : Nat) :
    (dispatch limit a ctx).run (Stage.answer devices) stage = stage.handle devices
      (execute a) a ctx := by
  refine run_dispatch_of_handler? ?_ limit
  rw [hregistry]
  exact congrArg some h

/-- Without delays that is all there is to it. -/
theorem run_execute_of_simple {enumeration : Enumeration} {ports : PortSet}
    {settings : EngineSettings}
    {a : Action} {ctx : Context} {stage : Stage σ} {execute : Action → Handling Outcome}
    (hprompt : a.IsPrompt) (hregistry : stage.registry = .standard enumeration ports settings)
    (h : Handler.standard enumeration ports settings a.kind = .simple execute) (limit : Nat) :
    (ActionBoard.execute limit a ctx).run (Stage.answer devices) stage = stage.handle devices
      (execute a) a ctx :=
  (run_execute_of_isPrompt hprompt limit ctx stage).trans (run_dispatch_of_simple hregistry h limit)

end ActionBoard
