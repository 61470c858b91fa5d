import ActionBoard.Engine.Session
import ActionBoard.Proofs.Handler.Invariant

/-!
# Playing runs

A run that nobody disturbs is its program answered by the stage.  Here is what the stage does for
each part of such a run, so that none of it has to be looked up again: what an activity changes,
what executing an action without delays comes to, how a run goes on from action to action, and what
a session makes of all that.

* `Stage.play`: an activity on a stage.  It changes neither registry nor control state, and does not
  look at the latter.
* `run_runActions_cons`: the step of a run.
* `Session.run_eq_endRun`: the run of a board in a session where nothing else goes on;
  `Session.run_eq`: the same without an overflow.
-/

namespace ActionBoard

variable {σ : Type} {α β : Type}

/-! ## Activities on a stage -/

namespace Stage

/-- An activity played on a stage. -/
def play (devices : Devices σ) (activity : Activity α) (stage : Stage σ) : α × Stage σ :=
  (RunProgram.ofActivity activity).run (answer devices) stage

variable {devices : Devices σ}

@[simp] theorem play_done (result : α) (stage : Stage σ) :
    play devices (.done result) stage = (result, stage) := rfl

theorem play_ask (e : Effect) (next : e.Answer → Activity α) (stage : Stage σ) :
    play devices (.ask e next) stage =
      play devices (next (answer devices (.effect e) stage).1)
        (answer devices (.effect e) stage).2 := rfl

/-- One activity after another is played by playing one after another. -/
theorem play_bind (activity : Activity α) (next : α → Activity β) (stage : Stage σ) :
    play devices (activity.bind next) stage =
      play devices (next (play devices activity stage).1) (play devices activity stage).2 := by
  rw [play, RunProgram.ofActivity, Dialogue.translate_bind, Dialogue.run_bind]
  rfl

theorem answer_effect_registry (e : Effect) (stage : Stage σ) :
    (answer devices (.effect e) stage).2.registry = stage.registry := by
  cases e <;> rfl

theorem answer_effect_control (e : Effect) (stage : Stage σ) :
    (answer devices (.effect e) stage).2.control = stage.control := by
  cases e <;> rfl

theorem answer_effect_withControl (e : Effect) (stage : Stage σ) (control : Control) :
    answer devices (.effect e) (stage.withControl control) =
      ((answer devices (.effect e) stage).1,
        (answer devices (.effect e) stage).2.withControl control) := by
  cases e <;> rfl

@[simp] theorem play_registry (activity : Activity α) (stage : Stage σ) :
    (play devices activity stage).2.registry = stage.registry := by
  induction activity generalizing stage with
  | done result => rfl
  | ask e next ih => rw [play_ask, ih, answer_effect_registry]

@[simp] theorem play_control (activity : Activity α) (stage : Stage σ) :
    (play devices activity stage).2.control = stage.control := by
  induction activity generalizing stage with
  | done result => rfl
  | ask e next ih => rw [play_ask, ih, answer_effect_control]

/-- Activities do not look at the control state. -/
theorem play_withControl (activity : Activity α) (stage : Stage σ) (control : Control) :
    play devices activity (stage.withControl control) =
      ((play devices activity stage).1, (play devices activity stage).2.withControl control) := by
  induction activity generalizing stage with
  | done result => rfl
  | ask e next ih => rw [play_ask, answer_effect_withControl, ih, play_ask]

/-- What an activity ensures holds of what it gives on a stage. -/
theorem play_ensures {P : α → Prop} {activity : Activity α} (h : activity.Ensures P)
    (stage : Stage σ) : P (play devices activity stage).1 := by
  induction activity generalizing stage with
  | done result => exact h
  | ask e next ih => exact ih _ (h _) _

end Stage

/-! ## Actions without delays -/

/-- An action that is executed, and at once. -/
structure Action.IsPrompt (a : Action) : Prop where
  enabled : a.enabled = true
  delayBefore : a.delayBefore = 0
  delayAfter : a.delayAfter = 0

section

variable {answer : (q : RunRequest) → σ → q.Answer × σ}

theorem run_timedFrom (program : RunProgram α) (spent : Nat) (s : σ) :
    ∃ time, (program.timedFrom spent).run answer s =
      (((program.run answer s).1, time), (program.run answer s).2) := by
  induction program generalizing spent s with
  | done result => exact ⟨spent, rfl⟩
  | ask request rest ih => exact ih _ _ _

/-- Executing such an action is dispatching it. -/
theorem run_execute_of_isPrompt {a : Action} (h : a.IsPrompt) (limit : Nat)
    (ctx : Context) (s : σ) :
    (execute limit a ctx).run answer s = (dispatch limit a ctx).run answer s := by
  obtain ⟨time, htime⟩ : ∃ time, ((dispatch limit a ctx).timedFrom 0).run answer s = _ :=
    run_timedFrom (dispatch limit a ctx) 0 s
  rw [execute, if_pos h.enabled, h.delayBefore, h.delayAfter]
  simp [RunProgram.delay, RunProgram.timed, Dialogue.run_bind, htime]

theorem overflows_timedFrom {program : RunProgram α} (spent : Nat) (s : σ) :
    RunProgram.Overflows answer (program.timedFrom spent) s ↔
      RunProgram.Overflows answer program s := by
  induction program generalizing spent s with
  | done result => exact Iff.rfl
  | ask request rest ih =>
    rw [RunProgram.timedFrom, RunProgram.overflows_ask, RunProgram.overflows_ask, ih]

theorem not_overflows_delay (duration : Nat) (s : σ) :
    ¬RunProgram.Overflows answer (RunProgram.delay duration) s := by
  rw [RunProgram.delay]
  split
  · exact List.not_mem_nil
  · exact RunProgram.not_overflows_question rfl s

/-- Executing an enabled action is dispatching it between its delays, the second one less what
the dispatch took. -/
theorem execute_of_enabled {a : Action} (henabled : a.enabled = true) (limit : Nat)
    (ctx : Context) :
    execute limit a ctx =
      (RunProgram.delay a.delayBefore.toNat).bind fun _ =>
        ((dispatch limit a ctx).timedFrom 0).bind fun timed =>
          (RunProgram.delay (a.delayAfter.toNat - timed.2)).bind fun _ => .done timed.1 := by
  rw [execute, if_pos henabled]
  rfl

/-- What overflows when an action is executed is its dispatch, and not the delays around it. -/
theorem overflows_execute {a : Action} (h : a.enabled = true) (limit : Nat)
    (ctx : Context) (s : σ) :
    RunProgram.Overflows answer (execute limit a ctx) s ↔
      RunProgram.Overflows answer (dispatch limit a ctx)
        ((RunProgram.delay a.delayBefore.toNat).run answer s).2 := by
  have hbehind : ∀ (timed : (Outcome × Context) × Nat) (s : σ), ¬RunProgram.Overflows answer
      ((RunProgram.delay (a.delayAfter.toNat - timed.2)).bind fun _ => .done timed.1) s :=
    fun timed s => RunProgram.not_overflows_bind (not_overflows_delay _ s) List.not_mem_nil
  rw [execute_of_enabled h, RunProgram.overflows_bind, RunProgram.overflows_bind,
    overflows_timedFrom, or_iff_left (hbehind _ _), or_iff_right (not_overflows_delay _ s)]

theorem run_dispatchEach_cons (dispatch : Action → Context → RunProgram (Outcome × Context))
    (a : Action) (rest : List Action) (ctx : Context) (s : σ) :
    (dispatchEach dispatch (a :: rest) ctx).run answer s =
      let first := (dispatch a ctx).run answer s
      let others := (dispatchEach dispatch rest first.1.2).run answer first.2
      ((first.1.1 :: others.1.1, others.1.2), others.2) := by
  rw [dispatchEach, Dialogue.bind_eq, Dialogue.run_bind]
  show Dialogue.run answer (Dialogue.bind _ _) _ = _
  rw [Dialogue.run_bind]
  rfl

theorem run_callRow (dispatch : Action → Context → RunProgram (Outcome × Context))
    (a : Action) (row : Row) (ctx : Context) (s : σ) :
    (callRow dispatch a row ctx).run answer s =
      let within := (dispatchEach dispatch row.enabledActions ctx.enterCall).run answer s
      ((callOutcome a row within.1.1, within.1.2.exitCall), within.2) := by
  rw [callRow, Dialogue.bind_eq, Dialogue.run_bind]
  rfl

end

/-! ## From action to action -/

@[simp] theorem run_stopRequested (devices : Devices σ) (stage : Stage σ) :
    RunProgram.stopRequested.run (Stage.answer devices) stage =
      (stage.control.isStopRequested, stage) := rfl

@[simp] theorem run_gate (devices : Devices σ) (stage : Stage σ) :
    RunProgram.gate.run (Stage.answer devices) stage = ((), stage) := rfl

@[simp] theorem run_publish (devices : Devices σ) (outcome : Outcome) (stage : Stage σ) :
    (RunProgram.publish outcome).run (Stage.answer devices) stage =
      ((), stage.withControl (stage.control.publish outcome)) := rfl

/-- The step of a run that is not disturbed: the action is dispatched, its outcome published, and
the run goes on. -/
theorem run_runActions_cons {devices : Devices σ} {limit : Nat} {a : Action} {rest : List Action}
    {ctx : Context} {stage : Stage σ} {performed : (Outcome × Context) × Stage σ}
    (ha : a.IsPrompt) (hvars : ctx.vars.IsClear) (hstop : stage.control.isStopRequested = false)
    (hperformed : (dispatch limit a ctx).run (Stage.answer devices) stage = performed) :
    (runActions limit (a :: rest) ctx).run (Stage.answer devices) stage =
      let after := (runActions limit rest performed.1.2).run (Stage.answer devices)
        (performed.2.withControl (performed.2.control.publish performed.1.1))
      ((performed.1.1 :: after.1.1, after.1.2), after.2) := by
  rw [runActions, Course.through, hvars.takeSkip?]
  simp only [hvars.breakRequested, Bool.false_eq_true, if_false, Dialogue.bind_eq, Dialogue.pure_eq,
    Dialogue.elaborate_bind, Dialogue.elaborate_question, Dialogue.run_bind, RunProgram.ofCourse,
    run_stopRequested, run_gate, run_publish, hstop, run_execute_of_isPrompt ha, hperformed]
  rfl

/-- Such a step does not overflow if the dispatch does not. -/
theorem not_overflows_runActions_cons {devices : Devices σ} {limit : Nat} {a : Action}
    {rest : List Action}
    {ctx : Context} {stage : Stage σ} {performed : (Outcome × Context) × Stage σ}
    (ha : a.IsPrompt) (hvars : ctx.vars.IsClear) (hstop : stage.control.isStopRequested = false)
    (hperformed : (dispatch limit a ctx).run (Stage.answer devices) stage = performed)
    (hdispatch : ¬RunProgram.Overflows (Stage.answer devices) (dispatch limit a ctx) stage)
    (hrest : ¬RunProgram.Overflows (Stage.answer devices) (runActions limit rest performed.1.2)
      (performed.2.withControl (performed.2.control.publish performed.1.1))) :
    ¬RunProgram.Overflows (Stage.answer devices) (runActions limit (a :: rest) ctx) stage := by
  have hlook : ¬RunProgram.Overflows (Stage.answer devices) RunProgram.stopRequested stage :=
    RunProgram.not_overflows_question rfl stage
  have hgate : ¬RunProgram.Overflows (Stage.answer devices) RunProgram.gate stage :=
    RunProgram.not_overflows_question rfl stage
  have hpublish : ¬RunProgram.Overflows (Stage.answer devices) (RunProgram.publish performed.1.1)
      performed.2 :=
    RunProgram.not_overflows_question rfl performed.2
  have hexecute : ¬RunProgram.Overflows (Stage.answer devices) (execute limit a ctx) stage := by
    rw [overflows_execute ha.enabled, ha.delayBefore]
    exact hdispatch
  rw [runActions, Course.through, hvars.takeSkip?]
  simp only [hvars.breakRequested, Bool.false_eq_true, if_false, Dialogue.bind_eq, Dialogue.pure_eq,
    Dialogue.elaborate_bind, Dialogue.elaborate_question, RunProgram.ofCourse,
    RunProgram.overflows_bind,
    run_stopRequested, run_gate, run_publish, hstop, run_execute_of_isPrompt ha,
    hperformed, hlook, hgate, hexecute, hpublish, false_or]
  rw [not_or]
  exact ⟨hrest, List.not_mem_nil⟩

/-! ## In a session -/

theorem answer_isPaused (devices : Devices σ) (request : RunRequest) (stage : Stage σ) :
    (Stage.answer devices request stage).2.control.isPaused = stage.control.isPaused := by
  cases request with
  | effect e => rw [Stage.answer_effect_control]
  | _ => rfl

namespace Session

/-- With nothing in the background, and not being paused, a session plays a program on its stage. -/
theorem perform_eq_run (setting : Setting σ) (program : RunProgram α) {s : Session σ}
    (hb : s.background = none) (hp : s.control.isPaused = false) :
    s.perform setting program =
      (some (program.run (Stage.answer setting.devices) s.stage).1,
        s.withStage (program.run (Stage.answer setting.devices) s.stage).2) := by
  induction program generalizing s with
  | done result => rfl
  | ask request rest ih =>
    have hnext : (s.withStage (Stage.answer setting.devices request s.stage).2).control.isPaused =
        false :=
      (answer_isPaused setting.devices request s.stage).trans hp
    have hrest := ih (Stage.answer setting.devices request s.stage).1
      (s := s.withStage (Stage.answer setting.devices request s.stage).2) hb hnext
    rw [Dialogue.run_ask]
    cases request with
    | effect e =>
      cases e with
      | wait duration =>
        have helapse : s.elapse setting duration =
            s.withStage (s.stage.atTime (s.stage.clock + duration)) := by
          rw [elapse, advance, hb]
        rw [perform, helapse]
        exact hrest
      | device call => exact hrest
      | log level message => exact hrest
      | overflow => exact hrest
    | gate =>
      have hopen : s.control.gateOpen = true := by
        rw [Control.gateOpen, hp]
        rfl
      rw [perform, if_pos hopen]
      exact ih () hb hp
    | handlerFor kind => exact hrest
    | stopRequested => exact hrest
    | publish outcome => exact hrest

/-- The run of a board where nothing else goes on. -/
theorem run_eq_endRun (setting : Setting σ) {s : Session σ} (board : Board) (seed : Variables)
    (hb : s.background = none) (hr : s.control.isRunning = false) (hp : s.control.isPaused = false)
    {result : RunCompletion × Stage σ}
    (hresult : (RunProgram.checked
      (runBoard setting.callDepthLimit board (s.control.startingContext board seed))).run
        (Stage.answer setting.devices) (s.stage.withControl s.control.started) = result) :
    s.run setting board seed =
      (some (endRun result.2 result.1).1, s.withStage (endRun result.2 result.1).2) := by
  have hidle : (s.withStage (s.stage.withControl s.control.started)).background = none := hb
  have hopen : (s.withStage (s.stage.withControl s.control.started)).control.isPaused = false := hp
  simp only [run, begin?_eq setting board seed hr]
  rw [perform_eq_run setting _ hidle hopen, ← hresult]
  rfl

/-- The run of a board where nothing else goes on and no sum overflows. -/
theorem run_eq (setting : Setting σ) {s : Session σ} (board : Board) (seed : Variables)
    (hb : s.background = none) (hr : s.control.isRunning = false) (hp : s.control.isPaused = false)
    (hfits : ¬RunProgram.Overflows (Stage.answer setting.devices)
      (runBoard setting.callDepthLimit board (s.control.startingContext board seed))
      (s.stage.withControl s.control.started))
    {result : (List Outcome × Context) × Stage σ}
    (hresult : (runBoard setting.callDepthLimit board (s.control.startingContext board seed)).run
      (Stage.answer setting.devices) (s.stage.withControl s.control.started) = result) :
    s.run setting board seed =
      (some (.ok result.1.1),
        s.withStage (result.2.withControl (result.2.control.finish result.1.2))) := by
  rw [run_eq_endRun setting board seed hb hr hp (RunProgram.run_checked hfits), hresult]
  rfl

end Session

end ActionBoard
