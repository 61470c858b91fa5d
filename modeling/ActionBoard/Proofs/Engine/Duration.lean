import ActionBoard.Proofs.Engine.Boundary
import ActionBoard.Proofs.Engine.Checked
import ActionBoard.Proofs.Engine.Moves

/-!
# How long a run takes

Nothing but waits takes time, and who waits is spread over three places: the engine before and
behind every action of a run, the handlers of the actions, and the calls of rows, whose actions
are dispatched without the engine's delays.  What a run takes altogether is therefore a sum over
the actions that it executes, in which each of them counts once, with its delays and with the own
time of its handler.

* `RunProgram.time`: how long a program takes against given answers.
* `ownTime`: how long the handler of an action takes; for a call, what the handlers of the called
  actions take.
* `Performance`, `performances`: the actions that a run executes, each with its outcome and the own
  time of its handler.
* `time_dispatchWithin`, `time_execute`, `performances_tell`: a dispatch, an execution, and a run.
* `Session.IsDue`: when the run in the background is over, which neither looking at the session nor
  setting variables nor waiting changes.
* `Session.run_takes`: the run of a board, in place and in the background.

The delay behind an action is what is left of it when the dispatch is over, so that the two together
come to the greater of them.  A call that took the delays of its actions as well would not change
this step, but `time_dispatchWithin`.

All times are those of checked programs.  An action in which a sum overflows is the last that a run
executes; its handler takes what it takes up to there, and there is no delay behind it.
-/

namespace ActionBoard

/-! ## The time of a program -/

namespace RunProgram

variable {σ α β : Type} {answer : (q : RunRequest) → σ → q.Answer × σ}

/-- How long a program takes against answers. -/
def time (answer : (q : RunRequest) → σ → q.Answer × σ) (program : RunProgram α) (s : σ) : Nat :=
  ((program.asked answer s).map RunRequest.duration).sum

@[simp] theorem time_done (result : α) (s : σ) : time answer (.done result) s = 0 := rfl

@[simp] theorem time_ask (q : RunRequest) (rest : q.Answer → RunProgram α) (s : σ) :
    time answer (.ask q rest) s = q.duration + time answer (rest (answer q s).1) (answer q s).2 :=
      rfl

/-- Programs one after the other take the sum of their times. -/
theorem time_bind (program : RunProgram α) (next : α → RunProgram β) (s : σ) :
    time answer (program.bind next) s =
      time answer program s + time answer (next (program.run answer s).1)
        (program.run answer s).2 := by
  rw [time, Dialogue.asked_bind, List.map_append, List.sum_append]
  rfl

/-- A delay takes as long as it says. -/
theorem time_delay (duration : Nat) (s : σ) : time answer (delay duration) s = duration := by
  rw [delay]
  split
  · rename_i hzero
    exact hzero.symm
  · rfl

/-- Taking the time of a program gives its time, and changes nothing else. -/
theorem run_timedFrom_eq (program : RunProgram α) (spent : Nat) (s : σ) :
    (program.timedFrom spent).run answer s =
      (((program.run answer s).1, spent + time answer program s), (program.run answer s).2) := by
  induction program generalizing spent s with
  | done result => rfl
  | ask q rest ih =>
    rw [timedFrom, Dialogue.run_ask, ih, time_ask, Nat.add_assoc]
    rfl

theorem time_timedFrom (program : RunProgram α) (spent : Nat) (s : σ) :
    time answer (program.timedFrom spent) s = time answer program s := by
  induction program generalizing spent s with
  | done result => rfl
  | ask q rest ih => rw [timedFrom, time_ask, ih, time_ask]

/-! ### Checked programs -/

/-- Of two programs the second takes its time only if the first comes to its end. -/
theorem time_checked_bind (program : RunProgram α) (next : α → RunProgram β) (s : σ) :
    time answer (checked (program.bind next)) s = time answer (checked program) s +
      match (checked program).run answer s with
      | (.result a, s) => time answer (checked (next a)) s
      | (.overflow, _) => 0 := by
  rw [checked_bind, time_bind]
  generalize (checked program).run answer s = ended
  obtain ⟨_ | _, s⟩ := ended <;> rfl

/-- What is only done to the result takes no time. -/
theorem time_checked_map (program : RunProgram α) (f : α → β) (s : σ) :
    time answer (checked (program.bind fun a => .done (f a))) s =
      time answer (checked program) s := by
  rw [time_checked_bind]
  generalize (checked program).run answer s = ended
  obtain ⟨_ | _, s⟩ := ended <;> rfl

/-- No sum overflows in a delay. -/
theorem checked_delay_bind (duration : Nat) (next : Unit → RunProgram β) :
    checked ((delay duration).bind next) = (delay duration).bind fun _ => checked (next ()) := by
  rw [delay]
  split
  · rfl
  · rfl

/-- A result together with the time that was spent on it. -/
def withTime (spent : Nat) : Completion α → Completion (α × Nat)
  | .result a => .result (a, spent)
  | .overflow => .overflow

theorem checked_timedFrom (program : RunProgram α) (spent : Nat) :
    checked (program.timedFrom spent) =
      ((checked program).timedFrom spent).bind fun ended => .done (withTime ended.2 ended.1) := by
  induction program generalizing spent with
  | done a => rfl
  | ask q rest ih =>
    rw [timedFrom, checked_ask, checked_ask]
    split
    · rfl
    · rw [timedFrom, Dialogue.bind_ask]
      exact congrArg _ (funext fun answer => ih answer _)

theorem time_checked_timedFrom (program : RunProgram α) (spent : Nat) (s : σ) :
    time answer (checked (program.timedFrom spent)) s = time answer (checked program) s := by
  rw [checked_timedFrom, time_bind, time_timedFrom]
  rfl

theorem run_checked_timedFrom (program : RunProgram α) (spent : Nat) (s : σ) :
    (checked (program.timedFrom spent)).run answer s =
      (withTime (spent + time answer (checked program) s) ((checked program).run answer s).1,
        ((checked program).run answer s).2) := by
  rw [checked_timedFrom, Dialogue.run_bind, run_timedFrom_eq]
  rfl

end RunProgram

open RunProgram (time time_bind time_delay checked checked_bind checked_delay_bind time_checked_bind
  time_checked_map time_checked_timedFrom run_checked_timedFrom)

/-! ## The own time of handlers -/

section

variable {σ : Type} (limit : Nat) (answer : (q : RunRequest) → σ → q.Answer × σ)

/-- The own times of actions that are dispatched one after the other. -/
def ownTimes (dispatch : Action → Context → RunProgram (Outcome × Context))
    (own : Action → Context → σ → Nat) : List Action → Context → σ → List Nat
  | [], _, _ => []
  | a :: rest, ctx, s =>
    own a ctx s ::
      match (checked (dispatch a ctx)).run answer s with
      | (.result dispatched, s) => ownTimes dispatch own rest dispatched.2 s
      | (.overflow, _) => []

/-- What a handler takes, where the call of a row takes as long as given.  A program of its
own takes what it waits.  A call that is refused takes nothing, and neither does an action
without a handler. -/
def handlerTime (called : Row → Context → σ → Nat) (handler? : Option Handler) (a : Action)
    (ctx : Context) (s : σ) : Nat :=
  match handler? with
  | none => 0
  | some (.leaf execute) =>
    time answer (checked (RunProgram.ofActivity ((execute a ctx).run ctx.vars))) s
  | some .rowCall =>
    match calledRow a ctx with
    | .error _ => 0
    | .ok row => called row ctx s

/-- The own time of an action, where so many more calls of rows may be opened: what its handler
takes, and for the call of a row the own times of the enabled actions of the row. -/
def ownTime : Nat → Action → Context → σ → Nat
  | 0, a, ctx, s =>
    let looked := answer (.handlerFor a.kind) s
    handlerTime answer (fun _ _ _ => 0) looked.1 a ctx.markDispatched looked.2
  | remaining + 1, a, ctx, s =>
    let looked := answer (.handlerFor a.kind) s
    handlerTime answer
      (fun row ctx s =>
        (ownTimes answer (dispatchWithin limit remaining) (ownTime remaining) row.enabledActions
          ctx.enterCall s).sum)
      looked.1 a ctx.markDispatched looked.2

variable {limit answer} {a : Action} {ctx : Context} {s : σ}

/-- Actions that are dispatched one after the other take the sum of their own times. -/
theorem time_dispatchEach {dispatch : Action → Context → RunProgram (Outcome × Context)}
    {own : Action → Context → σ → Nat}
    (h : ∀ a ctx s, time answer (checked (dispatch a ctx)) s = own a ctx s)
    (actions : List Action) (ctx : Context) (s : σ) :
    time answer (checked (dispatchEach dispatch actions ctx)) s =
      (ownTimes answer dispatch own actions ctx s).sum := by
  induction actions generalizing ctx s with
  | nil => rfl
  | cons a rest ih =>
    rw [dispatchEach, Dialogue.bind_eq, time_checked_bind, h, ownTimes, List.sum_cons]
    generalize (checked (dispatch a ctx)).run answer s = dispatched
    obtain ⟨⟨outcome, after⟩ | _, s⟩ := dispatched
    · exact congrArg _ ((time_checked_map _ _ s).trans (ih after s))
    · rfl

theorem time_callRow (dispatch : Action → Context → RunProgram (Outcome × Context))
    (a : Action) (row : Row) (ctx : Context) (s : σ) :
    time answer (checked (callRow dispatch a row ctx)) s =
      time answer (checked (dispatchEach dispatch row.enabledActions ctx.enterCall)) s :=
  time_checked_map _ _ s

theorem time_runHandling (program : Handling Outcome) (a : Action) (ctx : Context) (s : σ) :
    time answer (checked (runHandling program a ctx)) s =
      time answer (checked (RunProgram.ofActivity (program.run ctx.vars))) s :=
  time_checked_map _ _ s

/-- A dispatch takes what the handler takes. -/
theorem time_dispatchBy {call : Action → Row → Context → RunProgram (Outcome × Context)}
    {called : Row → Context → σ → Nat}
    (h : ∀ a row ctx s, time answer (checked (call a row ctx)) s = called row ctx s)
    (a : Action) (ctx : Context) (s : σ) :
    time answer (checked (dispatchBy call a ctx)) s =
      handlerTime answer called (answer (.handlerFor a.kind) s).1 a ctx.markDispatched
        (answer (.handlerFor a.kind) s).2 := by
  rw [dispatchBy_eq_ask]
  show 0 + _ = _
  rw [Nat.zero_add]
  generalize answer (.handlerFor a.kind) s = looked
  obtain ⟨_ | handler, s⟩ := looked
  · rfl
  · cases handler with
    | leaf execute => exact time_runHandling _ a ctx.markDispatched s
    | rowCall =>
      dsimp only [handlerTime]
      rw [handleBy]
      cases calledRow a ctx.markDispatched with
      | error outcome => rfl
      | ok row => exact h a row ctx.markDispatched s

/-- **A dispatch takes the own time of the action.**  No delay of the engine comes in, at any
depth. -/
theorem time_dispatchWithin (remaining : Nat) (a : Action) (ctx : Context) (s : σ) :
    time answer (checked (dispatchWithin limit remaining a ctx)) s =
      ownTime limit answer remaining a ctx s := by
  induction remaining generalizing a ctx s with
  | zero => exact time_dispatchBy (fun _ _ _ _ => rfl) a ctx s
  | succ remaining ih =>
    have hcall : ∀ (a : Action) (row : Row) (ctx : Context) (s : σ),
        time answer (checked (callRow (dispatchWithin limit remaining) a row ctx)) s =
          (ownTimes answer (dispatchWithin limit remaining) (ownTime limit answer remaining)
            row.enabledActions ctx.enterCall s).sum := by
      intro a row ctx s
      rw [time_callRow]
      exact time_dispatchEach ih row.enabledActions ctx.enterCall s
    exact time_dispatchBy hcall a ctx s

/-- An action that only waits takes its own delay once more, if it has one. -/
theorem ownTime_waitTime {enumeration : Enumeration} {ports : PortSet} {settings : EngineSettings}
    (hkind : a.kind = .waitTime)
    (hhandler : (answer (.handlerFor a.kind) s).1 =
      some (Handler.standard enumeration ports settings a.kind)) (remaining : Nat) :
    ownTime limit answer remaining a ctx s = Handler.pauseDuration settings a := by
  have hwaits : ∀ called, handlerTime answer called
      (some (Handler.standard enumeration ports settings a.kind)) a ctx.markDispatched
        (answer (.handlerFor a.kind) s).2 = Handler.pauseDuration settings a := by
    intro called
    rw [hkind]
    rfl
  cases remaining with
  | zero => rw [ownTime, hhandler, hwaits]
  | succ remaining => rw [ownTime, hhandler, hwaits]

/-! ## The time of a run -/

/-- An action that a run has executed. -/
structure Performance where
  action : Action
  /-- Its outcome, unless a sum overflowed in it. -/
  outcome : Option Outcome
  /-- How long its handler took. -/
  own : Nat

namespace Performance

/-- The delay before the action in full, and then whichever is longer, its handler or the delay
behind it.  Behind an overflow there is no delay. -/
def duration (e : Performance) : Nat :=
  e.action.delayBefore.toNat +
    match e.outcome with
    | some _ => max e.own e.action.delayAfter.toNat
    | none => e.own

/-- What a run gives that has executed the actions. -/
def result (executed : List Performance) : RunResult :=
  match executed.mapM outcome with
  | some outcomes => .ok outcomes
  | none => .error .overflow

theorem result_cons (a : Action) (outcome : Outcome) (own : Nat) (executed : List Performance) :
    result (⟨a, some outcome, own⟩ :: executed) = (result executed).map (outcome :: ·) := by
  rw [result, List.mapM_cons, result]
  cases executed.mapM Performance.outcome with
  | some outcomes => rfl
  | none => rfl

end Performance

/-- Executing an enabled action takes its delays, the second one less what the dispatch took
itself. -/
theorem time_execute (henabled : a.enabled = true) (ctx : Context) (s : σ) :
    time answer (checked (execute limit a ctx)) s =
      Performance.duration
        { action := a
          outcome :=
            match ((checked (execute limit a ctx)).run answer s).1 with
            | .result performed => some performed.1
            | .overflow => none
          own :=
            ownTime limit answer (limit - ctx.callDepth) a ctx
              ((RunProgram.delay a.delayBefore.toNat).run answer s).2 } := by
  rw [execute_of_enabled henabled, checked_delay_bind, time_bind, time_delay, Dialogue.run_bind,
    checked_bind, time_bind, time_checked_timedFrom, Dialogue.run_bind, run_checked_timedFrom,
    dispatch, time_dispatchWithin, Nat.zero_add]
  generalize (checked (dispatchWithin limit _ a ctx)).run answer _ = dispatched
  obtain ⟨⟨outcome, after⟩ | _, s⟩ := dispatched
  · dsimp only [RunProgram.withTime, RunProgram.behind, Performance.duration]
    rw [checked_delay_bind, time_bind, time_delay, Dialogue.run_bind]
    show _ + (_ + (_ + 0)) = _ + max _ _
    omega
  · rfl

/-- The actions that a run through actions executes, in their order. -/
def performances (limit : Nat) (answer : (q : RunRequest) → σ → q.Answer × σ) :
    List Action → Context → σ → List Performance
  | [], _, _ => []
  | a :: rest, ctx, s =>
    let looked := answer .stopRequested s
    if looked.1 = true then []
    else if ctx.vars.breakRequested then []
    else
      match ctx.vars.takeSkip? with
      | some vars => performances limit answer rest (ctx.withVariables vars) looked.2
      | none =>
        let passed := answer .stopRequested (answer .gate looked.2).2
        if passed.1 = true then []
        else
          let own := ownTime limit answer (limit - ctx.callDepth) a ctx
            ((RunProgram.delay a.delayBefore.toNat).run answer passed.2).2
          match (checked (execute limit a ctx)).run answer passed.2 with
          | (.result performed, s) =>
            ⟨a, some performed.1, own⟩ ::
              performances limit answer rest performed.2 (answer (.publish performed.1) s).2
          | (.overflow, _) => [⟨a, none, own⟩]

/-- What the caller of a run is given when it has ended. -/
def RunCompletion.given : RunCompletion → RunResult
  | .result ran => .ok ran.1
  | .overflow => .error .overflow

/-- A run is told of an overflow if it comes to one. -/
theorem RunCompletion.given_eq_overflow_iff {run : RunProgram (List Outcome × Context)} :
    given ((checked run).run answer s).1 = .error .overflow ↔
      RunProgram.Overflows answer run s := by
  by_cases h : RunProgram.Overflows answer run s
  · rw [RunProgram.run_checked_of_overflows h]
    exact ⟨fun _ => h, fun _ => rfl⟩
  · rw [RunProgram.run_checked h]
    exact iff_of_false (fun hgiven => nomatch hgiven) h

theorem Session.endRun_clock (stage : Stage σ) (completion : RunCompletion) :
    (Session.endRun stage completion).2.clock = stage.clock := by
  cases completion with
  | result ran => rfl
  | overflow => rfl

theorem Session.endRun_fst (stage : Stage σ) (completion : RunCompletion) :
    (Session.endRun stage completion).1 = RunCompletion.given completion := by
  cases completion with
  | result ran => rfl
  | overflow => rfl

/-- Performances agree with a run through actions. -/
structure Performance.Tell (answer : (q : RunRequest) → σ → q.Answer × σ)
    (executed : List Performance)
    (actions : List Action) (run : RunProgram (List Outcome × Context)) (s : σ) : Prop where
  /-- They are performances of some of the actions, in their order. -/
  order : (executed.map action).Sublist actions
  /-- Their outcomes are what the run gives. -/
  result : RunCompletion.given ((checked run).run answer s).1 = result executed
  time : time answer (checked run) s = (executed.map duration).sum

namespace Performance.Tell

variable {executed : List Performance} {actions : List Action}

/-- A run that is over has executed nothing more. -/
theorem done (actions : List Action) (ctx : Context) (s : σ) :
    Performance.Tell answer [] actions (.done ([], ctx)) s :=
  ⟨List.nil_sublist actions, rfl, rfl⟩

/-- Looking at the flags takes no time. -/
theorem ask {q : RunRequest} {rest : q.Answer → RunProgram (List Outcome × Context)}
    (hq : q.duration = 0) (hfits : q.isOverflow = false)
    (h : Performance.Tell answer executed actions (rest (answer q s).1) (answer q s).2) :
    Performance.Tell answer executed actions (.ask q rest) s := by
  have hasked : checked (.ask q rest) = .ask q fun a => checked (rest a) :=
    if_neg (Bool.eq_false_iff.mp hfits)
  refine ⟨h.order, ?_, ?_⟩
  · rw [hasked, Dialogue.run_ask]
    exact h.result
  · rw [hasked, RunProgram.time_ask, hq, Nat.zero_add, h.time]

/-- The first action is left out. -/
theorem skip {run : RunProgram (List Outcome × Context)} (a : Action)
    (h : Performance.Tell answer executed actions run s) :
    Performance.Tell answer executed (a :: actions) run s :=
  ⟨h.order.trans (List.sublist_cons_self a actions), h.result, h.time⟩

/-- What a run has to do with an action: it is executed, its outcome is handed over, and
the run goes on. -/
def executing (limit : Nat) (a : Action) (actions : List Action) (ctx : Context) :
    RunProgram (List Outcome × Context) :=
  (execute limit a ctx).bind fun performed => .ask (RunRequest.publish performed.1) fun _ =>
    (runActions limit actions performed.2).bind fun others =>
      .done (performed.1 :: others.1, others.2)

/-- The first action is executed. -/
theorem perform (henabled : a.enabled = true) {ctx : Context} {s after : σ}
    {performed : Outcome × Context}
    (hperformed : (checked (execute limit a ctx)).run answer s = (.result performed, after))
    (h : Performance.Tell answer executed actions (runActions limit actions performed.2)
      (answer (.publish performed.1) after).2) :
    Performance.Tell answer
      (⟨a, some performed.1, ownTime limit answer (limit - ctx.callDepth) a ctx
        ((RunProgram.delay a.delayBefore.toNat).run answer s).2⟩ :: executed) (a :: actions)
      (executing limit a actions ctx) s := by
  refine ⟨h.order.cons_cons a, ?_, ?_⟩
  · rw [executing, checked_bind, Dialogue.run_bind, hperformed, result_cons, ← h.result]
    show RunCompletion.given ((checked (Dialogue.bind _ _)).run answer _).1 = _
    rw [checked_bind, Dialogue.run_bind]
    generalize (checked (runActions limit actions performed.2)).run answer _ = ran
    obtain ⟨_ | _, _⟩ := ran <;> rfl
  · rw [executing, time_checked_bind, hperformed, time_execute henabled, hperformed, List.map_cons,
      List.sum_cons, ← h.time]
    show _ + (0 + RunProgram.time answer (checked (Dialogue.bind _ _)) _) = _
    rw [time_checked_map, Nat.zero_add]

/-- In the first action a sum overflows. -/
theorem breakOff (henabled : a.enabled = true) (actions : List Action) {ctx : Context} {s after : σ}
    (hperformed : (checked (execute limit a ctx)).run answer s = (.overflow, after)) :
    Performance.Tell answer
      [⟨a, none, ownTime limit answer (limit - ctx.callDepth) a ctx
        ((RunProgram.delay a.delayBefore.toNat).run answer s).2⟩] (a :: actions)
      (executing limit a actions ctx) s := by
  refine ⟨(List.nil_sublist actions).cons_cons a, ?_, ?_⟩
  · rw [executing, checked_bind, Dialogue.run_bind, hperformed]
    rfl
  · rw [executing, time_checked_bind, hperformed, time_execute henabled, hperformed, List.map_cons,
      List.sum_cons]
    rfl

end Performance.Tell

/-- **A run takes the sum of the durations of its performances**, and these are all that it gives
outcomes for. -/
theorem performances_tell (limit : Nat) (answer : (q : RunRequest) → σ → q.Answer × σ)
    {actions : List Action} (h : ∀ b ∈ actions, b.enabled = true) (ctx : Context) (s : σ) :
    Performance.Tell answer (performances limit answer actions ctx s) actions
      (runActions limit actions ctx) s := by
  induction actions generalizing ctx s with
  | nil => exact .done [] ctx s
  | cons a rest ih =>
    have ha : a.enabled = true := h a List.mem_cons_self
    have hrest := ih fun b hb => h b (List.mem_cons_of_mem a hb)
    rw [runActions_cons, performances]
    refine .ask rfl rfl ?_
    dsimp only
    split
    · exact .done _ ctx _
    split
    · exact .done _ ctx _
    cases ctx.vars.takeSkip? with
    | some vars => exact .skip a (hrest _ _)
    | none =>
      dsimp only
      refine .ask rfl rfl ?_
      refine .ask rfl rfl ?_
      split
      · exact .done _ ctx _
      split
      · rename_i hperformed
        exact .perform ha hperformed (hrest _ _)
      · rename_i hperformed
        exact .breakOff ha rest hperformed

end

/-! ## On a stage -/

theorem Control.gateOpen_of_isPaused {c : Control} (h : c.isPaused = false) :
    c.gateOpen = true := by
  rw [gateOpen, h]
  rfl

theorem RunRequest.IsImmediate.duration {request : RunRequest} (h : request.IsImmediate) :
    request.duration = 0 := by
  cases request with
  | effect e =>
    cases e with
    | wait duration => exact h.elim
    | device call => rfl
    | log level message => rfl
    | overflow => rfl
  | _ => rfl

namespace Stage

variable {σ α : Type} {devices : Devices σ} {setting : Setting σ} {moment : Nat}

theorem answer_clock (q : RunRequest) (stage : Stage σ) :
    (answer devices q stage).2.clock = stage.clock + q.duration := by
  cases q with
  | effect e => cases e <;> rfl
  | _ => rfl

/-- The clock goes on by the time of a program. -/
theorem run_clock (program : RunProgram α) (stage : Stage σ) :
    (program.run (answer devices) stage).2.clock = stage.clock + time
      (answer devices) program stage := by
  induction program generalizing stage with
  | done result => rfl
  | ask q rest ih => rw [Dialogue.run_ask, ih, answer_clock, RunProgram.time_ask, Nat.add_assoc]

/-- An answer depends on the control state only for the flag that asks for a stop. -/
theorem exists_answer_withControl (devices : Devices σ) (q : RunRequest)
    (stage : Stage σ) {c : Control} (h : c.isStopRequested = stage.control.isStopRequested) :
    ∃ c', answer devices q (stage.withControl c) =
        ((answer devices q stage).1, (answer devices q stage).2.withControl c') ∧
      c'.isStopRequested = (answer devices q stage).2.control.isStopRequested := by
  cases q with
  | effect e =>
    refine ⟨c, answer_effect_withControl e stage c, ?_⟩
    rw [answer_effect_control]
    exact h
  | handlerFor kind => exact ⟨c, rfl, h⟩
  | stopRequested =>
    refine ⟨c, ?_, h⟩
    show (c.isStopRequested, stage.withControl c) = _
    rw [h]
    rfl
  | gate => exact ⟨c, rfl, h⟩
  | publish outcome => exact ⟨c.publish outcome, rfl, h⟩

/-- So does a run. -/
theorem run_withControl (program : RunProgram α) (stage : Stage σ) {c : Control}
    (h : c.isStopRequested = stage.control.isStopRequested) :
    (program.run (answer devices) (stage.withControl c)).1 =
      (program.run (answer devices) stage).1 ∧
      (program.run (answer devices) (stage.withControl c)).2.clock =
        (program.run (answer devices) stage).2.clock := by
  induction program generalizing stage c with
  | done result => exact ⟨rfl, rfl⟩
  | ask q rest ih =>
    obtain ⟨c', hanswer, hc'⟩ := exists_answer_withControl devices q stage h
    rw [Dialogue.run_ask, hanswer, Dialogue.run_ask]
    exact ih _ _ hc'

/-- What a run that is not paused has come to at some time: its end, or something left to do from
then on that comes to the same end. -/
inductive ComesTo (devices : Devices σ) (now : Nat) (ended : α × Stage σ) :
    (α ⊕ Suspended α) × Stage σ → Prop
  | finished (clock : ended.2.clock ≤ now) : ComesTo devices now ended (.inl ended.1, ended.2)
  | later {later : Suspended α} {stage : Stage σ} (wake : now ≤ later.wake)
      (notPaused : stage.control.isPaused = false)
      (rest : later.rest.run (answer devices) (stage.atTime later.wake) = ended) :
      ComesTo devices now ended (.inr later, stage)

theorem comesTo_proceedUntil (program : RunProgram α) {stage : Stage σ}
    (hpaused : stage.control.isPaused = false) (hclock : stage.clock < moment) :
    ComesTo setting.devices moment (program.run (answer setting.devices) stage)
      (stage.proceedUntil setting moment program) := by
  induction program generalizing stage with
  | done result => exact .finished (Nat.le_of_lt hclock)
  | ask request rest ih =>
    rw [Dialogue.run_ask]
    cases request using RunRequest.byTiming with
    | wait duration =>
      rw [proceedUntil]
      split
      · rename_i hwake
        exact ih () hpaused hwake
      · rename_i hwake
        exact .later (not_lt.mp hwake) hpaused rfl
    | gate =>
      rw [proceedUntil, Control.gateOpen_of_isPaused hpaused, if_pos rfl]
      exact ih () hpaused hclock
    | immediate request himmediate =>
      rw [proceedUntil_of_isImmediate himmediate]
      have hstill : (answer setting.devices request stage).2.clock = stage.clock := by
        rw [answer_clock, himmediate.duration, Nat.add_zero]
      exact ih _ ((answer_isPaused setting.devices request stage).trans hpaused)
        (hstill.trans_lt hclock)

theorem comesTo_proceedOnce (setting : Setting σ) (program : RunProgram α) {stage : Stage σ}
    (hpaused : stage.control.isPaused = false) :
    ComesTo setting.devices stage.clock (program.run (answer setting.devices) stage)
        (stage.proceedOnce setting program) ∧
      (stage.proceedOnce setting program).2.clock = stage.clock := by
  cases program with
  | done result => exact ⟨.finished (Nat.le_refl _), rfl⟩
  | ask request rest =>
    rw [Dialogue.run_ask]
    cases request using RunRequest.byTiming with
    | wait duration => exact ⟨.later (Nat.le_add_right _ _) hpaused rfl, rfl⟩
    | gate =>
      rw [proceedOnce, Control.gateOpen_of_isPaused hpaused, if_pos rfl]
      exact ⟨.later (Nat.le_refl _) hpaused rfl, rfl⟩
    | immediate request himmediate =>
      have hstill : (answer setting.devices request stage).2.clock = stage.clock := by
        rw [answer_clock, himmediate.duration, Nat.add_zero]
      rw [proceedOnce_of_isImmediate himmediate]
      exact ⟨.later hstill.ge ((answer_isPaused setting.devices request stage).trans hpaused) rfl,
        hstill⟩

end Stage

/-! ## In a session -/

/-- A move that neither stops nor pauses nor drops the run under way, and does not ask
for another one. -/
def Move.IsCalm : Move → Prop
  | .run .. | .abort | .request .stop | .request .pause => False
  | _ => True

namespace Session

variable {σ : Type} {setting : Setting σ} {ending : Nat} {result : RunResult} {s : Session σ}

/-- The run in the background ends at a time with some result, and until then it is under way. -/
inductive IsDue (setting : Setting σ) (ending : Nat) (result : RunResult) (s : Session σ) : Prop
  | underWay {wake : Nat} {program : RunProgram RunCompletion}
      (background : s.background = some ⟨wake, program⟩) (task : s.task = .active)
      (notPaused : s.control.isPaused = false) (clock : s.stage.clock ≤ wake)
      (result : RunCompletion.given
        (program.run (Stage.answer setting.devices) (s.stage.atTime wake)).1 = result)
      (time : (program.run (Stage.answer setting.devices) (s.stage.atTime wake)).2.clock = ending)
  | finished (background : s.background = none) (task : s.task = .done result)
      (clock : ending ≤ s.stage.clock)

namespace IsDue

/-- Nothing but the flags counts. -/
theorem request (h : IsDue setting ending result s) {change : Control → Control}
    (hpaused : s.control.isPaused = false → (change s.control).isPaused = false)
    (hstop : (change s.control).isStopRequested = s.control.isStopRequested) :
    IsDue setting ending result (s.request change) := by
  cases h with
  | @underWay wake program hbackground htask hopen hclock hresult htime =>
    obtain ⟨hsame, hend⟩ : (program.run (Stage.answer setting.devices)
        ((s.stage.atTime wake).withControl (change s.control))).1 = _ ∧ _ :=
      Stage.run_withControl program (s.stage.atTime wake) hstop
    exact .underWay hbackground htask (hpaused hopen) hclock
      ((congrArg RunCompletion.given hsame).trans hresult) (hend.trans htime)
  | finished hbackground htask hclock => exact .finished hbackground htask hclock

theorem settled {wake clock : Nat} {program : RunProgram RunCompletion} (htask : s.task = .active)
    {played : (RunCompletion ⊕ Suspended RunCompletion) × Stage σ}
    (hplayed : Stage.ComesTo setting.devices clock
      (program.run (Stage.answer setting.devices) (s.stage.atTime wake)) played)
    (hresult : RunCompletion.given
      (program.run (Stage.answer setting.devices) (s.stage.atTime wake)).1 = result)
    (htime : (program.run (Stage.answer setting.devices) (s.stage.atTime wake)).2.clock = ending) :
    IsDue setting ending result ((s.settled played).atTime clock) := by
  generalize program.run (Stage.answer setting.devices) (s.stage.atTime wake) = ended
    at hplayed hresult htime
  cases hplayed with
  | finished hclock =>
    have hdone : s.task.settle (endRun ended.2 ended.1).1 = .done result := by
      rw [htask, endRun_fst, hresult]
      rfl
    have hlate : ending ≤ clock := htime ▸ hclock
    exact .finished rfl hdone hlate
  | later hwake hopen hrest =>
    refine .underWay rfl htask hopen hwake ?_ ?_
    · exact (congrArg (fun ended => RunCompletion.given ended.1) hrest).trans hresult
    · exact (congrArg (·.2.clock) hrest).trans htime

theorem go (h : IsDue setting ending result s) : IsDue setting ending result (s.go setting) := by
  cases h with
  | @underWay wake program hbackground htask hopen hclock hresult htime =>
    have hpaused : (s.stage.atTime wake).control.isPaused = false := hopen
    obtain ⟨hplayed, hstill⟩ := Stage.comesTo_proceedOnce setting program hpaused
    have hgo : s.go setting =
        (s.settled ((s.stage.atTime wake).proceedOnce setting program)).atTime wake := by
      rw [go_eq_settled hbackground hclock]
      generalize (s.stage.atTime wake).proceedOnce setting program = played at hstill
      obtain ⟨⟨_, _⟩ | _, stage⟩ := played <;> obtain rfl : stage.clock = wake := hstill <;> rfl
    rw [hgo]
    exact settled htask hplayed hresult htime
  | finished hbackground htask hclock =>
    rw [go_of_eq_none hbackground]
    exact .finished hbackground htask hclock

theorem elapse (h : IsDue setting ending result s) (duration : Nat) :
    IsDue setting ending result (s.elapse setting duration) := by
  cases h with
  | @underWay wake program hbackground htask hopen hclock hresult htime =>
    have hpaused : (s.stage.atTime wake).control.isPaused = false := hopen
    by_cases hwake : wake < s.stage.clock + duration
    · rw [Session.elapse, advance_eq_settled hbackground hwake]
      exact settled htask (Stage.comesTo_proceedUntil program hpaused hwake) hresult htime
    · rw [Session.elapse, advance_of_le hbackground (not_lt.mp hwake)]
      exact .underWay hbackground htask hopen (not_lt.mp hwake) hresult htime
  | finished hbackground htask hclock =>
    rw [Session.elapse, advance_of_eq_none hbackground]
    exact .finished hbackground htask (hclock.trans (Nat.le_add_right _ _))

/-- **A calm move does not change when the run is over.** -/
theorem move (h : IsDue setting ending result s) {m : Move} (hm : m.IsCalm) :
    IsDue setting ending result (s.move setting m).2 := by
  cases m with
  | run board seed inPlace => exact hm.elim
  | abort => exact hm.elim
  | look q => exact h
  | go => exact h.go
  | elapse duration => exact h.elapse duration
  | request r =>
    cases r with
    | stop => exact hm.elim
    | pause => exact hm.elim
    | resume => exact h.request (fun _ => rfl) rfl
    | setVariable name value => exact h.request id rfl

theorem moves (h : IsDue setting ending result s) {list : List Move}
    (hcalm : ∀ m ∈ list, m.IsCalm) : IsDue setting ending result (s.moves setting list).2 := by
  induction list generalizing s with
  | nil => exact h
  | cons m rest ih =>
    exact ih (h.move (hcalm m List.mem_cons_self)) fun m' hm' =>
      hcalm m' (List.mem_cons_of_mem m hm')

end IsDue

/-- **A run takes as long as its actions**, and each of these its delay before, and then its
own time or its delay behind, whichever is longer.  This is what a caller waits for a run in
place.  A run in the background ends at that time, whatever variables are set meanwhile and
however the session waits.

The actions are those of the board that were executed, with an outcome each, unless a sum overflows:
then the last of them has none, and the run gives none. -/
theorem run_takes (setting : Setting σ) (board : Board) (seed : Variables)
    (halone : s.background = none)
    (hidle : s.control.isRunning = false) (hpaused : s.control.isPaused = false) :
    let answer := Stage.answer setting.devices
    let executed := performances setting.callDepthLimit answer board.flattened
      (s.control.startingContext board seed)
      (s.stage.withControl s.control.started)
    let result := Performance.result executed
    let ending := s.stage.clock + (executed.map Performance.duration).sum
    (executed.map Performance.action).Sublist board.flattened ∧
      (∀ enumeration ports limit remaining a ctx (stage : Stage σ), a.kind = .waitTime →
        stage.registry = .standard enumeration ports setting.settings →
          ownTime limit answer remaining a ctx stage = Handler.pauseDuration setting.settings a) ∧
      (result = .error .overflow ↔ RunProgram.Overflows answer
        (runBoard setting.callDepthLimit board (s.control.startingContext board seed))
        (s.stage.withControl s.control.started)) ∧
      (s.run setting board seed).1 = some result ∧
      (s.run setting board seed).2.stage.clock = ending ∧
      ∀ moves, (∀ m ∈ moves, m.IsCalm) →
        let after := ((s.start setting board seed).moves setting moves).2
        (after.stage.clock < ending → after.background.isSome = true) ∧
          (ending < after.stage.clock → after.background = none ∧ after.task = .done result) := by
  intro answer executed result ending
  have henabled : ∀ b ∈ board.flattened, b.enabled = true := by
    intro b hb
    obtain ⟨row, -, -, -, -, hb⟩ := Board.mem_flattened.mp hb
    exact hb
  have htell := performances_tell setting.callDepthLimit answer henabled
    (s.control.startingContext board seed) (s.stage.withControl s.control.started)
  have hclock : ((checked (runBoard setting.callDepthLimit board
      (s.control.startingContext board seed))).run answer
        (s.stage.withControl s.control.started)).2.clock = ending := by
    rw [Stage.run_clock]
    exact congrArg (s.stage.clock + ·) htell.time
  have hdue : IsDue setting ending result (s.start setting board seed) := by
    rw [Session.start, begin?_eq setting board seed hidle]
    exact .underWay rfl rfl hpaused (Nat.le_refl _) htell.result hclock
  refine ⟨htell.order, fun enumeration ports limit remaining a ctx stage hkind hregistry => ?_, ?_,
    ?_,
    ?_, fun moves hcalm => ?_⟩
  · have hhandler : stage.registry.handler? a.kind =
        some (Handler.standard enumeration ports setting.settings a.kind) := by
      rw [hregistry]
      rfl
    exact ownTime_waitTime hkind hhandler remaining
  · show Performance.result _ = _ ↔ _
    rw [← htell.result]
    exact RunCompletion.given_eq_overflow_iff
  · rw [run_eq_endRun setting board seed halone hidle hpaused rfl, endRun_fst]
    exact congrArg some htell.result
  · rw [run_eq_endRun setting board seed halone hidle hpaused rfl]
    exact (endRun_clock _ _).trans hclock
  · intro after
    cases hdue.moves hcalm with
    | underWay hbackground _ _ hwake _ htime =>
      refine ⟨fun _ => Option.isSome_of_eq_some hbackground,
        fun hlate => absurd hlate (not_lt.mpr ?_)⟩
      rw [Stage.run_clock] at htime
      exact (hwake.trans (Nat.le_add_right _ _)).trans htime.le
    | finished hbackground htask hlate =>
      exact ⟨fun hearly => absurd hearly (not_lt.mpr hlate), fun _ => ⟨hbackground, htask⟩⟩

/-- A board whose main row calls a row that waits and then logs.  The call has delays of 100 before
and 500 behind, the wait in the row has a delay of 300, and so has a disabled one behind it. -/
def delayedBoard : Board where
  id := ""
  name := ""
  rows :=
    [((Row.new "main" "").addAction (CallStack.callOfRow.withDelays 100 500)).addAction
        ((Action.new "3" .log "").withDelays 0 50),
      ((((Row.new "row" "").asSubroutine.addAction
        ((Action.new "4" .waitTime "").withDelays 300 70)).addAction
        ((Action.new "5" .log "").withDelays 40 40)).addAction
          ((Action.new "6" .waitTime "").withDelays 300 0).disabled)]
  createdAt := .epoch
  modifiedAt := .epoch

/-- The call takes 100 and then 500, in which the 300 of the row are included, and the
log behind it 50. -/
theorem run_takes_of_delayed :
    let setting : Setting Unit := ⟨fun _ s => (.error (.unavailable ""), s), {}⟩
    let s : Session Unit := { stage := CallStack.idleStage }
    let executed :=
      performances setting.callDepthLimit (Stage.answer setting.devices) delayedBoard.flattened
      (s.control.startingContext delayedBoard ∅) (s.stage.withControl s.control.started)
    s.background = none ∧ s.control.isRunning = false ∧ s.control.isPaused = false ∧
      executed.map (fun e => (e.action.id, e.own, e.duration)) = [("2", 300, 600), ("3", 0, 50)] ∧
      (s.run setting delayedBoard ∅).2.stage.clock = 650 := by
  intro setting s executed
  have hexecuted : executed.map (fun e => (e.action.id, e.own, e.duration)) =
      [("2", 300, 600), ("3", 0, 50)] := by
    decide +kernel
  have hending : s.stage.clock + (executed.map Performance.duration).sum = 650 := by decide +kernel
  obtain ⟨-, -, -, -, hclock, -⟩ := run_takes setting delayedBoard ∅ (s := s) rfl rfl rfl
  exact ⟨rfl, rfl, rfl, hexecuted, hclock.trans hending⟩

end Session

end ActionBoard
