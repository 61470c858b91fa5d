import ActionBoard.Engine.Session
import ActionBoard.Proofs.Engine.Checked
import ActionBoard.Proofs.Engine.Interleaving

/-!
# Runs in the background of a session

While a run goes on in the background of a session, requests are made and time passes.  What becomes
of the run is always a moment of `Interleaving`, so that all that holds at every moment of a run
holds of sessions.

* `asks_execute`: performing an action neither looks at the flags nor publishes anything, which is
  why a run that is suspended on the way can be described by its course alone.
* `Stage.proceedUntil_bind`: a program behind another one goes on where the other ends.
* `reaches_proceedUntil_elaborate`: a run that is played on a stage goes through steps between
  requests.
* `exists_reachable_of_turns`: a session whose run was started, after any requests and waits.

The proof for a stage is by induction on the course of the run, and not on the program: where an
action asks for nothing, the program says nothing of its start.

The course of a run knows no overflow.  A run that ends with one has come to a moment at which an
action is performed, and stays there.
-/

namespace ActionBoard

variable {σ : Type} {α β : Type}

/-! ## What performing an action asks -/

/-- Asked while an action is performed. -/
def RunRequest.OfAction : RunRequest → Prop
  | effect _ | handlerFor _ => True
  | stopRequested | gate | publish _ => False

theorem asks_ofActivity (activity : Activity α) :
    (RunProgram.ofActivity activity).Asks RunRequest.OfAction := by
  induction activity with
  | done result => trivial
  | ask e next ih => exact ⟨trivial, ih⟩

theorem asks_dispatchEach {dispatch : Action → Context → RunProgram (Outcome × Context)}
    (h : ∀ a ctx, (dispatch a ctx).Asks RunRequest.OfAction) (actions : List Action)
    (ctx : Context) : (dispatchEach dispatch actions ctx).Asks RunRequest.OfAction := by
  induction actions generalizing ctx with
  | nil => trivial
  | cons a rest ih =>
    rw [dispatchEach]
    exact (h a ctx).bind fun first => (ih first.2).bind fun others => trivial

theorem asks_callRow {dispatch : Action → Context → RunProgram (Outcome × Context)}
    (h : ∀ a ctx, (dispatch a ctx).Asks RunRequest.OfAction) (a : Action) (row : Row)
    (ctx : Context) : (callRow dispatch a row ctx).Asks RunRequest.OfAction := by
  rw [callRow]
  exact (asks_dispatchEach h row.enabledActions ctx.enterCall).bind fun within => trivial

theorem asks_handleBy {call : Action → Row → Context → RunProgram (Outcome × Context)}
    (h : ∀ a row ctx, (call a row ctx).Asks RunRequest.OfAction) (handler : Handler) (a : Action)
    (ctx : Context) : (handleBy call handler a ctx).Asks RunRequest.OfAction := by
  cases handler with
  | leaf execute =>
    rw [handleBy, runHandling]
    exact (asks_ofActivity _).bind fun ending => trivial
  | rowCall =>
    rw [handleBy]
    cases calledRow a ctx with
    | error outcome => trivial
    | ok row => exact h a row ctx

theorem asks_dispatchBy {call : Action → Row → Context → RunProgram (Outcome × Context)}
    (h : ∀ a row ctx, (call a row ctx).Asks RunRequest.OfAction) (a : Action) (ctx : Context) :
    (dispatchBy call a ctx).Asks RunRequest.OfAction := by
  refine ⟨trivial, fun handler? => ?_⟩
  cases handler? with
  | none => trivial
  | some handler => exact asks_handleBy h handler a ctx.markDispatched

theorem asks_dispatchWithin (limit depth : Nat) (a : Action) (ctx : Context) :
    (dispatchWithin limit depth a ctx).Asks RunRequest.OfAction := by
  induction depth generalizing a ctx with
  | zero => exact asks_dispatchBy (fun a _ ctx => Dialogue.asks_done (tooDeep limit a, ctx)) a ctx
  | succ depth ih => exact asks_dispatchBy (asks_callRow ih) a ctx

theorem asks_timedFrom {P : RunRequest → Prop} {program : RunProgram α} (h : program.Asks P)
    (spent : Nat) : (program.timedFrom spent).Asks P := by
  induction program generalizing spent with
  | done result => trivial
  | ask request rest ih => exact ⟨h.1, fun answer => ih answer (h.2 answer) _⟩

theorem asks_delay (duration : Nat) : (RunProgram.delay duration).Asks RunRequest.OfAction := by
  rw [RunProgram.delay]
  split
  · trivial
  · exact ⟨trivial, fun _ => trivial⟩

/-- **Performing an action looks at no flag and publishes nothing.** -/
theorem asks_execute (limit : Nat) (a : Action) (ctx : Context) :
    (execute limit a ctx).Asks RunRequest.OfAction := by
  rw [execute]
  split
  · refine (asks_delay _).bind fun _ => ?_
    refine (asks_timedFrom (asks_dispatchWithin limit _ a ctx) 0).bind fun performed => ?_
    exact (asks_delay _).bind fun _ => trivial
  · trivial

/-! ## Playing one program behind another -/

namespace Stage

variable (setting : Setting σ) (moment : Nat)

/-- A program behind another one begins where the other ends. -/
theorem proceedUntil_bind (program : RunProgram α) (next : α → RunProgram β) (stage : Stage σ) :
    stage.proceedUntil setting moment (program.bind next) =
      match stage.proceedUntil setting moment program with
      | (.inl result, stage) => stage.proceedUntil setting moment (next result)
      | (.inr later, stage) => (.inr ⟨later.wake, later.rest.bind next⟩, stage) := by
  induction program generalizing stage with
  | done result => rfl
  | ask request rest ih =>
    rw [Dialogue.bind_ask]
    cases request with
    | effect e =>
      cases e with
      | wait duration =>
        rw [proceedUntil, proceedUntil]
        split
        · exact ih () _
        · rfl
      | device call => exact ih _ _
      | log level message => exact ih _ _
      | overflow => exact ih _ _
    | gate =>
      rw [proceedUntil, proceedUntil]
      split
      · exact ih () _
      · rfl
    | handlerFor kind => exact ih _ _
    | stopRequested => exact ih _ _
    | publish outcome => exact ih _ _

/-- What performing an action comes to on a stage leaves the control state as it was. -/
theorem proceedUntil_of_asks {program : RunProgram α} (h : program.Asks RunRequest.OfAction)
    (stage : Stage σ) :
    (stage.proceedUntil setting moment program).2.control = stage.control ∧
      ∀ later, (stage.proceedUntil setting moment program).1 = .inr later →
        later.rest.Asks RunRequest.OfAction := by
  induction program generalizing stage with
  | done result => exact ⟨rfl, fun later hlater => nomatch hlater⟩
  | ask request rest ih =>
    cases request with
    | effect e =>
      cases e with
      | wait duration =>
        rw [proceedUntil]
        split
        · exact ih () (h.2 ()) _
        · refine ⟨rfl, fun later hlater => ?_⟩
          cases hlater
          exact h.2 ()
      | device call => exact ih _ (h.2 _) _
      | log level message => exact ih _ (h.2 _) _
      | overflow => exact ih _ (h.2 _) _
    | handlerFor kind => exact ih _ (h.2 _) _
    | stopRequested | gate | publish outcome => exact h.1.elim

end Stage

namespace Interleaving

/-! ## What remains of a run at a moment -/

/-- What remains of a run as a program: the rest of its course, behind the rest of the action that
is being performed. -/
inductive Moment.Remains (limit : Nat) (m : Moment) : RunProgram RunCompletion → Prop
  | idle (h : m.performing = false) :
    Remains limit m (RunProgram.checked (m.rest.elaborate (RunProgram.ofCourse limit)))
  | performing {a : Action} {ctx : Context} {next : Outcome × Context →
      Course (List Outcome × Context)}
      {program : RunProgram (Completion (Outcome × Context))} (busy : m.performing = true)
      (h : m.rest = .ask (.perform a ctx) next) (asks : program.Asks RunRequest.OfAction) :
      Remains limit m (program.bind
        (RunProgram.behind fun result => (next result).elaborate (RunProgram.ofCourse limit)))

/-- What playing a run from a moment on has come to: its end, an overflow in an action, or a later
moment at which it is suspended. -/
inductive Reaches (limit : Nat) (m : Moment) :
    (RunCompletion ⊕ Suspended RunCompletion) × Stage σ → Prop
  | ended {m' : Moment} {result : List Outcome × Context} {stage : Stage σ}
    (reachable : Reachable m m')
      (h : m'.rest = .done result) (control : m'.control = stage.control) :
      Reaches limit m (.inl (.result result), stage)
  | overflowed {m' : Moment} {stage : Stage σ} (reachable : Reachable m m')
      (h : m'.performing = true)
      (control : m'.control = stage.control) : Reaches limit m (.inl .overflow, stage)
  | suspended {m' : Moment} {later : Suspended RunCompletion} {stage : Stage σ}
      (reachable : Reachable m m') (h : m'.IsSuspended) (remains : m'.Remains limit later.rest)
      (control : m'.control = stage.control) : Reaches limit m (.inr later, stage)

variable {setting : Setting σ} {moment limit : Nat} {m : Moment}

theorem Reaches.head {m' : Moment} (h : Step m m')
    {played : (RunCompletion ⊕ Suspended RunCompletion) × Stage σ}
    (hplayed : Reaches limit m' played) : Reaches limit m played := by
  cases hplayed with
  | ended hreachable hdone hcontrol => exact .ended (.head h hreachable) hdone hcontrol
  | overflowed hreachable hbusy hcontrol => exact .overflowed (.head h hreachable) hbusy hcontrol
  | suspended hreachable hsuspended hremains hcontrol =>
    exact .suspended (.head h hreachable) hsuspended hremains hcontrol

/-- An action that is being performed is finished, or the run ends or is suspended before that. -/
theorem reaches_proceedUntil_bind {a : Action} {ctx : Context}
    {next : Outcome × Context → Course (List Outcome × Context)}
    {program : RunProgram (Completion (Outcome × Context))}
    (hasks : program.Asks RunRequest.OfAction) {stage : Stage σ} (hbusy : m.performing = true)
    (hrest : m.rest = .ask (.perform a ctx) next) (hcontrol : m.control = stage.control)
    (hnext : ∀ result {m' : Moment} {stage' : Stage σ}, m'.performing = false →
      m'.rest = next result →
      m'.control = stage'.control →
        Reaches limit m'
          (stage'.proceedUntil setting moment
            (RunProgram.checked ((next result).elaborate (RunProgram.ofCourse limit))))) :
    Reaches limit m (stage.proceedUntil setting moment
      (program.bind (RunProgram.behind fun result =>
        (next result).elaborate (RunProgram.ofCourse limit)))) := by
  obtain ⟨hkept, hlater⟩ := Stage.proceedUntil_of_asks setting moment hasks stage
  rw [Stage.proceedUntil_bind]
  generalize stage.proceedUntil setting moment program = played at hkept hlater ⊢
  obtain ⟨(⟨outcome, ctx'⟩ | _) | later, after⟩ := played
  · exact .head (.finish hrest hbusy outcome ctx')
      (hnext (outcome, ctx') rfl rfl (hcontrol.trans hkept.symm))
  · exact .overflowed .refl hbusy (hcontrol.trans hkept.symm)
  · exact .suspended .refl (.performing hbusy) (.performing hbusy hrest (hlater later rfl))
      (hcontrol.trans hkept.symm)

/-- **A run that is played on a stage goes through steps between requests.** -/
theorem reaches_proceedUntil_elaborate (course : Course (List Outcome × Context)) {stage : Stage σ}
    (hidle : m.performing = false) (hrest : m.rest = course)
    (hcontrol : m.control = stage.control) :
    Reaches limit m (stage.proceedUntil setting moment
      (RunProgram.checked (course.elaborate (RunProgram.ofCourse limit)))) := by
  induction course generalizing m stage with
  | done result => exact .ended .refl hrest hcontrol
  | ask request next ih =>
    cases request with
    | stopRequested =>
      refine .head (.look hrest) (ih _ hidle ?_ hcontrol)
      show next m.control.isStopRequested = next stage.control.isStopRequested
      rw [hcontrol]
    | gate =>
      show Reaches limit m (stage.proceedUntil setting moment (.ask .gate fun _ =>
        RunProgram.checked ((next ()).elaborate (RunProgram.ofCourse limit))))
      rw [Stage.proceedUntil]
      split
      · rename_i hopen
        exact .head (.pass hrest (hcontrol ▸ hopen)) (ih () hidle rfl hcontrol)
      · have hremains : m.Remains limit
            (RunProgram.checked (m.rest.elaborate (RunProgram.ofCourse limit))) := .idle hidle
        rw [hrest] at hremains
        exact .suspended .refl (.atGate hrest) hremains hcontrol
    | perform a ctx =>
      refine .head (.start hrest hidle) ?_
      rw [Dialogue.elaborate, RunProgram.checked_bind]
      exact reaches_proceedUntil_bind (asks_execute limit a ctx).checked rfl hrest hcontrol
        fun result _ _ hidle' hrest' hcontrol' => ih result hidle' hrest' hcontrol'
    | publish outcome =>
      refine .head (.publish hrest) (ih () hidle rfl ?_)
      show m.control.publish outcome = stage.control.publish outcome
      rw [hcontrol]

/-- What remains of a run goes through steps between requests, too. -/
theorem reaches_proceedUntil {program : RunProgram RunCompletion} {stage : Stage σ}
    (h : m.Remains limit program) (hcontrol : m.control = stage.control) :
    Reaches limit m (stage.proceedUntil setting moment program) := by
  cases h with
  | idle hidle => exact reaches_proceedUntil_elaborate m.rest hidle rfl hcontrol
  | performing hbusy hrest hasks =>
    exact reaches_proceedUntil_bind hasks hbusy hrest hcontrol
      fun result _ _ hidle' hrest' hcontrol' => reaches_proceedUntil_elaborate _ hidle'
        hrest' hcontrol'

/-! ## In a session -/

/-- What a session does while a run goes on in its background. -/
inductive Turn (setting : Setting σ) : Session σ → Session σ → Prop
  | request {s : Session σ} (r : Request) : Turn setting s (s.request r.apply)
  | elapse {s : Session σ} (duration : Nat) : Turn setting s (s.elapse setting duration)

/-- A session whose started run has come to a moment. -/
inductive Follows (setting : Setting σ) (c : Control) (board : Board) (seed : Variables)
    (s : Session σ) : Prop
  | beginning {requests : List Request} {wake : Nat}
      (background : s.background =
        some ⟨wake,
          .checked (runBoard setting.callDepthLimit board (c.startingContext board seed))⟩)
      (task : s.task = .active) (control : s.control = Request.applyAll requests c.started)
  | suspended {requests : List Request} {m : Moment} {later : Suspended RunCompletion}
      (reachable : Reachable (.initial c board seed requests) m) (h : m.IsSuspended)
      (background : s.background = some later) (task : s.task = .active)
      (remains : m.Remains setting.callDepthLimit later.rest) (control : m.control = s.control)
  | ended {requests : List Request} {m : Moment} {outcomes : List Outcome} {ctx : Context}
      (reachable : Reachable (.initial c board seed requests) m) (h : m.rest =
        .done (outcomes, ctx))
      (background : s.background = none) (task : s.task = .done (.ok outcomes))
      (results : m.control.results = s.control.results)
  | overflowed {requests : List Request} {m : Moment}
      (reachable : Reachable (.initial c board seed requests) m)
      (h : m.performing = true) (background : s.background = none) (task : s.task =
        .done (.error .overflow))
      (results : m.control.results = s.control.results)

variable {c : Control} {board : Board} {seed : Variables} {s s' : Session σ}

theorem applyAll_append (requests : List Request) (r : Request) (c : Control) :
    Request.applyAll (requests ++ [r]) c = r.apply (Request.applyAll requests c) := by
  rw [Request.applyAll, List.foldl_append]
  rfl

theorem Moment.IsSuspended.request (h : m.IsSuspended) (r : Request) :
    IsSuspended { m with control := r.apply m.control } := by
  cases h with
  | atGate h => exact .atGate h
  | performing h => exact .performing h
  | publishing h => exact .publishing h
  | ended h => exact .ended h

theorem Moment.Remains.request {program : RunProgram RunCompletion} (h : m.Remains limit program)
    (r : Request) : Remains limit { m with control := r.apply m.control } program := by
  cases h with
  | idle h => exact .idle h
  | performing hbusy h hasks => exact .performing hbusy h hasks

namespace Follows

theorem request (h : Follows setting c board seed s) (r : Request) :
    Follows setting c board seed (s.request r.apply) := by
  cases h with
  | @beginning requests wake hbackground htask hcontrol =>
    have hafter : (s.request r.apply).control = Request.applyAll (requests ++ [r]) c.started := by
      rw [applyAll_append, ← hcontrol]
      rfl
    exact .beginning hbackground htask hafter
  | @suspended requests m later hreachable hsuspended hbackground htask hremains hcontrol =>
    have hafter : r.apply m.control = (s.request r.apply).control := by
      rw [hcontrol]
      rfl
    exact .suspended (hreachable.tail (.request hsuspended r)) (hsuspended.request r)
      hbackground htask
      (hremains.request r) hafter
  | ended hreachable hdone hbackground htask hresults =>
    exact .ended hreachable hdone hbackground htask
      (hresults.trans (r.results_apply s.control).symm)
  | overflowed hreachable hbusy hbackground htask hresults =>
    exact .overflowed hreachable hbusy hbackground htask
      (hresults.trans (r.results_apply s.control).symm)

/-- Time alone does nothing to a run. -/
theorem atTime (h : Follows setting c board seed s) (clock : Nat) :
    Follows setting c board seed (s.withStage (s.stage.atTime clock)) := by
  cases h with
  | beginning hbackground htask hcontrol => exact .beginning hbackground htask hcontrol
  | suspended hreachable hsuspended hbackground htask hremains hcontrol =>
    exact .suspended hreachable hsuspended hbackground htask hremains hcontrol
  | ended hreachable hdone hbackground htask hresults =>
    exact .ended hreachable hdone hbackground htask hresults
  | overflowed hreachable hbusy hbackground htask hresults =>
    exact .overflowed hreachable hbusy hbackground htask hresults

/-- A session follows what is played of its run. -/
theorem of_reaches {requests : List Request} {m : Moment} {wake : Nat}
    {program : RunProgram RunCompletion} (hreachable : Reachable (.initial c board seed requests) m)
    (hbackground : s.background = some ⟨wake, program⟩) (htask : s.task = .active)
    (hwake : wake < moment)
    (hplayed : Reaches setting.callDepthLimit m
      ((s.stage.atTime wake).proceedUntil setting moment program)) :
    Follows setting c board seed (s.advance setting moment) := by
  rw [Session.advance, hbackground]
  dsimp only
  rw [if_pos hwake]
  generalize (s.stage.atTime wake).proceedUntil setting moment program = played at hplayed ⊢
  cases hplayed with
  | @ended m' result stage hlater hdone hcontrol =>
    have hsettled : s.task.settle (.ok result.1) = .done (.ok result.1) := by
      rw [htask]
      rfl
    have hresults : m'.control.results =
        (Session.endRun stage (.result result)).2.control.results := by
      rw [hcontrol]
      rfl
    exact .ended (hreachable.trans hlater) hdone rfl hsettled hresults
  | @overflowed m' stage hlater hbusy hcontrol =>
    have hsettled : s.task.settle (.error .overflow) = .done (.error .overflow) := by
      rw [htask]
      rfl
    have hresults : m'.control.results = (Session.endRun stage .overflow).2.control.results := by
      rw [hcontrol]
      rfl
    exact .overflowed (hreachable.trans hlater) hbusy rfl hsettled hresults
  | suspended hlater hsuspended hremains hcontrol =>
    exact .suspended (hreachable.trans hlater) hsuspended rfl htask hremains hcontrol

theorem advance (h : Follows setting c board seed s) (moment : Nat) :
    Follows setting c board seed (s.advance setting moment) := by
  have hstill : ∀ {wake : Nat} {program : RunProgram RunCompletion},
      s.background = some ⟨wake, program⟩ → ¬ wake < moment → s.advance setting moment = s := by
    intro wake program hbackground hwake
    rw [Session.advance, hbackground]
    exact if_neg hwake
  cases h with
  | @beginning requests wake hbackground htask hcontrol =>
    by_cases hwake : wake < moment
    · exact of_reaches .refl hbackground htask hwake
        (reaches_proceedUntil_elaborate
          (Course.through board.flattened (c.startingContext board seed)) rfl rfl
          hcontrol.symm)
    · rw [hstill hbackground hwake]
      exact .beginning hbackground htask hcontrol
  | @suspended requests m later hreachable hsuspended hbackground htask hremains hcontrol =>
    by_cases hwake : later.wake < moment
    · exact of_reaches hreachable hbackground htask hwake (reaches_proceedUntil hremains hcontrol)
    · rw [hstill hbackground hwake]
      exact .suspended hreachable hsuspended hbackground htask hremains hcontrol
  | ended hreachable hdone hbackground htask hresults =>
    have hend : s.advance setting moment = s := by
      rw [Session.advance, hbackground]
    rw [hend]
    exact .ended hreachable hdone hbackground htask hresults
  | overflowed hreachable hbusy hbackground htask hresults =>
    have hend : s.advance setting moment = s := by
      rw [Session.advance, hbackground]
    rw [hend]
    exact .overflowed hreachable hbusy hbackground htask hresults

end Follows

/-- **A session whose run was started follows its moments**, whatever is requested and
however long it waits. -/
theorem follows_of_turns (hrunning : s.control.isRunning = false)
    (h : Relation.ReflTransGen (Turn setting) (s.start setting board seed) s') :
    Follows setting s.control board seed s' := by
  induction h with
  | refl =>
    rw [Session.start, Session.begin?_eq setting board seed hrunning]
    have hcontrol : s.control.started = Request.applyAll [] s.control.started := rfl
    exact .beginning rfl rfl hcontrol
  | tail _ hturn ih =>
    cases hturn with
    | request r => exact ih.request r
    | elapse duration => exact (ih.advance _).atTime _

/-- The results that a session shows, and in the end the outcomes of its run, are those of a moment.
If the run ends without outcomes, that is because of an overflow in an action. -/
theorem exists_reachable_of_turns (hrunning : s.control.isRunning = false)
    (h : Relation.ReflTransGen (Turn setting) (s.start setting board seed) s') :
    ∃ requests m, Reachable (.initial s.control board seed requests) m ∧ m.control.results =
      s'.control.results ∧
      (s'.background = none →
        (∃ outcomes ctx, m.rest = .done (outcomes, ctx) ∧ s'.task = .done (.ok outcomes)) ∨
        m.performing = true ∧ s'.task = .done (.error .overflow)) := by
  cases follows_of_turns hrunning h with
  | @beginning requests wake hbackground htask hcontrol =>
    refine ⟨requests, _, .refl, congrArg Control.results hcontrol.symm, fun hnone => ?_⟩
    rw [hbackground] at hnone
    cases hnone
  | @suspended requests m later hreachable hsuspended hbackground htask hremains hcontrol =>
    refine ⟨requests, m, hreachable, congrArg Control.results hcontrol, fun hnone => ?_⟩
    rw [hbackground] at hnone
    cases hnone
  | @ended requests m outcomes ctx hreachable hdone hbackground htask hresults =>
    exact ⟨requests, m, hreachable, hresults, fun _ => .inl ⟨outcomes, ctx, hdone, htask⟩⟩
  | @overflowed requests m hreachable hbusy hbackground htask hresults =>
    exact ⟨requests, m, hreachable, hresults, fun _ => .inr ⟨hbusy, htask⟩⟩

end Interleaving

end ActionBoard
