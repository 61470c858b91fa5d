import ActionBoard.Proofs.Engine.Boundary
import ActionBoard.Proofs.Engine.Checked
import ActionBoard.Proofs.Engine.Rejection

/-!
# What is disabled has no effect

A board may be pruned: its disabled actions are taken out of its rows, and all actions out of its
disabled rows.  A run does not show whether its board was pruned before.  The disabled parts are
left out in more than one place, once where the actions of a run are listed and again where a row
is called, and the check of an action itself comes last; what has to be seen is that these places
leave out the same.

Pruning changes the context that is handed from action to action, and nothing else.  So the two runs
are the same program but for the contexts in it, and the proof follows the program: from a call of a
row, by induction on how many more calls may be opened, to the actions of a run, by induction on
their list.  What the two programs have in common is that they ask the same questions
(`Dialogue.Agree`), and this is all that a stage or a session gets to see of them.

* `Board.pruned`, `Context.pruned`: without what is disabled.
* `agree_dispatchWithin`, `agree_runBoard`: the two programs.
* `Session.Twin`: two sessions with runs that agree, and nothing else to tell them apart.
  `Session.Twin.move` is the step, whatever the next move is.
* `Session.disabled_has_no_effect`: the runs of a board and of the pruned board, among any moves.

A handler that looks at the context beyond the variables may well tell the two boards apart.  The
standard handlers do not, which is where the hypothesis on the registry comes in.
-/

namespace ActionBoard

open Interleaving (Request)

/-! ## Pruning -/

/-- Without the disabled actions; without all of them if the row is disabled itself. -/
def Row.pruned (row : Row) : Row :=
  { row with actions := if row.enabled then row.enabledActions else [] }

/-- With every row pruned. -/
def Board.pruned (board : Board) : Board :=
  { board with rows := board.rows.map Row.pruned }

/-- With the board pruned in which rows are looked up. -/
def Context.pruned (ctx : Context) : Context :=
  { ctx with board := ctx.board.map Board.pruned }

theorem Row.enabledActions_pruned {row : Row} (h : row.enabled = true) :
    row.pruned.enabledActions = row.enabledActions := by
  simp [pruned, h, enabledActions]

/-- The actions that a run goes through are those of the pruned board. -/
theorem Board.flattened_pruned (board : Board) : board.pruned.flattened = board.flattened := by
  have hrows : board.pruned.runningRows = board.runningRows.map Row.pruned := by
    rw [runningRows, runningRows, pruned, List.filter_map]
    rfl
  have hactions : ∀ row ∈ board.runningRows, row.pruned.enabledActions = row.enabledActions := by
    intro row hrow
    obtain ⟨-, hruns⟩ := List.mem_filter.mp hrow
    exact Row.enabledActions_pruned (Bool.and_eq_true_iff.mp hruns).1
  rw [flattened, flattened, hrows, List.flatMap_map]
  exact List.flatMap_congr hactions

theorem Board.row?_pruned (board : Board) (id : String) :
    board.pruned.row? id = (board.row? id).map Row.pruned := by
  rw [row?, row?, pruned, List.find?_map]
  rfl

theorem Control.startingContext_pruned (c : Control) (board : Board) (seed : Variables) :
    c.startingContext board.pruned seed = (c.startingContext board seed).pruned := rfl

/-- The row that an action calls is called on the pruned board as well, where it is pruned; if it
cannot be called, it cannot be called there for the same reason. -/
theorem calledRow_pruned (a : Action) (ctx : Context) :
    calledRow a ctx.pruned = (calledRow a ctx).map Row.pruned := by
  rw [calledRow, calledRow, Context.pruned]
  cases ctx.board with
  | none => rfl
  | some board =>
    dsimp only [Option.map_some]
    rw [Board.row?_pruned]
    cases board.row? (a.metaTextOr "row_id" "") with
    | none => rfl
    | some row =>
      have henabled : row.pruned.enabled = row.enabled := rfl
      dsimp only [Option.map_some]
      rw [henabled]
      split <;> rfl

theorem enabled_of_calledRow {a : Action} {ctx : Context} {row : Row}
    (h : calledRow a ctx = .ok row) : row.enabled = true := by
  rw [calledRow] at h
  split at h
  · cases h
  · split at h
    · cases h
    · split at h
      · cases h
        assumption
      · cases h

/-! ## Programs on a board and on the pruned board -/

variable {ports : PortSet} {settings : EngineSettings}

/-- A registry with the standard handlers, in whatever order they go through variables. -/
def Registry.IsStandard (ports : PortSet) (settings : EngineSettings)
    (registry : Registry) : Prop :=
  ∃ enumeration, registry = .standard enumeration ports settings

/-- The answers that are given where every kind has its standard handler. -/
def StandardAnswers (ports : PortSet) (settings : EngineSettings) :
    (request : RunRequest) → request.Answer → Prop
  | .handlerFor kind, handler? =>
    ∃ enumeration, handler? = some (Handler.standard enumeration ports settings kind)
  | _, _ => True

/-- The same result, but for what is disabled on the board of the context. -/
def SameButPruned {α : Type} (first second : α × Context) : Prop :=
  second = (first.1, first.2.pruned)

/-- Dispatching agrees on a board and on the pruned board. -/
def AgreesPruned (ports : PortSet) (settings : EngineSettings)
    (dispatch : Action → Context → RunProgram (Outcome × Context)) : Prop :=
  ∀ a ctx, Dialogue.Agree (StandardAnswers ports settings) SameButPruned (dispatch a ctx)
    (dispatch a ctx.pruned)

theorem agree_runHandling (program : Handling Outcome) (a : Action) (ctx : Context) :
    Dialogue.Agree (StandardAnswers ports settings) SameButPruned (runHandling program a ctx)
      (runHandling program a ctx.pruned) :=
  Dialogue.Agree.behind _ fun _ => .done rfl

theorem agree_dispatchEach {dispatch : Action → Context → RunProgram (Outcome × Context)}
    (h : AgreesPruned ports settings dispatch) (actions : List Action) (ctx : Context) :
    Dialogue.Agree (StandardAnswers ports settings) SameButPruned
      (dispatchEach dispatch actions ctx)
      (dispatchEach dispatch actions ctx.pruned) := by
  induction actions generalizing ctx with
  | nil => exact .done rfl
  | cons a rest ih =>
    rw [dispatchEach, dispatchEach]
    refine (h a ctx).bind ?_
    rintro ⟨outcome, after⟩ _ rfl
    refine (ih after).bind ?_
    rintro ⟨outcomes, last⟩ _ rfl
    exact .done rfl

theorem agree_callRow {dispatch : Action → Context → RunProgram (Outcome × Context)}
    (h : AgreesPruned ports settings dispatch) (a : Action) {row : Row} (hrow : row.enabled = true)
    (ctx : Context) :
    Dialogue.Agree (StandardAnswers ports settings) SameButPruned (callRow dispatch a row ctx)
      (callRow dispatch a row.pruned ctx.pruned) := by
  rw [callRow, callRow, Row.enabledActions_pruned hrow]
  refine (agree_dispatchEach h row.enabledActions ctx.enterCall).bind ?_
  rintro ⟨outcomes, last⟩ _ rfl
  exact .done rfl

/-- A standard handler sees no more of a context than the variables, or calls a row. -/
theorem agree_handleBy {call : Action → Row → Context → RunProgram (Outcome × Context)}
    (hcall : ∀ a row ctx, row.enabled = true →
      Dialogue.Agree (StandardAnswers ports settings) SameButPruned (call a row ctx)
        (call a row.pruned ctx.pruned))
    (enumeration : Enumeration) (kind : ActionKind) (a : Action) (ctx : Context) :
    Dialogue.Agree (StandardAnswers ports settings) SameButPruned
      (handleBy call (Handler.standard enumeration ports settings kind) a ctx)
      (handleBy call (Handler.standard enumeration ports settings kind) a ctx.pruned) := by
  cases kind with
  | runRow =>
    rw [Handler.standard_runRow, handleBy, handleBy, calledRow_pruned]
    cases hrow : calledRow a ctx with
    | error outcome => exact .done rfl
    | ok row => exact hcall a row ctx (enabled_of_calledRow hrow)
  | _ => exact agree_runHandling _ a ctx

theorem agree_dispatchBy {call : Action → Row → Context → RunProgram (Outcome × Context)}
    (hcall : ∀ a row ctx, row.enabled = true →
      Dialogue.Agree (StandardAnswers ports settings) SameButPruned (call a row ctx)
        (call a row.pruned ctx.pruned)) :
    AgreesPruned ports settings (dispatchBy call) := by
  intro a ctx
  rw [dispatchBy_eq_ask, dispatchBy_eq_ask]
  refine .ask fun handler? hstandard => ?_
  obtain ⟨enumeration, rfl⟩ : ∃ enumeration,
      handler? = some (Handler.standard enumeration ports settings a.kind) := hstandard
  exact agree_handleBy hcall enumeration a.kind a ctx.markDispatched

/-- **Dispatching an action asks the same on the pruned board.**  The induction is on how many more
calls of rows may be opened. -/
theorem agree_dispatchWithin (limit remaining : Nat) :
    AgreesPruned ports settings (dispatchWithin limit remaining) := by
  induction remaining with
  | zero => exact agree_dispatchBy fun a row ctx _ => .done rfl
  | succ remaining ih => exact agree_dispatchBy fun a row ctx hrow => agree_callRow ih a hrow ctx

/-- Programs that agree take the same time. -/
theorem agree_timedFrom {α β : Type} {expected : (request : RunRequest) → request.Answer → Prop}
    {R : α → β → Prop}
    {first : RunProgram α} {second : RunProgram β} (h : Dialogue.Agree expected R first second)
    (spent : Nat) :
    Dialogue.Agree expected (fun a b => R a.1 b.1 ∧ a.2 = b.2) (first.timedFrom spent)
      (second.timedFrom spent) := by
  induction h generalizing spent with
  | done hresult => exact .done ⟨hresult, rfl⟩
  | ask _ ih => exact .ask fun answer hanswer => ih answer hanswer _

theorem agree_execute (limit : Nat) : AgreesPruned ports settings (execute limit) := by
  intro a ctx
  rw [execute, execute]
  split
  · refine Dialogue.Agree.behind _ fun _ => ?_
    have hdispatch :
        Dialogue.Agree (StandardAnswers ports settings) SameButPruned (dispatch limit a ctx)
        (dispatch limit a ctx.pruned) := agree_dispatchWithin limit _ a ctx
    refine (agree_timedFrom hdispatch 0).bind ?_
    rintro ⟨performed, spent⟩ ⟨performed', spent'⟩ ⟨hperformed, rfl⟩
    exact Dialogue.Agree.behind _ fun _ => .done hperformed
  · exact .done rfl

theorem agree_runActions (limit : Nat) (actions : List Action) (ctx : Context) :
    Dialogue.Agree (StandardAnswers ports settings) SameButPruned (runActions limit actions ctx)
      (runActions limit actions ctx.pruned) := by
  induction actions generalizing ctx with
  | nil => exact .done rfl
  | cons a rest ih =>
    rw [runActions_cons, runActions_cons]
    refine .ask fun stop _ => ?_
    split
    · exact .done rfl
    · show Dialogue.Agree _ _ (if ctx.vars.breakRequested = true then _ else _)
        (if ctx.vars.breakRequested = true then _ else _)
      split
      · exact .done rfl
      · have hskip : ctx.pruned.vars.takeSkip? = ctx.vars.takeSkip? := rfl
        rw [hskip]
        cases ctx.vars.takeSkip? with
        | some vars => exact ih (ctx.withVariables vars)
        | none =>
          refine .ask fun _ _ => .ask fun stop _ => ?_
          split
          · exact .done rfl
          · refine (agree_execute limit a ctx).bind ?_
            rintro ⟨outcome, after⟩ _ rfl
            refine .ask fun _ _ => (ih after).bind ?_
            rintro ⟨outcomes, last⟩ _ rfl
            exact .done rfl

/-- **The run of the pruned board asks the same questions.** -/
theorem agree_runBoard (limit : Nat) (board : Board) (ctx : Context) :
    Dialogue.Agree (StandardAnswers ports settings) SameButPruned (runBoard limit board ctx)
      (runBoard limit board.pruned ctx.pruned) := by
  rw [runBoard, runBoard, Board.flattened_pruned]
  exact agree_runActions limit board.flattened ctx

/-! ## What a stage gets to see -/

variable {σ α β : Type} {setting : Setting σ}

/-- The ends of two runs with the same outcomes and the same variables, or both without any. -/
def SameOutcomes : RunCompletion → RunCompletion → Prop :=
  Completion.Both fun first second => second.1 = first.1 ∧ second.2.vars = first.2.vars

theorem SameOutcomes.endRun_eq {first second : RunCompletion} (h : SameOutcomes first second)
    (stage : Stage σ) : Session.endRun stage second = Session.endRun stage first := by
  cases h with
  | @result first second hsame =>
    obtain ⟨outcomes, ctx⟩ := first
    obtain ⟨_, ctx'⟩ := second
    obtain ⟨rfl, hvars⟩ : _ = outcomes ∧ ctx'.vars = ctx.vars := hsame
    rw [Session.endRun, Session.endRun, Control.finish, Control.finish, hvars]
  | overflow => rfl

theorem SameOutcomes.refl (ended : RunCompletion) : SameOutcomes ended ended := by
  cases ended with
  | result ran => exact .result ⟨rfl, rfl⟩
  | overflow => exact .overflow

/-- Two programs that go on at the same time, and agree where every kind has its
standard handler. -/
structure Suspended.Agrees (ports : PortSet) (settings : EngineSettings) (R : α → β → Prop)
    (first : Suspended α) (second : Suspended β) : Prop where
  wake : second.wake = first.wake
  rest : Dialogue.Agree (StandardAnswers ports settings) R first.rest second.rest

/-- What two programs that agree come to on a stage with the standard handlers. -/
structure SamePlay (ports : PortSet) (settings : EngineSettings) (R : α → β → Prop)
    (first : (α ⊕ Suspended α) × Stage σ) (second : (β ⊕ Suspended β) × Stage σ) : Prop where
  result : Sum.LiftRel R (Suspended.Agrees ports settings R) first.1 second.1
  stage : second.2 = first.2
  registry : first.2.registry.IsStandard ports settings

namespace Stage

variable {R : α → β → Prop} {first : RunProgram α} {second : RunProgram β} {stage : Stage σ}

theorem answer_registry (devices : Devices σ) (request : RunRequest) (stage : Stage σ) :
    (answer devices request stage).2.registry = stage.registry := by
  cases request with
  | effect e => exact answer_effect_registry e stage
  | _ => rfl

/-- Where every kind has its standard handler the answers are as expected. -/
theorem standardAnswers_answer (hstage : stage.registry.IsStandard ports settings)
    (devices : Devices σ) (request : RunRequest) :
    StandardAnswers ports settings request (answer devices request stage).1 := by
  cases request with
  | handlerFor kind =>
    obtain ⟨enumeration, hregistry⟩ := hstage
    refine ⟨enumeration, ?_⟩
    show stage.registry.handler? kind = _
    rw [hregistry]
    rfl
  | _ => trivial

theorem proceedOnce_agree (h : Dialogue.Agree (StandardAnswers ports settings) R first second)
    (hstage : stage.registry.IsStandard ports settings) :
    SamePlay ports settings R (stage.proceedOnce setting first)
      (stage.proceedOnce setting second) := by
  cases h with
  | done hresult => exact ⟨.inl hresult, rfl, hstage⟩
  | @ask request first second hrest =>
    cases request using RunRequest.byTiming with
    | wait duration => exact ⟨.inr ⟨rfl, hrest () trivial⟩, rfl, hstage⟩
    | gate =>
      rw [proceedOnce, proceedOnce]
      split
      · exact ⟨.inr ⟨rfl, hrest () trivial⟩, rfl, hstage⟩
      · exact ⟨.inr ⟨rfl, .ask hrest⟩, rfl, hstage⟩
    | immediate request himmediate =>
      rw [proceedOnce_of_isImmediate himmediate, proceedOnce_of_isImmediate himmediate]
      refine ⟨.inr ⟨rfl, hrest _ (standardAnswers_answer hstage setting.devices request)⟩, rfl, ?_⟩
      rwa [answer_registry]

/-- **A stage does not tell programs apart that agree.** -/
theorem proceedUntil_agree (h : Dialogue.Agree (StandardAnswers ports settings) R first second)
    (moment : Nat) (hstage : stage.registry.IsStandard ports settings) :
    SamePlay ports settings R (stage.proceedUntil setting moment first)
      (stage.proceedUntil setting moment second) := by
  induction h generalizing stage with
  | done hresult => exact ⟨.inl hresult, rfl, hstage⟩
  | @ask request first second hrest ih =>
    cases request using RunRequest.byTiming with
    | wait duration =>
      rw [proceedUntil, proceedUntil]
      split
      · exact ih () trivial hstage
      · exact ⟨.inr ⟨rfl, hrest () trivial⟩, rfl, hstage⟩
    | gate =>
      rw [proceedUntil, proceedUntil]
      split
      · exact ih () trivial hstage
      · exact ⟨.inr ⟨rfl, .ask hrest⟩, rfl, hstage⟩
    | immediate request himmediate =>
      rw [proceedUntil_of_isImmediate himmediate, proceedUntil_of_isImmediate himmediate]
      refine ih _ (standardAnswers_answer hstage setting.devices request) ?_
      rwa [answer_registry]

end Stage

/-! ## What a session gets to see -/

namespace Session

/-- Two sessions on the same stage, with the standard handlers, whose runs in the
background agree. -/
structure Twin (ports : PortSet) (settings : EngineSettings) (s t : Session σ) : Prop where
  stage : t.stage = s.stage
  registry : s.stage.registry.IsStandard ports settings
  task : t.task = s.task
  background : Option.Rel (Suspended.Agrees ports settings SameOutcomes) s.background t.background

theorem endRun_registry (stage : Stage σ) (completion : RunCompletion) :
    (endRun stage completion).2.registry = stage.registry := by
  cases completion with
  | result ran => rfl
  | overflow => rfl

namespace Twin

variable {s t : Session σ}

theorem refl (hs : s.stage.registry.IsStandard ports settings) : Twin ports settings s s where
  stage := rfl
  registry := hs
  task := rfl
  background := by
    cases s.background with
    | none => exact .none
    | some suspended => exact .some ⟨rfl, .refl SameOutcomes.refl suspended.rest⟩

theorem control (h : Twin ports settings s t) : t.control = s.control :=
  congrArg Stage.control h.stage

/-- Both sessions with another stage. -/
theorem withStage (h : Twin ports settings s t) {stage : Stage σ}
    (hstage : stage.registry.IsStandard ports settings) :
    Twin ports settings (s.withStage stage) (t.withStage stage) :=
  ⟨rfl, hstage, h.task, h.background⟩

theorem settled (h : Twin ports settings s t)
    {played played' : (RunCompletion ⊕ Suspended RunCompletion) × Stage σ}
    (hplayed : SamePlay ports settings SameOutcomes played played') :
    Twin ports settings (s.settled played) (t.settled played') := by
  obtain ⟨result, stage⟩ := played
  obtain ⟨result', stage'⟩ := played'
  obtain ⟨hresult, hstage, hregistry⟩ := hplayed
  obtain rfl : stage' = stage := hstage
  cases hresult with
  | @inl first second hsame =>
    rw [Session.settled, Session.settled, hsame.endRun_eq, h.task]
    exact ⟨rfl, (endRun_registry stage' first).symm ▸ hregistry, rfl, .none⟩
  | inr hlater => exact ⟨rfl, hregistry, h.task, .some hlater⟩

/-- No run goes on in either session, or runs that agree in both. -/
theorem background_cases (h : Twin ports settings s t) :
    s.background = none ∧ t.background = none ∨
      ∃ first second, s.background = some first ∧ t.background = some second ∧
        first.Agrees ports settings SameOutcomes second := by
  have hbackground := h.background
  generalize s.background = first at hbackground ⊢
  generalize t.background = second at hbackground ⊢
  cases hbackground with
  | none => exact .inl ⟨rfl, rfl⟩
  | some hagrees => exact .inr ⟨_, _, rfl, rfl, hagrees⟩

theorem go (h : Twin ports settings s t) : Twin ports settings (s.go setting) (t.go setting) := by
  obtain ⟨hs, ht⟩ | ⟨first, second, hs, ht, hagrees⟩ := h.background_cases
  · rwa [go_of_eq_none hs, go_of_eq_none ht]
  · rw [go_of_eq_some hs, go_of_eq_some ht, hagrees.wake, h.stage]
    exact h.settled (Stage.proceedOnce_agree hagrees.rest h.registry)

theorem elapse (h : Twin ports settings s t) (duration : Nat) :
    Twin ports settings (s.elapse setting duration) (t.elapse setting duration) := by
  have hadvance : ∀ moment,
      Twin ports settings (s.advance setting moment) (t.advance setting moment) := by
    intro moment
    obtain ⟨hs, ht⟩ | ⟨first, second, hs, ht, hagrees⟩ := h.background_cases
    · rwa [advance_of_eq_none hs, advance_of_eq_none ht]
    · by_cases hwake : first.wake < moment
      · have hwake' : second.wake < moment := hagrees.wake ▸ hwake
        rw [advance_eq_settled hs hwake, advance_eq_settled ht hwake', hagrees.wake, h.stage]
        exact h.settled (Stage.proceedUntil_agree hagrees.rest moment h.registry)
      · have hle : moment ≤ first.wake := Nat.not_lt.mp hwake
        rwa [advance_of_le hs hle, advance_of_le ht (hagrees.wake ▸ hle)]
  have hafter := hadvance (s.stage.clock + duration)
  rw [Session.elapse, Session.elapse, h.stage, hafter.stage]
  exact hafter.withStage hafter.registry

/-- A session does not tell programs apart that agree, and that it plays in place. -/
theorem perform {R : α → β → Prop} {first : RunProgram α} {second : RunProgram β}
    (hagree : Dialogue.Agree (StandardAnswers ports settings) R first second)
    (h : Twin ports settings s t) :
    Option.Rel R (s.perform setting first).1 (t.perform setting second).1 ∧
      Twin ports settings (s.perform setting first).2 (t.perform setting second).2 := by
  induction hagree generalizing s t with
  | done hresult => exact ⟨.some hresult, h⟩
  | @ask request first second _ ih =>
    cases request using RunRequest.byTiming with
    | wait duration => exact ih () trivial (h.elapse duration)
    | gate =>
      rw [Session.perform, Session.perform, h.control]
      split
      · exact ih () trivial h
      · exact ⟨.none, h⟩
    | immediate request himmediate =>
      rw [perform_of_isImmediate himmediate, perform_of_isImmediate himmediate, h.stage]
      refine ih _ (Stage.standardAnswers_answer h.registry setting.devices request) (h.withStage ?_)
      rw [Stage.answer_registry]
      exact h.registry

/-! ## Moves -/

/-- Runs that agree give the same. -/
theorem undertake {first second : RunProgram RunCompletion}
    (hagree : Dialogue.Agree (StandardAnswers ports settings) SameOutcomes first second)
    (h : Twin ports settings s t) (inPlace : Bool) :
    (t.undertake setting second inPlace).1 = (s.undertake setting first inPlace).1 ∧
      Twin ports settings (s.undertake setting first inPlace).2 (t.undertake setting second
        inPlace).2 := by
  cases inPlace with
  | false =>
    have hclock : t.stage.clock = s.stage.clock := congrArg Stage.clock h.stage
    exact ⟨rfl, h.stage, h.registry, rfl, .some ⟨hclock, hagree⟩⟩
  | true =>
    obtain ⟨hresult, hafter⟩ := h.perform hagree
    rw [Session.undertake, Session.undertake, if_pos rfl, if_pos rfl]
    generalize s.perform setting first = played at hresult hafter ⊢
    generalize t.perform setting second = played' at hresult hafter ⊢
    obtain ⟨result, after⟩ := played
    obtain ⟨result', after'⟩ := played'
    cases hresult with
    | none => exact ⟨rfl, hafter⟩
    | @some ended ended' hsame =>
      dsimp only
      rw [hafter.stage, hsame.endRun_eq]
      exact ⟨rfl, hafter.withStage ((endRun_registry after.stage ended).symm ▸ hafter.registry)⟩

theorem startRun (h : Twin ports settings s t) (board : Board) {pruned : Board}
    (hpruned : pruned = board ∨ pruned = board.pruned) (seed : Variables) (inPlace : Bool) :
    (t.move setting (.run pruned seed inPlace)).1 = (s.move setting (.run board seed inPlace)).1 ∧
      Twin ports settings (s.move setting (.run board seed inPlace)).2
        (t.move setting (.run pruned seed inPlace)).2 := by
  cases hrunning : s.control.isRunning with
  | true =>
    have hrunning' : t.control.isRunning = true := h.control ▸ hrunning
    rw [move_run_of_isRunning hrunning, move_run_of_isRunning hrunning']
    exact ⟨rfl, h⟩
  | false =>
    have hrunning' : t.control.isRunning = false := h.control ▸ hrunning
    have hstarted :
        Twin ports settings (s.request Control.started) (t.request Control.started) := by
      rw [Session.request, Session.request, h.stage, h.control]
      exact h.withStage h.registry
    have hagree : Dialogue.Agree (StandardAnswers ports settings) SameOutcomes
        (RunProgram.checked
          (runBoard setting.callDepthLimit board (s.control.startingContext board seed)))
        (RunProgram.checked
          (runBoard setting.callDepthLimit pruned (t.control.startingContext pruned seed))) := by
      rw [h.control]
      rcases hpruned with rfl | rfl
      · exact .refl SameOutcomes.refl _
      · rw [Control.startingContext_pruned]
        refine ((agree_runBoard _ board _).mono ?_).checked
        rintro ⟨outcomes, ctx⟩ _ rfl
        exact ⟨rfl, rfl⟩
    rw [move_run_of_idle hrunning, move_run_of_idle hrunning']
    exact hstarted.undertake hagree inPlace

/-- **Whatever the next move is, twin sessions give the same reply and stay twins.** -/
theorem move (h : Twin ports settings s t) (m : Move) :
    (t.move setting m).1 = (s.move setting m).1 ∧ Twin ports settings
      (s.move setting m).2 (t.move setting m).2 := by
  cases m with
  | run board seed inPlace => exact h.startRun board (.inl rfl) seed inPlace
  | request r =>
    refine ⟨rfl, ?_⟩
    show Twin ports settings (s.request r.apply) (t.request r.apply)
    rw [Session.request, Session.request, h.stage, h.control]
    exact h.withStage h.registry
  | look q =>
    refine ⟨?_, h⟩
    show t.look q = s.look q
    cases q with
    | task => exact congrArg Reply.task h.task
    | _ => rw [look, look, h.control]
  | abort =>
    refine ⟨rfl, ?_⟩
    show Twin ports settings s.abort t.abort
    rw [Session.abort, Session.abort, h.task]
    split
    · refine ⟨?_, h.registry, rfl, .none⟩
      rw [Session.request, Session.request, h.stage, h.control]
      rfl
    · exact ⟨h.stage, h.registry, rfl, h.background⟩
  | go => exact ⟨rfl, h.go⟩
  | elapse duration => exact ⟨rfl, h.elapse duration⟩

theorem moves (h : Twin ports settings s t) (list : List Move) :
    (t.moves setting list).1 = (s.moves setting list).1 ∧
      Twin ports settings (s.moves setting list).2 (t.moves setting list).2 := by
  induction list generalizing s t with
  | nil => exact ⟨rfl, h⟩
  | cons m rest ih =>
    obtain ⟨hreply, hafter⟩ := h.move m
    obtain ⟨hreplies, hend⟩ := ih hafter
    refine ⟨?_, hend⟩
    rw [Session.moves, Session.moves, hreply, hreplies]

end Twin

/-- **What is disabled has no effect.**  On an engine with the standard handlers the pruned board
runs as the board itself, in place or in the background, whatever is done with the engine
meanwhile, and in whatever order variables are put into texts: all replies are the same, and so is
the stage in the end, with its clock, its devices, everything that was done and when, the outcomes
and the variables. -/
theorem disabled_has_no_effect (setting : Setting σ) (s : Session σ) (enumeration : Enumeration)
    (hs : s.stage.registry = .standard enumeration ports settings) (board : Board)
    (seed : Variables) (inPlace : Bool) (during : List Move) :
    (s.moves setting (.run board.pruned seed inPlace :: during)).1 =
        (s.moves setting (.run board seed inPlace :: during)).1 ∧
      (s.moves setting (.run board.pruned seed inPlace :: during)).2.stage =
        (s.moves setting (.run board seed inPlace :: during)).2.stage := by
  let started (board : Board) : Session σ := (s.move setting (.run board seed inPlace)).2
  have hstart : (s.move setting (.run board.pruned seed inPlace)).1 =
      (s.move setting (.run board seed inPlace)).1 ∧
      Twin ports settings (started board) (started board.pruned) :=
    (Twin.refl ⟨enumeration, hs⟩).startRun board (.inr rfl) seed inPlace
  have hmoves : ((started board.pruned).moves setting during).1 =
      ((started board).moves setting during).1 ∧
      Twin ports settings
        ((started board).moves setting during).2 ((started board.pruned).moves setting during).2 :=
    hstart.2.moves during
  refine ⟨?_, hmoves.2.stage⟩
  rw [Session.moves, Session.moves, hstart.1, hmoves.1]

/-- A board that calls a row with a disabled action in it, and a disabled row. -/
def partlyDisabledBoard : Board where
  id := ""
  name := ""
  rows :=
    [{ Row.new "main" "" with
        actions :=
          [.disabled (.new "1" .log "off"),
            (Action.new "2" .runRow "").withMeta "row_id" (.string "sub"),
            (Action.new "3" .waitTime "").withMeta "wait_ms" (.nat 100),
            (Action.new "4" .runRow "").withMeta "row_id" (.string "off")] },
      { Row.new "sub" "" with
        subroutine := true, actions := [.new "5" .log "called", .disabled (.new "6" .log "off")] },
      { Row.new "off" "" with enabled := false, actions := [.new "7" .log "off"] }]
  createdAt := .epoch
  modifiedAt := .epoch

/-- Its run, which is paused while it waits and goes on later. -/
theorem disabled_has_no_effect_of_paused :
    let setting : Setting Unit := ⟨fun _ s => (.error (.unavailable ""), s), {}⟩
    let s : Session Unit := { stage := CallStack.idleStage }
    let during : List Move :=
      [.elapse 50, .request .pause, .elapse 100, .look .results, .request .resume, .elapse 100,
        .look .results]
    s.stage.registry = .standard .byName ⟨true, true, true, true⟩ {} ∧
      partlyDisabledBoard.actionCount = 7 ∧ partlyDisabledBoard.pruned.actionCount = 4 ∧
      (s.moves setting (.run partlyDisabledBoard.pruned ∅ false :: during)).1 =
          (s.moves setting (.run partlyDisabledBoard ∅ false :: during)).1 ∧
        (s.moves setting (.run partlyDisabledBoard.pruned ∅ false :: during)).2.stage =
          (s.moves setting (.run partlyDisabledBoard ∅ false :: during)).2.stage := by
  intro setting s during
  have hs : s.stage.registry = .standard .byName ⟨true, true, true, true⟩ {} := rfl
  exact ⟨hs, by decide, by decide, disabled_has_no_effect setting s .byName hs partlyDisabledBoard
    ∅ false during⟩

end Session

end ActionBoard
