import ActionBoard.Proofs.Engine.Background
import ActionBoard.Proofs.Engine.Inlining
import ActionBoard.Proofs.Handler.Requests

/-!
# Accounts of dispatches

A dispatch may dispatch other actions, and these again others, and conditions among them may ask
for a skip or a break at any depth.  Nobody looks at these requests before the outermost dispatch
is over.  What is found then is compared here with what happened, and for that it has to be
written down what happened: which actions were dispatched, inside of which calls, and which
decisions were taken.

* `Account`: a dispatch with the dispatches inside of it.
* `accountOf`: the account of a dispatch in a run against given answers.  It is made out of the
  program that runs, from the states between its parts, and not out of a second program.
* `Account.IsComplete`: every call is of the row of the board that its action names and has
  dispatched the enabled actions of that row, each once and in their order, a call that is refused
  is no success, and conditions have decided what they report.
* `Account.Tells`: the account agrees with the run: in the outcome, in the handlers that were looked
  up, and in the requests that are left in the variables.
* `tells_dispatchWithin`: the account of a dispatch tells it.

The lookups are why an account can be trusted: every dispatch begins with one, and nothing else
looks handlers up.  The proof is by induction on the calls that may still be opened, with an
induction on the actions of a called row inside.
-/

namespace ActionBoard

/-! ## The standard handlers throughout a run -/

section

variable {σ α β : Type} {answer : (q : RunRequest) → σ → q.Answer × σ}

/-- A state that comes after another one, whatever was asked in between. -/
def Later (answer : (q : RunRequest) → σ → q.Answer × σ) : σ → σ → Prop :=
  Relation.ReflTransGen fun s t => ∃ q, (answer q s).2 = t

theorem later_run (program : RunProgram α) (s : σ) : Later answer s (program.run answer s).2 := by
  induction program generalizing s with
  | done result => exact .refl
  | ask q rest ih => exact .head ⟨q, rfl⟩ (ih _ _)

/-- From a state on, every kind has its standard handler.  The order in which variables are
enumerated may be another one at every lookup. -/
def HasStandard (ports : PortSet) (settings : EngineSettings)
    (answer : (q : RunRequest) → σ → q.Answer × σ) (s : σ) : Prop :=
  ∀ t, Later answer s t → ∀ kind, ∃ enumeration,
    (answer (.handlerFor kind) t).1 = some (Handler.standard enumeration ports settings kind)

variable {enumeration : Enumeration} {ports : PortSet} {settings : EngineSettings} {s t : σ}

theorem HasStandard.later (h : HasStandard ports settings answer s) (ht : Later answer s t) :
    HasStandard ports settings answer t :=
  fun u hu => h u (ht.trans hu)

theorem HasStandard.next (h : HasStandard ports settings answer s) (q : RunRequest) :
    HasStandard ports settings answer (answer q s).2 :=
  h.later (.single ⟨q, rfl⟩)

theorem HasStandard.run (h : HasStandard ports settings answer s) (program : RunProgram α) :
    HasStandard ports settings answer (program.run answer s).2 :=
  h.later (later_run program s)

/-- A stage keeps its registry, so that a run on it finds the standard handlers if it
begins with them. -/
theorem Stage.hasStandard {devices : Devices σ} {stage : Stage σ}
    (h : stage.registry = .standard enumeration ports settings) :
    HasStandard ports settings (Stage.answer devices) stage := by
  have hregistry : ∀ other, Later (Stage.answer devices) stage other → other.registry =
      stage.registry := by
    intro other hother
    induction hother with
    | refl => rfl
    | tail _ hstep ih =>
      obtain ⟨q, rfl⟩ := hstep
      rw [← ih]
      cases q with
      | effect e => exact Stage.answer_effect_registry e _
      | _ => rfl
  intro other hother kind
  refine ⟨enumeration, ?_⟩
  show other.registry.handler? kind = _
  rw [hregistry other hother, h]
  rfl

/-! ## Lookups of handlers -/

/-- The kind whose handler is asked for. -/
def RunRequest.lookup? : RunRequest → Option ActionKind
  | handlerFor kind => some kind
  | _ => none

namespace RunProgram

/-- The kinds whose handlers are looked up in a run of the program, in their order. -/
def lookups (answer : (q : RunRequest) → σ → q.Answer × σ) (program : RunProgram α) (s : σ) :
    List ActionKind :=
  (program.asked answer s).filterMap RunRequest.lookup?

theorem lookups_bind (program : RunProgram α) (next : α → RunProgram β) (s : σ) :
    lookups answer (program.bind next) s =
      lookups answer program s ++ lookups answer (next (program.run answer s).1)
        (program.run answer s).2 := by
  rw [lookups, Dialogue.asked_bind, List.filterMap_append]
  rfl

theorem lookups_ask (q : RunRequest) (rest : q.Answer → RunProgram α) (s : σ) :
    lookups answer (.ask q rest) s = q.lookup?.toList ++ lookups answer (rest (answer q s).1)
      (answer q s).2 := by
  cases q <;> rfl

/-- A handler's own program looks no handler up. -/
theorem lookups_ofActivity (activity : Activity α) (s : σ) :
    lookups answer (ofActivity activity) s = [] := by
  induction activity generalizing s with
  | done result => rfl
  | ask e next ih => exact (lookups_ask _ _ s).trans (ih _ _)

theorem lookups_delay (duration : Nat) (s : σ) : lookups answer (delay duration) s = [] := by
  rw [delay]
  split <;> rfl

/-- Taking the time of a program asks for nothing. -/
theorem lookups_timedFrom (program : RunProgram α) (spent : Nat) (s : σ) :
    lookups answer (program.timedFrom spent) s = lookups answer program s := by
  induction program generalizing spent s with
  | done result => rfl
  | ask q rest ih =>
    rw [timedFrom, lookups_ask, lookups_ask]
    exact congrArg _ (ih _ _ _)

end RunProgram

end

/-! ## Accounts -/

/-- A dispatch: of an action that calls a row, with the dispatches inside of the call, or of any
other action, with the decision that it took if it took one. -/
inductive Account where
  | plain (a : Action) (outcome : Outcome) (decision : Option Decision)
  | call (a : Action) (row : Row) (outcome : Outcome) (within : List Account)

namespace Account

/-- The action that was dispatched. -/
def action : Account → Action
  | plain a _ _ => a
  | call a _ _ _ => a

def outcome : Account → Outcome
  | plain _ outcome _ => outcome
  | call _ _ outcome _ => outcome

mutual

/-- The actions that were dispatched at any depth, in their order, and what they decided. -/
def entries : Account → List (Action × Option Decision)
  | plain a _ decision => [(a, decision)]
  | call a _ _ within => (a, none) :: entriesOfAll within

def entriesOfAll : List Account → List (Action × Option Decision)
  | [] => []
  | account :: rest => account.entries ++ entriesOfAll rest

end

theorem entriesOfAll_eq_flatMap (accounts : List Account) :
    entriesOfAll accounts = accounts.flatMap entries := by
  induction accounts with
  | nil => rfl
  | cons account rest ih => rw [entriesOfAll, List.flatMap_cons, ih]

/-- The actions that were dispatched, at any depth. -/
def dispatched (account : Account) : List Action :=
  account.entries.map Prod.fst

/-- The decisions that were taken, at any depth. -/
def decisions (account : Account) : List Decision :=
  account.entries.filterMap Prod.snd

@[simp] theorem dispatched_plain (a : Action) (outcome : Outcome) (decision : Option Decision) :
    (plain a outcome decision).dispatched = [a] := rfl

@[simp] theorem decisions_plain (a : Action) (outcome : Outcome) (decision : Option Decision) :
    (plain a outcome decision).decisions = decision.toList := by
  cases decision <;> rfl

@[simp] theorem dispatched_call (a : Action) (row : Row) (outcome : Outcome)
    (within : List Account) :
    (call a row outcome within).dispatched = a :: within.flatMap dispatched := by
  rw [dispatched, entries, List.map_cons, entriesOfAll_eq_flatMap, List.map_flatMap]
  rfl

@[simp] theorem decisions_call (a : Action) (row : Row) (outcome : Outcome)
    (within : List Account) : (call a row outcome within).decisions = within.flatMap decisions := by
  rw [decisions, entries, List.filterMap_cons_none rfl, entriesOfAll_eq_flatMap,
    List.filterMap_flatMap]
  rfl

/-- Every call, at any depth, has dispatched the enabled actions of the row that it names, each once
and in their order, and its outcome is about all of them.  An action that should call a row and did
not was without success.  What was decided is what the outcome of the condition says. -/
inductive IsComplete (board : Board) : Account → Prop
  | plain {a : Action} {outcome : Outcome} {decision : Option Decision}
      (refused : a.kind = .runRow → outcome.success = false)
      (reported : ∀ d ∈ decision, ∃ holds,
        outcome = Handler.conditionOutcome a holds ∧ d = Handler.decisionFor a holds) :
      IsComplete board (plain a outcome decision)
  | call {a : Action} {row : Row} {within : List Account} (isCall : a.kind = .runRow)
      (found : board.row? (a.metaTextOr "row_id" "") = some row) (enabled : row.enabled = true)
      (actions : within.map action = row.enabledActions) (inner : ∀ account ∈ within,
        IsComplete board account) :
      IsComplete board (call a row (callOutcome a row (within.map outcome)) within)

end Account

/-! ## The account of a dispatch -/

section

variable {σ : Type} (limit : Nat) (ports : PortSet) (answer : (q : RunRequest) → σ → q.Answer × σ)

/-- What an action decides that is executed with these variables: only a condition decides anything,
and that depends on whether it holds. -/
def decisionOf (a : Action) (vars : Variables) (s : σ) : Option Decision :=
  if a.kind = .conditional then
    match ((RunProgram.ofActivity ((Handler.conditionHolds ports a).run vars)).run
      answer s).1.1 with
    | .ok holds => some (Handler.decisionFor a holds)
    | .error _ => none
  else none

/-- The row that an action calls, if it calls one. -/
def calleeOf (a : Action) (ctx : Context) : Option Row :=
  if a.kind = .runRow then (calledRow a ctx.markDispatched).toOption else none

/-- The accounts of actions that are dispatched one after the other. -/
def accountsOf (dispatch : Action → Context → RunProgram (Outcome × Context))
    (account : Action → Context → σ → Account) : List Action → Context → σ → List Account
  | [], _, _ => []
  | a :: rest, ctx, s =>
    let after := (dispatch a ctx).run answer s
    account a ctx s :: accountsOf dispatch account rest after.1.2 after.2

/-- The account of the dispatch of an action, where so many more calls of rows may be opened. -/
def accountOf : Nat → Action → Context → σ → Account
  | 0, a, ctx, s =>
    .plain a ((dispatchWithin limit 0 a ctx).run answer s).1.1
      (decisionOf ports answer a ctx.vars (answer (.handlerFor a.kind) s).2)
  | remaining + 1, a, ctx, s =>
    let outcome := ((dispatchWithin limit (remaining + 1) a ctx).run answer s).1.1
    let looked := (answer (.handlerFor a.kind) s).2
    match calleeOf a ctx with
    | some row =>
      .call a row outcome
        (accountsOf answer (dispatchWithin limit remaining) (accountOf remaining) row.enabledActions
          ctx.markDispatched.enterCall looked)
    | none => .plain a outcome (decisionOf ports answer a ctx.vars looked)

variable {limit ports answer} {remaining : Nat} {a : Action} {ctx : Context} {s : σ}

theorem accountOf_zero :
    accountOf limit ports answer 0 a ctx s =
      .plain a ((dispatchWithin limit 0 a ctx).run answer s).1.1
        (decisionOf ports answer a ctx.vars (answer (.handlerFor a.kind) s).2) := rfl

theorem accountOf_of_none (h : calleeOf a ctx = none) :
    accountOf limit ports answer remaining a ctx s =
      .plain a ((dispatchWithin limit remaining a ctx).run answer s).1.1
        (decisionOf ports answer a ctx.vars (answer (.handlerFor a.kind) s).2) := by
  cases remaining with
  | zero => rfl
  | succ remaining => simp only [accountOf, h]

theorem accountOf_of_some {row : Row} (h : calleeOf a ctx = some row) :
    accountOf limit ports answer (remaining + 1) a ctx s =
      .call a row ((dispatchWithin limit (remaining + 1) a ctx).run answer s).1.1
        (accountsOf answer (dispatchWithin limit remaining) (accountOf limit ports answer remaining)
          row.enabledActions ctx.markDispatched.enterCall (answer (.handlerFor a.kind) s).2) := by
  simp only [accountOf, h]

/-- An account is about the action that is dispatched. -/
theorem action_accountOf : (accountOf limit ports answer remaining a ctx s).action = a := by
  cases hcallee : calleeOf a ctx with
  | none => rw [accountOf_of_none hcallee, Account.action]
  | some row =>
    cases remaining with
    | zero => rfl
    | succ remaining => rw [accountOf_of_some hcallee, Account.action]

theorem map_action_accountsOf {dispatch : Action → Context → RunProgram (Outcome × Context)}
    {account : Action → Context → σ → Account} (h : ∀ a ctx s, (account a ctx s).action = a)
    (actions : List Action) (ctx : Context)
    (s : σ) : (accountsOf answer dispatch account actions ctx s).map Account.action = actions := by
  induction actions generalizing ctx s with
  | nil => rfl
  | cons a rest ih => rw [accountsOf, List.map_cons, h, ih]

/-! ## Accounts and what happened -/

/-- An account agrees with the run of a program from a context. -/
structure Account.Tells (board : Board) (answer : (q : RunRequest) → σ → q.Answer × σ)
    (account : Account)
    (program : RunProgram (Outcome × Context)) (ctx : Context) (s : σ) : Prop where
  outcome : (program.run answer s).1.1 = account.outcome
  lookups : program.lookups answer s = account.dispatched.map Action.kind
  requested : Variables.Requested account.decisions ctx.vars (program.run answer s).1.2.vars
  keeps : ctx.Keeps (program.run answer s).1.2
  complete : account.IsComplete board

/-- The same for several actions one after the other. -/
structure Account.TellEach (board : Board) (answer : (q : RunRequest) → σ → q.Answer × σ)
    (accounts : List Account)
    (program : RunProgram (List Outcome × Context)) (ctx : Context) (s : σ) : Prop where
  outcomes : (program.run answer s).1.1 = accounts.map outcome
  lookups : program.lookups answer s = (accounts.flatMap dispatched).map Action.kind
  requested :
    Variables.Requested (accounts.flatMap decisions) ctx.vars (program.run answer s).1.2.vars
  keeps : ctx.Keeps (program.run answer s).1.2
  complete : ∀ account ∈ accounts, account.IsComplete board

variable {enumeration : Enumeration} {settings : EngineSettings} {board : Board}

/-- A dispatch begins with the lookup of the standard handler. -/
theorem run_dispatchBy_of_found
    (hfound : (answer (.handlerFor a.kind) s).1 =
      some (Handler.standard enumeration ports settings a.kind))
    (call : Action → Row → Context → RunProgram (Outcome × Context)) (ctx : Context) :
    (dispatchBy call a ctx).run answer s =
      (handleBy call (Handler.standard enumeration ports settings a.kind) a
        ctx.markDispatched).run answer
        (answer (.handlerFor a.kind) s).2 := by
  rw [dispatchBy_eq_ask, Dialogue.run_ask, hfound]

theorem lookups_dispatchBy_of_found
    (hfound : (answer (.handlerFor a.kind) s).1 =
      some (Handler.standard enumeration ports settings a.kind))
    (call : Action → Row → Context → RunProgram (Outcome × Context)) (ctx : Context) :
    (dispatchBy call a ctx).lookups answer s =
      a.kind :: (handleBy call (Handler.standard enumeration ports settings a.kind) a
        ctx.markDispatched).lookups answer
        (answer (.handlerFor a.kind) s).2 := by
  rw [dispatchBy_eq_ask, RunProgram.lookups_ask, hfound]
  rfl

/-! ### Actions that call nothing -/

theorem decisionOf_of_ne (h : a.kind ≠ .conditional) (vars : Variables) :
    decisionOf ports answer a vars s = none :=
  if_neg h

/-- How the program of a handler ends, compared with the decision that the action takes: it makes
the request of this decision and no other, and reports it. -/
structure EndsWith (a : Action) (decision : Option Decision) (vars : Variables)
    (ending : Except HandlerError Outcome × Variables) : Prop where
  requested : Variables.Requested decision.toList vars ending.2
  reported : ∀ d ∈ decision, ∃ holds,
    outcomeOf a ending.1 = Handler.conditionOutcome a holds ∧ d = Handler.decisionFor a holds

/-- A condition is found out and then decided on, whatever names its metadata has. -/
theorem endsWith_conditional (hkind : a.kind = .conditional) (vars : Variables) (s : σ) :
    EndsWith a (decisionOf ports answer a vars s) vars
      ((RunProgram.ofActivity ((Handler.program enumeration ports settings a).run vars)).run
        answer s).1 := by
  have hsame : ((RunProgram.ofActivity ((Handler.conditionHolds ports a).run vars)).run answer
      s).1.2 = vars :=
    ((Handler.meets_conditionHolds ports (I := (· = vars)) a vars rfl).2.translate _ _ |>.run s).1
  rw [Handler.program_of_conditional enumeration ports settings hkind, Handler.conditional_run,
    RunProgram.ofActivity, Dialogue.translate_bind, Dialogue.run_bind, decisionOf, if_pos hkind]
  rw [RunProgram.ofActivity] at hsame ⊢
  generalize Dialogue.run answer
    (Dialogue.translate _ _ ((Handler.conditionHolds ports a).run vars)) s = found
    at hsame ⊢
  obtain ⟨⟨result, vars'⟩, s'⟩ := found
  obtain rfl : vars' = vars := hsame
  cases result with
  | error e => exact ⟨(Variables.SameRequests.refl vars').requested, fun d hd => by cases hd⟩
  | ok holds =>
    have hfollowed := Handler.follow_ensures (Handler.decisionFor a holds) vars'
    dsimp only
    rw [Dialogue.translate_bind, Dialogue.run_bind]
    refine ⟨?_, ?_⟩
    · show Variables.Requested [Handler.decisionFor a holds] vars' _
      rw [(hfollowed.translate _ _).run s']
      exact Variables.requested_apply (Handler.decisionFor a holds) vars'
    · rintro _ ⟨⟩
      exact ⟨holds, rfl, rfl⟩

theorem endsWith_program (hspares : a.SparesRequests) (vars : Variables) (s : σ) :
    EndsWith a (decisionOf ports answer a vars s) vars
      ((RunProgram.ofActivity ((Handler.program enumeration ports settings a).run vars)).run
        answer s).1 := by
  by_cases hkind : a.kind = .conditional
  · exact endsWith_conditional hkind vars s
  · rw [decisionOf_of_ne hkind]
    have hmeets := Handler.meets_program_of_spares enumeration ports settings hkind hspares vars
      (Variables.SameRequests.refl vars)
    exact ⟨(hmeets.2.translate _ _ |>.run s).1.requested, fun d hd => by cases hd⟩

/-- A dispatch that calls no row executes the program of the action. -/
theorem run_dispatchBy_of_ne (hkind : a.kind ≠ .runRow)
    (hfound : (answer (.handlerFor a.kind) s).1 =
      some (Handler.standard enumeration ports settings a.kind))
    (call : Action → Row → Context → RunProgram (Outcome × Context)) (ctx : Context) :
    (dispatchBy call a ctx).run answer s =
      let ended :=
        (RunProgram.ofActivity ((Handler.program enumeration ports settings a).run ctx.vars)).run
          answer
        (answer (.handlerFor a.kind) s).2
      ((outcomeOf a ended.1.1, ctx.markDispatched.withVariables ended.1.2), ended.2) := by
  obtain ⟨execute, hstandard, hprogram⟩ :=
    Handler.standard_eq_leaf enumeration ports settings a hkind
  rw [run_dispatchBy_of_found hfound, hstandard, handleBy, hprogram, runHandling, Dialogue.bind_eq,
    Dialogue.run_bind]
  rfl

theorem tells_of_ne (hkind : a.kind ≠ .runRow) (hspares : a.SparesRequests)
    (hs : HasStandard ports settings answer s)
    (call : Action → Row → Context → RunProgram (Outcome × Context)) (ctx : Context) :
    (Account.plain a ((dispatchBy call a ctx).run answer s).1.1
        (decisionOf ports answer a ctx.vars (answer (.handlerFor a.kind) s).2)).Tells board answer
      (dispatchBy call a ctx) ctx s := by
  obtain ⟨enumeration, hfound⟩ := hs s .refl a.kind
  obtain ⟨execute, hstandard, hprogram⟩ :=
    Handler.standard_eq_leaf enumeration ports settings a hkind
  have hhandled : handleBy call (Handler.standard enumeration ports settings a.kind) a
      ctx.markDispatched =
      (RunProgram.ofActivity ((Handler.program enumeration ports settings a).run ctx.vars)).bind
        fun ending =>
        .done (outcomeOf a ending.1, ctx.markDispatched.withVariables ending.2) := by
    rw [hstandard, handleBy, hprogram]
    rfl
  have hrun : (dispatchBy call a ctx).run answer s = _ := run_dispatchBy_of_ne hkind hfound call ctx
  have hends :
      EndsWith a (decisionOf ports answer a ctx.vars (answer (.handlerFor a.kind) s).2) ctx.vars
      ((RunProgram.ofActivity ((Handler.program enumeration ports settings a).run ctx.vars)).run
        answer
        (answer (.handlerFor a.kind) s).2).1 := endsWith_program hspares ctx.vars _
  refine ⟨rfl, ?_, ?_, ?_, .plain (fun h => absurd h hkind) ?_⟩
  · rw [lookups_dispatchBy_of_found hfound, hhandled, RunProgram.lookups_bind,
      RunProgram.lookups_ofActivity]
    rfl
  · rw [hrun, Account.decisions_plain]
    exact hends.requested
  · rw [hrun]
    exact ⟨rfl, rfl⟩
  · rw [hrun]
    exact hends.reported

/-- An action that would call a row, but ends at once. -/
theorem tells_of_done {call : Action → Row → Context → RunProgram (Outcome × Context)}
    (outcome : Outcome) (houtcome : outcome.success = false) (hkind : a.kind = .runRow)
    (hs : HasStandard ports settings answer s)
    (hdone : handleBy call .rowCall a ctx.markDispatched = .done (outcome, ctx.markDispatched)) :
    (Account.plain a ((dispatchBy call a ctx).run answer s).1.1
        (decisionOf ports answer a ctx.vars (answer (.handlerFor a.kind) s).2)).Tells board answer
      (dispatchBy call a ctx) ctx s := by
  obtain ⟨enumeration, hfound⟩ := hs s .refl a.kind
  have hne : a.kind ≠ .conditional := by
    rw [hkind]
    decide
  have hhandled : handleBy call (Handler.standard enumeration ports settings a.kind) a
      ctx.markDispatched =
      .done (outcome, ctx.markDispatched) := by
    rw [hkind, Handler.standard_runRow, hdone]
  rw [decisionOf_of_ne hne]
  refine ⟨rfl, ?_, ?_, ?_, .plain (fun _ => ?_) nofun⟩
  · rw [lookups_dispatchBy_of_found hfound, hhandled]
    rfl
  · rw [run_dispatchBy_of_found hfound, hhandled]
    exact (Variables.SameRequests.refl ctx.vars).requested
  · rw [run_dispatchBy_of_found hfound, hhandled]
    exact ⟨rfl, rfl⟩
  · rw [run_dispatchBy_of_found hfound, hhandled]
    exact houtcome

/-! ### Calls -/

theorem tells_each {dispatch : Action → Context → RunProgram (Outcome × Context)}
    {account : Action → Context → σ → Account} {actions : List Action}
    (h : ∀ b ∈ actions, ∀ (ctx : Context) (s : σ), ctx.board = some board →
      HasStandard ports settings answer s →
      (account b ctx s).Tells board answer (dispatch b ctx) ctx s)
    (hboard : ctx.board = some board) (hs : HasStandard ports settings answer s) :
    Account.TellEach board answer (accountsOf answer dispatch account actions ctx s)
      (dispatchEach dispatch actions ctx)
      ctx s := by
  induction actions generalizing ctx s with
  | nil => exact ⟨rfl, rfl, (Variables.SameRequests.refl ctx.vars).requested, .refl ctx, nofun⟩
  | cons b rest ih =>
    have hfirst := h b List.mem_cons_self ctx s hboard hs
    have hothers :=
      ih (fun c hc => h c (List.mem_cons_of_mem b hc)) (hfirst.keeps.board.trans hboard)
      (hs.run (dispatch b ctx))
    have hrun : (dispatchEach dispatch (b :: rest) ctx).run answer s = _ :=
      run_dispatchEach_cons dispatch b rest ctx s
    refine ⟨?_, ?_, ?_, ?_, ?_⟩
    · rw [hrun, accountsOf, List.map_cons, ← hfirst.outcome, ← hothers.outcomes]
    · rw [dispatchEach, Dialogue.bind_eq, RunProgram.lookups_bind, hfirst.lookups, accountsOf,
        List.flatMap_cons, List.map_append, ← hothers.lookups]
      congr 1
      show RunProgram.lookups answer (Dialogue.bind _ _) _ = _
      rw [RunProgram.lookups_bind]
      exact List.append_nil _
    · rw [hrun, accountsOf, List.flatMap_cons]
      exact hfirst.requested.append hothers.requested
    · rw [hrun]
      exact hfirst.keeps.trans hothers.keeps
    · rw [accountsOf]
      exact List.forall_mem_cons.mpr ⟨hfirst.complete, hothers.complete⟩

/-- A row is called if it is found in the board and enabled; otherwise the outcome is
without success. -/
theorem calledRow_cases (a : Action) (hboard : ctx.board = some board) :
    (∃ row, calledRow a ctx.markDispatched = .ok row ∧
      board.row? (a.metaTextOr "row_id" "") = some row ∧
        row.enabled = true) ∨
      ∃ outcome, calledRow a ctx.markDispatched = .error outcome ∧ outcome.success = false := by
  have hmarked : ctx.markDispatched.board = some board := hboard
  simp only [calledRow, hmarked]
  cases hfound : board.row? (a.metaTextOr "row_id" "") with
  | none => exact .inr ⟨_, rfl, rfl⟩
  | some row =>
    cases henabled : row.enabled with
    | true => exact .inl ⟨row, by simp only [henabled, if_true], rfl, henabled⟩
    | false => exact .inr ⟨.unmet a ("row " ++ row.name ++ " is disabled"), by simp [henabled], rfl⟩

theorem tells_callRow {row : Row} {dispatch : Action → Context → RunProgram (Outcome × Context)}
    {within : List Account} (hkind : a.kind = .runRow)
    (hrow : calledRow a ctx.markDispatched = .ok row)
    (hfound : board.row? (a.metaTextOr "row_id" "") = some row) (henabled : row.enabled = true)
    (hs : HasStandard ports settings answer s)
    (hactions : within.map Account.action = row.enabledActions)
    (hwithin : Account.TellEach board answer within
      (dispatchEach dispatch row.enabledActions ctx.markDispatched.enterCall)
      ctx.markDispatched.enterCall (answer (.handlerFor a.kind) s).2) :
    (Account.call a row ((dispatchBy (callRow dispatch) a ctx).run answer s).1.1 within).Tells board
      answer
      (dispatchBy (callRow dispatch) a ctx) ctx s := by
  obtain ⟨enumeration, hlooked⟩ := hs s .refl a.kind
  have hhandled : handleBy (callRow dispatch) (Handler.standard enumeration ports settings a.kind) a
      ctx.markDispatched =
      callRow dispatch a row ctx.markDispatched := by
    rw [hkind, Handler.standard_runRow, handleBy, hrow]
  have hrun : (dispatchBy (callRow dispatch) a ctx).run answer s =
      (callRow dispatch a row ctx.markDispatched).run answer (answer (.handlerFor a.kind) s).2 := by
    rw [run_dispatchBy_of_found hlooked, hhandled]
  refine ⟨rfl, ?_, ?_, ?_, ?_⟩
  · rw [lookups_dispatchBy_of_found hlooked, hhandled, callRow, Dialogue.bind_eq,
      RunProgram.lookups_bind, hwithin.lookups, Account.dispatched_call, List.map_cons]
    exact congrArg _ (List.append_nil _)
  · rw [hrun, run_callRow, Account.decisions_call]
    exact hwithin.requested
  · rw [hrun, run_callRow]
    exact (Context.Keeps.markDispatched ctx).trans hwithin.keeps.exitCall
  · rw [hrun, run_callRow]
    dsimp only
    rw [hwithin.outcomes]
    exact .call hkind hfound henabled hactions hwithin.complete

/-- **The account of a dispatch tells what the dispatch did**, however deep it calls. -/
theorem tells_dispatchWithin (hspares : board.SparesRequests) (remaining : Nat)
    (ha : a.SparesRequests)
    (hboard : ctx.board = some board) (hs : HasStandard ports settings answer s) :
    (accountOf limit ports answer remaining a ctx s).Tells board answer
      (dispatchWithin limit remaining a ctx) ctx s := by
  induction remaining generalizing a ctx s with
  | zero =>
    by_cases hkind : a.kind = .runRow
    · rw [accountOf_zero]
      obtain ⟨row, hrow, -, -⟩ | ⟨outcome, hrow, houtcome⟩ := calledRow_cases a hboard
      · exact tells_of_done (tooDeep limit a) rfl hkind hs (by rw [handleBy, hrow]; rfl)
      · exact tells_of_done outcome houtcome hkind hs (by rw [handleBy, hrow]; rfl)
    · exact tells_of_ne hkind ha hs _ ctx
  | succ remaining ih =>
    by_cases hkind : a.kind = .runRow
    · obtain ⟨row, hrow, hfound, henabled⟩ | ⟨outcome, hrow, houtcome⟩ := calledRow_cases a hboard
      · have hcallee : calleeOf a ctx = some row := by
          rw [calleeOf, if_pos hkind, hrow]
          rfl
        have hmem : row ∈ board.rows := List.mem_of_find?_eq_some hfound
        rw [accountOf_of_some hcallee]
        refine tells_callRow hkind hrow hfound henabled hs
          (map_action_accountsOf (fun a ctx s => action_accountOf) _ _ _) ?_
        exact tells_each (fun b hb ctx s => ih (hspares row hmem b (List.mem_of_mem_filter hb)))
          hboard (hs.next _)
      · have hcallee : calleeOf a ctx = none := by
          rw [calleeOf, if_pos hkind, hrow]
          rfl
        rw [accountOf_of_none hcallee]
        exact tells_of_done outcome houtcome hkind hs (by rw [handleBy, hrow]; rfl)
    · rw [accountOf_of_none (if_neg hkind)]
      exact tells_of_ne hkind ha hs _ ctx

end

end ActionBoard
