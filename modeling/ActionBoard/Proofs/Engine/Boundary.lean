import ActionBoard.Proofs.Engine.Account

/-!
# Boundaries of a run

A run looks at the requests of conditions only between two of its own actions.  The skips that are
still to be made are therefore a number that changes at these boundaries: up by what was decided in
the action that is over, at any depth of its calls, and down by one where an action is skipped.

* `visits`: the actions that a run goes past, each with the account of its dispatch
  unless it was skipped.
* `Visit.Passes`: what one visit does to the requests; `Walk`: visits one after the other.
* `Conserved`: skips asked for and skips made between two counts.
* `isOver_or_firstVisit`: what a run does before its next boundary, said once for everything below.
* `visits_tell`: the visits of a run give its outcomes, its last context and the lookups of
  handlers that it makes.
* `runBoard_settles`: at every boundary of a run of a board nothing is lost and nothing is made up,
  calls are carried out in full, and a break ends the run with the action in which it was decided.

The count is a word of 64 bits.  It is exact as long as not more skips were decided on than such
a word can hold; in any case it is the difference of what was decided and what was skipped,
reduced to a word.
-/

namespace ActionBoard

/-! ## Counting skips -/

/-- Between two counts so many skips were asked for, and so many made. -/
structure Conserved (asked made : Nat) (before after : UInt64) : Prop where
  word : after + UInt64.ofNat made = before + UInt64.ofNat asked
  exact : before.toNat + asked < 2 ^ 64 → after.toNat + made = before.toNat + asked

namespace Conserved

variable {asked made asked' made' : Nat} {before mid after : UInt64}

theorem refl (n : UInt64) : Conserved 0 0 n n := ⟨rfl, fun _ => rfl⟩

theorem trans (h : Conserved asked made before mid) (h' : Conserved asked' made' mid after) :
    Conserved (asked + asked') (made + made') before after := by
  refine ⟨?_, fun hbound => ?_⟩
  · calc after + UInt64.ofNat (made + made') = after + UInt64.ofNat made' + UInt64.ofNat made := by
          rw [UInt64.ofNat_add, UInt64.add_comm (UInt64.ofNat made), UInt64.add_assoc]
      _ = mid + UInt64.ofNat asked' + UInt64.ofNat made := by rw [h'.word]
      _ = mid + UInt64.ofNat made + UInt64.ofNat asked' := by
          rw [UInt64.add_assoc, UInt64.add_comm (UInt64.ofNat asked'), UInt64.add_assoc]
      _ = before + UInt64.ofNat (asked + asked') := by
        rw [h.word, UInt64.add_assoc, UInt64.ofNat_add]
  · have hfirst := h.exact (by omega)
    have hsecond := h'.exact (by omega)
    omega

/-- Asking for skips. -/
theorem asking (n : Nat) (before : UInt64) : Conserved n 0 before (before + UInt64.ofNat n) := by
  refine ⟨UInt64.add_zero _, fun hbound => ?_⟩
  rw [UInt64.toNat_add, UInt64.toNat_ofNat']
  omega

/-- Making a skip that was asked for. -/
theorem making (h : before ≠ 0) : Conserved 0 1 before (before - 1) := by
  have hpos : 1 ≤ before.toNat := by
    have hne : before.toNat ≠ 0 := fun hzero => h (UInt64.toNat_inj.mp hzero)
    omega
  have hle : 1 ≤ before := by
    rw [UInt64.le_iff_toNat_le]
    exact hpos
  refine ⟨?_, fun _ => ?_⟩
  · show before - 1 + 1 = before + 0
    rw [UInt64.sub_add_cancel, UInt64.add_zero]
  · rw [UInt64.toNat_sub_of_le _ _ hle]
    show before.toNat - 1 + 1 = before.toNat + 0
    omega

end Conserved

/-! ## Visits -/

/-- An action that a run went past. -/
structure Visit where
  action : Action
  /-- The account of its dispatch, unless it was skipped. -/
  account : Option Account
  /-- The context at the boundary behind it. -/
  after : Context

namespace Visit

def isSkipped (visit : Visit) : Bool :=
  visit.account.isNone

/-- The outcome of an action that was not skipped. -/
def outcome? (visit : Visit) : Option Outcome :=
  visit.account.map Account.outcome

/-- The actions that were dispatched on the way, at any depth. -/
def dispatched (visit : Visit) : List Action :=
  visit.account.elim [] Account.dispatched

/-- The decisions that were taken on the way, at any depth. -/
def decisions (visit : Visit) : List Decision :=
  visit.account.elim [] Account.decisions

end Visit

/-- The context at the boundary behind some visits. -/
def boundary (start : Context) (path : List Visit) : Context :=
  path.foldl (fun _ visit => visit.after) start

@[simp] theorem boundary_nil (start : Context) : boundary start [] = start := rfl

@[simp] theorem boundary_cons (start : Context) (visit : Visit) (path : List Visit) :
    boundary start (visit :: path) = boundary visit.after path := rfl

/-- How often it was decided to skip. -/
def skipsDecided (path : List Visit) : Nat :=
  (path.flatMap Visit.decisions).count .skipNext

/-- How many actions were skipped. -/
def skipsMade (path : List Visit) : Nat :=
  path.countP Visit.isSkipped

/-! ## Walks -/

/-- What one visit does to the requests that stand before it.  A break that stands keeps it from
being made at all. -/
structure Visit.Passes (board : Board) (before : Context) (visit : Visit) : Prop where
  unbroken : before.vars.breakRequested = false
  skips : Conserved (visit.decisions.count .skipNext) (if visit.isSkipped then 1 else 0)
    before.vars.skipCount
    visit.after.vars.skipCount
  breaks : .breakOff ∈ visit.decisions → visit.after.vars.breakRequested = true
  complete : ∀ account ∈ visit.account, account.IsComplete board

/-- Visits one after the other, each from the boundary behind the one before it. -/
inductive Walk (board : Board) : Context → List Visit → Prop
  | nil (start : Context) : Walk board start []
  | cons {start : Context} {visit : Visit} {path : List Visit} (passes : visit.Passes board start)
      (rest : Walk board visit.after path) : Walk board start (visit :: path)

namespace Walk

variable {board : Board} {start : Context} {earlier later path : List Visit} {visit : Visit}

theorem split (h : Walk board start (earlier ++ later)) :
    Walk board start earlier ∧ Walk board (boundary start earlier) later := by
  induction earlier generalizing start with
  | nil => exact ⟨.nil start, h⟩
  | cons first earlier ih =>
    cases h with
    | cons hpasses hrest => exact ⟨.cons hpasses (ih hrest).1, (ih hrest).2⟩

theorem conserved (h : Walk board start path) :
    Conserved (skipsDecided path) (skipsMade path) start.vars.skipCount
      (boundary start path).vars.skipCount := by
  induction h with
  | nil start => exact .refl _
  | @cons start visit path hpasses _ ih =>
    have hdecided : skipsDecided (visit :: path) = visit.decisions.count .skipNext +
        skipsDecided path := by
      rw [skipsDecided, List.flatMap_cons, List.count_append]
      rfl
    have hmade : skipsMade (visit :: path) = (if visit.isSkipped then 1 else 0) +
        skipsMade path := by
      rw [skipsMade, List.countP_cons, Nat.add_comm]
      rfl
    rw [hdecided, hmade]
    exact hpasses.skips.trans ih

theorem complete (h : Walk board start path) : ∀ visit ∈ path, ∀ account ∈ visit.account,
    account.IsComplete board := by
  induction h with
  | nil start => exact fun _ hmem => absurd hmem List.not_mem_nil
  | cons hpasses _ ih => exact List.forall_mem_cons.mpr ⟨hpasses.complete, ih⟩

/-- Nothing comes behind a break. -/
theorem eq_nil_of_break (h : Walk board start (earlier ++ visit :: later))
    (hbreak : .breakOff ∈ visit.decisions) : later = [] := by
  cases h.split.2 with
  | cons hpasses hrest =>
    cases hrest with
    | nil => rfl
    | cons hnext _ =>
      have hunbroken := hnext.unbroken
      rw [hpasses.breaks hbreak] at hunbroken
      cases hunbroken

end Walk

/-! ## The visits of a run -/

section

variable {σ : Type} (limit : Nat) (ports : PortSet) (answer : (q : RunRequest) → σ → q.Answer × σ)

/-- The account of an action that is executed: its dispatch begins when the delay before it is
over. -/
def executionAccount (a : Action) (ctx : Context) (s : σ) : Account :=
  accountOf limit ports answer (limit - ctx.callDepth) a ctx
    ((RunProgram.delay a.delayBefore.toNat).run answer s).2

/-- The visits of a run through actions. -/
def visits : List Action → Context → σ → List Visit
  | [], _, _ => []
  | a :: rest, ctx, s =>
    let looked := answer .stopRequested s
    if looked.1 = true then []
    else if ctx.vars.breakRequested then []
    else
      match ctx.vars.takeSkip? with
      | some vars =>
        ⟨a, none, ctx.withVariables vars⟩ :: visits rest (ctx.withVariables vars) looked.2
      | none =>
        let passed := answer .stopRequested (answer .gate looked.2).2
        if passed.1 = true then []
        else
          let performed := (execute limit a ctx).run answer passed.2
          ⟨a, some (executionAccount limit ports answer a ctx passed.2), performed.1.2⟩ ::
            visits rest performed.1.2 (answer (.publish performed.1.1) performed.2).2

variable {limit ports answer} {settings : EngineSettings} {board : Board} {a : Action}
  {ctx : Context} {s : σ}

theorem tells_execute (henabled : a.enabled = true) (hspares : board.SparesRequests)
    (ha : a.SparesRequests)
    (hboard : ctx.board = some board) (hs : HasStandard ports settings answer s) :
    (executionAccount limit ports answer a ctx s).Tells board answer
      (execute limit a ctx) ctx s := by
  have htold :
      (executionAccount limit ports answer a ctx s).Tells board answer (dispatch limit a ctx) ctx
      ((RunProgram.delay a.delayBefore.toNat).run answer s).2 :=
    tells_dispatchWithin hspares (limit - ctx.callDepth) ha hboard (hs.run _)
  obtain ⟨time, htime⟩ : ∃ time, ((dispatch limit a ctx).timedFrom 0).run answer
      ((RunProgram.delay a.delayBefore.toNat).run answer s).2 = _ :=
        run_timedFrom (dispatch limit a ctx) 0 _
  have hresult : ((execute limit a ctx).run answer s).1 =
      ((dispatch limit a ctx).run answer
        ((RunProgram.delay a.delayBefore.toNat).run answer s).2).1 := by
    rw [execute_of_enabled henabled, Dialogue.run_bind, Dialogue.run_bind, Dialogue.run_bind, htime]
    rfl
  refine ⟨?_, ?_, ?_, ?_, htold.complete⟩
  · rw [hresult]
    exact htold.outcome
  · rw [execute_of_enabled henabled, RunProgram.lookups_bind, RunProgram.lookups_delay,
      RunProgram.lookups_bind,
      RunProgram.lookups_timedFrom, RunProgram.lookups_bind, RunProgram.lookups_delay]
    exact (List.append_nil _).trans htold.lookups
  · rw [hresult]
    exact htold.requested
  · rw [hresult]
    exact htold.keeps

/-! ## From one boundary to the next -/

/-- What a run does about the next of its actions. -/
theorem runActions_cons (limit : Nat) (a : Action) (rest : List Action) (ctx : Context) :
    runActions limit (a :: rest) ctx =
      .ask RunRequest.stopRequested fun stop =>
        if stop = true then .done ([], ctx)
        else if ctx.vars.breakRequested then .done ([], ctx)
        else
          match ctx.vars.takeSkip? with
          | some vars => runActions limit rest (ctx.withVariables vars)
          | none =>
            .ask RunRequest.gate fun _ => .ask RunRequest.stopRequested fun stop =>
              if stop = true then .done ([], ctx)
              else
                (execute limit a ctx).bind fun performed =>
                  .ask (RunRequest.publish performed.1) fun _ =>
                  (runActions limit rest performed.2).bind fun others =>
                    .done (performed.1 :: others.1, others.2) := by
  rw [runActions, Course.through, Dialogue.bind_eq, Dialogue.elaborate_bind,
    Dialogue.elaborate_question]
  show Dialogue.ask _ _ = _
  congr 1
  funext stop
  cases stop with
  | true => rfl
  | false =>
    cases hbreak : ctx.vars.breakRequested with
    | true => rfl
    | false =>
      cases htake : ctx.vars.takeSkip? with
      | some vars => rfl
      | none =>
        show Dialogue.ask _ _ = Dialogue.ask _ _
        congr 1
        funext _
        show Dialogue.ask _ _ = Dialogue.ask _ _
        congr 1
        funext stop
        cases stop with
        | true => rfl
        | false =>
          show Dialogue.bind (execute limit a ctx) _ = Dialogue.bind (execute limit a ctx) _
          congr 1
          funext performed
          show Dialogue.ask _ _ = Dialogue.ask _ _
          congr 1
          funext _
          exact Dialogue.elaborate_bind _ (Course.through rest performed.2) _

theorem skipCount_of_takeSkip? {vars after : Variables} (h : vars.takeSkip? = some after) :
    vars.skipCount ≠ 0 ∧ after = vars.insert skipVariable (.word (vars.skipCount - 1)) := by
  have hne : vars.skipCount ≠ 0 := by
    intro hzero
    rw [Variables.takeSkip?_eq_none.mpr hzero] at h
    cases h
  refine ⟨hne, ?_⟩
  simp only [Variables.takeSkip?, if_neg hne, Option.some.injEq] at h
  exact h.symm

/-- A skip that is made is one less to be made. -/
theorem passes_skip {vars : Variables} (hbreak : ctx.vars.breakRequested = false)
    (h : ctx.vars.takeSkip? = some vars) :
    Visit.Passes board ctx ⟨a, none, ctx.withVariables vars⟩ := by
  obtain ⟨hne, rfl⟩ := skipCount_of_takeSkip? h
  refine ⟨hbreak, ?_, fun hmem => absurd hmem List.not_mem_nil, fun _ hmem => nomatch hmem⟩
  have hcount :
      (ctx.withVariables
        (ctx.vars.insert skipVariable (.word (ctx.vars.skipCount - 1)))).vars.skipCount =
      ctx.vars.skipCount - 1 := Variables.skipCount_insert_word ctx.vars _
  rw [hcount]
  exact .making hne

/-- An action that is executed asks for what is decided in it. -/
theorem passes_perform {account : Account} {program : RunProgram (Outcome × Context)}
    (hbreak : ctx.vars.breakRequested = false) (h : account.Tells board answer program ctx s) :
    Visit.Passes board ctx ⟨a, some account, (program.run answer s).1.2⟩ := by
  refine ⟨hbreak, ?_, fun hmem => h.requested.breaks.mpr (.inr hmem), ?_⟩
  · show Conserved (account.decisions.count .skipNext) 0 _ _
    rw [h.requested.skips]
    exact .asking _ _
  · rintro _ ⟨⟩
    exact h.complete

/-- What a run does first: a visit, and then the run through the other actions from the
boundary behind it. -/
structure FirstVisit (limit : Nat) (ports : PortSet) (settings : EngineSettings)
    (answer : (q : RunRequest) → σ → q.Answer × σ) (board : Board) (a : Action) (rest : List Action)
    (ctx : Context) (s : σ) (visit : Visit) (t : σ) : Prop where
  visits : visits limit ports answer (a :: rest) ctx s =
    visit :: visits limit ports answer rest visit.after t
  action : visit.action = a
  run : (runActions limit (a :: rest) ctx).run answer s =
    let others := (runActions limit rest visit.after).run answer t
    ((visit.outcome?.toList ++ others.1.1, others.1.2), others.2)
  lookups : (runActions limit (a :: rest) ctx).lookups answer s =
    visit.dispatched.map Action.kind ++ (runActions limit rest visit.after).lookups answer t
  passes : visit.Passes board ctx
  board : visit.after.board = some board
  standard : HasStandard ports settings answer t

/-- A run that is over before its next action. -/
structure IsOver (limit : Nat) (ports : PortSet) (answer : (q : RunRequest) → σ → q.Answer × σ)
    (actions : List Action) (ctx : Context) (s : σ) : Prop where
  visits : visits limit ports answer actions ctx s = []
  run : ((runActions limit actions ctx).run answer s).1 = ([], ctx)
  lookups : (runActions limit actions ctx).lookups answer s = []

/-- **A run is over, or goes past its next action.**  All that is said of runs below
follows from this. -/
theorem isOver_or_firstVisit (hspares : board.SparesRequests) (henabled : a.enabled = true)
    (ha : a.SparesRequests) (rest : List Action) (hboard : ctx.board = some board)
    (hs : HasStandard ports settings answer s) :
    IsOver limit ports answer (a :: rest) ctx s ∨
      ∃ visit t, FirstVisit limit ports settings answer board a rest ctx s visit t := by
  have hvisits : visits limit ports answer (a :: rest) ctx s =
      visits limit ports answer (a :: rest) ctx s := rfl
  conv_rhs at hvisits => rw [visits]
  have hrun : (runActions limit (a :: rest) ctx).run answer s = _ :=
    (congrArg (Dialogue.run answer · s) (runActions_cons limit a rest ctx)).trans
      (Dialogue.run_ask _ _ _ _)
  have hlookups : (runActions limit (a :: rest) ctx).lookups answer s = _ :=
    (congrArg (RunProgram.lookups answer · s) (runActions_cons limit a rest ctx)).trans
      (RunProgram.lookups_ask _ _ _)
  have hlooked := hs.next .stopRequested
  dsimp only at hvisits
  generalize answer .stopRequested s = looked at hlooked hvisits hrun hlookups
  -- The first look for a stop, then for a break.
  by_cases hstop : looked.1 = true
  · rw [if_pos hstop] at hvisits hrun hlookups
    exact .inl ⟨hvisits, congrArg Prod.fst hrun, hlookups⟩
  rw [if_neg hstop] at hvisits hrun hlookups
  cases hbreak : ctx.vars.breakRequested with
  | true =>
    rw [hbreak] at hvisits hrun hlookups
    exact .inl ⟨hvisits, congrArg Prod.fst hrun, hlookups⟩
  | false =>
    rw [hbreak, if_neg Bool.false_ne_true] at hvisits hrun hlookups
    cases htake : ctx.vars.takeSkip? with
    | some vars =>
      rw [htake] at hvisits hrun hlookups
      exact .inr ⟨_, _, hvisits, rfl, hrun, hlookups, passes_skip hbreak htake, hboard, hlooked⟩
    | none =>
      rw [htake] at hvisits hrun hlookups
      dsimp only at hvisits hrun hlookups
      rw [Dialogue.run_ask, Dialogue.run_ask] at hrun
      rw [RunProgram.lookups_ask, RunProgram.lookups_ask] at hlookups
      have hpassed := (hlooked.next .gate).next .stopRequested
      generalize answer .stopRequested (answer .gate looked.2).2 = passed
        at hpassed hvisits hrun hlookups
      -- Behind the gate a stop is looked for once more.
      by_cases hstopped : passed.1 = true
      · rw [if_pos hstopped] at hvisits hrun hlookups
        exact .inl ⟨hvisits, congrArg Prod.fst hrun, hlookups⟩
      rw [if_neg hstopped] at hvisits hrun hlookups
      have htold : (executionAccount limit ports answer a ctx passed.2).Tells board answer
          (execute limit a ctx) ctx
          passed.2 := tells_execute henabled hspares ha hboard hpassed
      rw [Dialogue.run_bind, Dialogue.run_ask, Dialogue.run_bind] at hrun
      rw [RunProgram.lookups_bind, RunProgram.lookups_ask, RunProgram.lookups_bind, htold.lookups]
        at hlookups
      refine .inr ⟨_, _, hvisits, rfl, hrun.trans ?_, hlookups.trans ?_,
        passes_perform hbreak htold,
        htold.keeps.board.trans hboard, (hpassed.run (execute limit a ctx)).next _⟩
      · dsimp only [Visit.outcome?]
        rw [htold.outcome]
        rfl
      · exact congrArg (List.map Action.kind _ ++ ·) (List.append_nil _)

/-! ## Visits and what happened -/

/-- Visits agree with a run through actions from a context. -/
structure Visit.Tell (limit : Nat) (answer : (q : RunRequest) → σ → q.Answer × σ)
    (path : List Visit) (actions : List Action) (start : Context) (s : σ) : Prop where
  /-- The visited actions are the first ones, in their order. -/
  order : path.map action <+: actions
  outcomes : ((runActions limit actions start).run answer s).1.1 = path.filterMap outcome?
  context : ((runActions limit actions start).run answer s).1.2 = boundary start path
  /-- Every lookup of a handler is for an action that was dispatched in a visit. -/
  lookups : (runActions limit actions start).lookups answer s =
    (path.flatMap dispatched).map Action.kind

variable {actions : List Action}

theorem IsOver.tell (h : IsOver limit ports answer actions ctx s) :
    Visit.Tell limit answer [] actions ctx s :=
  ⟨List.nil_prefix, congrArg Prod.fst h.run, congrArg Prod.snd h.run, h.lookups⟩

theorem FirstVisit.tell {rest : List Action} {visit : Visit} {t : σ} {path : List Visit}
    (h : FirstVisit limit ports settings answer board a rest ctx s visit t)
    (htell : Visit.Tell limit answer path rest visit.after t) :
    Visit.Tell limit answer (visit :: path) (a :: rest) ctx s := by
  refine ⟨?_, ?_, ?_, ?_⟩
  · rw [List.map_cons, h.action]
    exact List.cons_prefix_cons.mpr ⟨rfl, htell.order⟩
  · rw [h.run]
    dsimp only
    rw [htell.outcomes]
    cases houtcome : visit.outcome? with
    | none => rw [List.filterMap_cons_none houtcome, Option.toList_none, List.nil_append]
    | some outcome =>
      rw [List.filterMap_cons_some houtcome, Option.toList_some, List.singleton_append]
  · rw [h.run, boundary_cons]
    exact htell.context
  · rw [h.lookups, htell.lookups, List.flatMap_cons, List.map_append]

/-- The visits of a run are a walk, and tell what it does. -/
theorem visits_tell (hspares : board.SparesRequests)
    (hactions : ∀ b ∈ actions, b.enabled = true ∧ b.SparesRequests)
    (hboard : ctx.board = some board) (hs : HasStandard ports settings answer s) :
    Walk board ctx (visits limit ports answer actions ctx s) ∧
      Visit.Tell limit answer (visits limit ports answer actions ctx s) actions ctx s := by
  induction actions generalizing ctx s with
  | nil => exact ⟨.nil ctx, List.nil_prefix, rfl, rfl, rfl⟩
  | cons a rest ih =>
    have ha := hactions a List.mem_cons_self
    obtain hover | ⟨visit, t, hfirst⟩ := isOver_or_firstVisit hspares ha.1 ha.2 rest hboard hs
    · rw [hover.visits]
      exact ⟨.nil ctx, hover.tell⟩
    · obtain ⟨hwalk, htell⟩ :=
        ih (fun b hb => hactions b (List.mem_cons_of_mem a hb)) hfirst.board hfirst.standard
      rw [hfirst.visits]
      exact ⟨.cons hfirst.passes hwalk, hfirst.tell htell⟩

/-- From every boundary a run goes on with the actions that are left: what it gives in the end
is what was given up to there, and then what the run through those actions gives from the
context of the boundary. -/
theorem exists_run_boundary (hspares : board.SparesRequests)
    (hactions : ∀ b ∈ actions, b.enabled = true ∧ b.SparesRequests)
    (hboard : ctx.board = some board)
    (hs : HasStandard ports settings answer s) {earlier later : List Visit}
    (h : visits limit ports answer actions ctx s = earlier ++ later) :
    ∃ t, (runActions limit actions ctx).run answer s =
      let others :=
        (runActions limit (actions.drop earlier.length) (boundary ctx earlier)).run answer t
      ((earlier.filterMap Visit.outcome? ++ others.1.1, others.1.2), others.2) := by
  induction earlier generalizing actions ctx s with
  | nil => exact ⟨s, rfl⟩
  | cons visit earlier ih =>
    cases actions with
    | nil => cases h
    | cons a rest =>
      have ha := hactions a List.mem_cons_self
      obtain hover | ⟨first, t, hfirst⟩ := isOver_or_firstVisit hspares ha.1 ha.2 rest hboard hs
      · rw [hover.visits] at h
        cases h
      · rw [hfirst.visits, List.cons_append, List.cons.injEq] at h
        obtain ⟨rfl, hrest⟩ := h
        obtain ⟨u, hu⟩ :=
          ih (fun b hb => hactions b (List.mem_cons_of_mem a hb)) hfirst.board hfirst.standard hrest
        refine ⟨u, ?_⟩
        rw [hfirst.run, hu]
        cases houtcome : first.outcome? with
        | none => rw [List.filterMap_cons_none houtcome]; rfl
        | some outcome => rw [List.filterMap_cons_some houtcome]; rfl

/-! ## The run of a board -/

/-- How the requests that conditions make are settled in a run of a board, with the
visits that it makes. -/
structure Settles (limit : Nat) (answer : (q : RunRequest) → σ → q.Answer × σ) (board : Board)
    (start : Context) (s : σ) (path : List Visit) : Prop where
  /-- The visits are those of the run. -/
  tell : Visit.Tell limit answer path board.flattened start s
  /-- From every boundary the run goes on with the actions that are left. -/
  boundaries : ∀ earlier later, path = earlier ++ later → ∃ t,
    (runBoard limit board start).run answer s =
    let others :=
      (runActions limit (board.flattened.drop earlier.length) (boundary start earlier)).run answer t
    ((earlier.filterMap Visit.outcome? ++ others.1.1, others.1.2), others.2)
  /-- At every boundary the skips that are still to be made are those decided on so far, at any
  depth, less those made so far. -/
  skips : ∀ earlier later, path = earlier ++ later →
    (boundary start earlier).vars.skipCount =
        UInt64.ofNat (skipsDecided earlier) - UInt64.ofNat (skipsMade earlier) ∧
      (skipsDecided earlier < 2 ^ 64 →
        (boundary start earlier).vars.skipCount.toNat + skipsMade earlier = skipsDecided earlier)
  /-- Every call, at any depth, dispatches the enabled actions of its row, each once and
  in their order. -/
  calls : ∀ visit ∈ path, ∀ account ∈ visit.account, account.IsComplete board
  /-- The action under which a break is decided on is the last one that the run visits, and the last
  one with an outcome. -/
  breaks : ∀ earlier visit later, path = earlier ++ visit :: later → .breakOff ∈ visit.decisions →
    later = [] ∧ ∃ outcome, visit.outcome? = some outcome ∧
      ((runBoard limit board start).run answer s).1.1 =
        earlier.filterMap Visit.outcome? ++ [outcome]

/-- **Requests are settled in every run of a board** that is begun without any, with the standard
handlers, where no action names a request variable as one to be set.  What devices answer, when a
stop is requested and how long the gate is closed may be anything.

Overflows of the count are left out of account.  A run that does not come to one is played as it is
described here (`RunProgram.run_checked`), and one that does breaks off there. -/
theorem runBoard_settles (limit : Nat) (hs : HasStandard ports settings answer s) (c : Control)
    (hspares : board.SparesRequests) {seed : Variables} (hseeds : c.seeds.IsClear)
    (hseed : seed.IsClear) :
    let start := c.startingContext board seed
    Settles limit answer board start s (visits limit ports answer board.flattened start s) := by
  intro start
  have hactions : ∀ b ∈ board.flattened, b.enabled = true ∧ b.SparesRequests := by
    intro b hb
    obtain ⟨row, hrow, -, -, hb, henabled⟩ := Board.mem_flattened.mp hb
    exact ⟨henabled, hspares row hrow b hb⟩
  have hclear : start.vars.IsClear := startingContext_isClear c board hseeds hseed
  have hzero : start.vars.skipCount = 0 := Variables.takeSkip?_eq_none.mp hclear.takeSkip?
  have hboard : start.board = some board := rfl
  obtain ⟨hwalk, htell⟩ : Walk board start (visits limit ports answer board.flattened start s) ∧
      _ :=
    visits_tell hspares hactions hboard hs
  refine ⟨htell, fun _ _ => exists_run_boundary hspares hactions hboard hs, ?_, hwalk.complete, ?_⟩
  · intro earlier later hpath
    have hconserved := (hpath ▸ hwalk).split.1.conserved
    rw [hzero] at hconserved
    refine ⟨?_, fun hbound => ?_⟩
    · rw [← UInt64.zero_add (UInt64.ofNat (skipsDecided earlier)), ← hconserved.word,
        UInt64.add_sub_cancel]
    · have hexact := hconserved.exact (by rw [UInt64.toNat_zero, Nat.zero_add]; exact hbound)
      rwa [UInt64.toNat_zero, Nat.zero_add] at hexact
  · intro earlier visit later hpath hbreak
    have hlast : later = [] := (hpath ▸ hwalk).eq_nil_of_break hbreak
    subst hlast
    refine ⟨rfl, ?_⟩
    have houtcomes : ((runBoard limit board start).run answer s).1.1 = _ := htell.outcomes
    rw [hpath, List.filterMap_append] at houtcomes
    cases haccount : visit.account with
    | none =>
      rw [Visit.decisions, haccount] at hbreak
      cases hbreak
    | some account =>
      have houtcome : visit.outcome? = some account.outcome := by
        rw [Visit.outcome?, haccount, Option.map_some]
      exact ⟨account.outcome, houtcome,
        houtcomes.trans (by rw [List.filterMap_cons_some houtcome]; rfl)⟩

/-- A board whose main row calls a row that decides to skip, and then logs twice. -/
def skippingBoard : Board where
  id := ""
  name := ""
  rows :=
    [(((Row.new "main" "").addAction ((Action.new "1" .runRow "").withMeta "row_id"
      (.string "row"))).addAction
        (.new "2" .log "")).addAction (.new "3" .log ""),
      (((Row.new "row" "").asSubroutine.addAction
        ((Action.new "4" .conditional "").withMeta "condition_value" (.string "set"))).addAction
          (.new "5" .log ""))]
  createdAt := .epoch
  modifiedAt := .epoch

/-- A skip that is decided on in a called row: the action behind the call is skipped. -/
theorem runBoard_settles_of_called_condition :
    let answer := Stage.answer fun _ s => (.error (.unavailable ""), s)
    let start := Control.startingContext {} skippingBoard ∅
    let path := visits 2 .everything answer skippingBoard.flattened start CallStack.idleStage
    skippingBoard.SparesRequests ∧
      path.map (fun visit => (visit.action.id, visit.isSkipped)) =
        [("1", false), ("2", true), ("3", false)] ∧
      path.flatMap Visit.decisions = [.skipNext] ∧
      Settles 2 answer skippingBoard start CallStack.idleStage path := by
  intro answer start path
  have hspares : skippingBoard.SparesRequests := by decide +kernel
  have hs : HasStandard .everything {} answer CallStack.idleStage := Stage.hasStandard rfl
  have hpath : path.map (fun visit => (visit.action.id, visit.isSkipped)) =
      [("1", false), ("2", true), ("3", false)] := by
    decide +kernel
  have hdecisions : path.flatMap Visit.decisions = [.skipNext] := by decide +kernel
  exact ⟨hspares, hpath, hdecisions, runBoard_settles 2 hs {} hspares ⟨rfl, rfl⟩ ⟨rfl, rfl⟩⟩

end

end ActionBoard
