import ActionBoard.Proofs.Engine.CallStack
import ActionBoard.Proofs.Engine.Playing

/-!
# Calls of rows and inlining

A call of a row can be replaced by the actions of the row, and the calls among them again, as long
as one does not come back to the same row.  What a run does to the world and to the variables stays
the same: a called row is gone through in the same context, and neither a skip nor a break comes in
between, if nothing asks for one.

* `Board.expand`: the actions that an action stands for, calls replaced down to some depth;
  `Board.inlineRow` expands the actions of a row.
* `Board.Unfolds`: an action whose calls are all replaced at that depth and leave plain actions
  only.
* `enact`: the activity of plain actions one after the other.  Both the run with calls and the run
  without are compared with it.
* `enacts_dispatchWithin`, `runActions_enacts`: dispatching such an action, and running a list of
  them.

The proof for a dispatch is by induction on `Board.Unfolds`: the depth of calls is at the same time
what `dispatchWithin` counts down.
-/

namespace ActionBoard

/-! ## Expanding calls -/

namespace Board

/-- The actions that an action stands for: a call is replaced by the actions of the row, and these
again, so many levels deep. -/
def expand (board : Board) : Nat → Action → List Action
  | 0, a => [a]
  | depth + 1, a =>
    if a.kind = .runRow then
      match board.row? (a.metaTextOr "row_id" "") with
      | some row => row.enabledActions.flatMap (board.expand depth)
      | none => [a]
    else [a]

/-- The board with the calls in the first row of an identifier replaced, so many levels deep. -/
def inlineRow (board : Board) (rowId : String) (depth : Nat) : Board :=
  board.modifyRow rowId fun row => { row with actions := row.actions.flatMap (board.expand depth) }

/-- An action that is plain, or calls a row of such actions, so many levels deep. -/
inductive Unfolds (board : Board) : Nat → Action → Prop
  | plain {depth : Nat} {a : Action} (prompt : a.IsPrompt) (isPlain : a.kind ∈ ActionKind.plain) :
      Unfolds board depth a
  | call {depth : Nat} {a : Action} {row : Row} (prompt : a.IsPrompt) (isCall : a.kind = .runRow)
      (found : board.row? (a.metaTextOr "row_id" "") = some row) (enabled : row.enabled = true)
      (unfolds : ∀ b ∈ row.enabledActions, Unfolds board depth b) : Unfolds board (depth + 1) a

variable {board : Board} {depth : Nat} {a : Action}

theorem Unfolds.prompt (h : board.Unfolds depth a) : a.IsPrompt := by
  cases h with
  | plain hprompt _ => exact hprompt
  | call hprompt _ _ _ _ => exact hprompt

theorem ne_runRow_of_mem_plain {kind : ActionKind} (h : kind ∈ ActionKind.plain) :
    kind ≠ .runRow := by
  rintro rfl
  revert h
  decide

theorem expand_of_mem_plain (h : a.kind ∈ ActionKind.plain) : board.expand depth a = [a] := by
  cases depth with
  | zero => rfl
  | succ depth => rw [expand, if_neg (ne_runRow_of_mem_plain h)]

theorem flatMap_expand_of_mem_plain {actions : List Action}
    (h : ∀ b ∈ actions, b.kind ∈ ActionKind.plain) :
    actions.flatMap (board.expand depth) = actions := by
  induction actions with
  | nil => rfl
  | cons b rest ih =>
    rw [List.flatMap_cons, expand_of_mem_plain (h b List.mem_cons_self),
      ih fun c hc => h c (List.mem_cons_of_mem b hc)]
    rfl

theorem expand_call {row : Row} (hcall : a.kind = .runRow)
    (hfound : board.row? (a.metaTextOr "row_id" "") = some row) :
    board.expand (depth + 1) a = row.enabledActions.flatMap (board.expand depth) := by
  rw [expand, if_pos hcall, hfound]

/-- No call is left in the expansion. -/
theorem Unfolds.of_mem_expand (h : board.Unfolds depth a) :
    ∀ b ∈ board.expand depth a, b.IsPrompt ∧ b.kind ∈ ActionKind.plain := by
  induction h with
  | plain hprompt hplain =>
    intro b hb
    rw [expand_of_mem_plain hplain, List.mem_singleton] at hb
    exact hb ▸ ⟨hprompt, hplain⟩
  | call hprompt hcall hfound henabled _ ih =>
    intro b hb
    rw [expand_call hcall hfound, List.mem_flatMap] at hb
    obtain ⟨c, hc, hb⟩ := hb
    exact ih c hc b hb

end Board

/-! ## Enacting plain actions -/

section

variable (enumeration : Enumeration) (ports : PortSet) (settings : EngineSettings)

/-- The programs of some actions one after the other; what comes of them is left out. -/
def enact : List Action → Variables → Activity Variables
  | [], vars => .done vars
  | a :: rest, vars =>
    ((Handler.program enumeration ports settings a).run vars).bind fun ending => enact rest ending.2

theorem enact_append (first second : List Action) (vars : Variables) :
    enact enumeration ports settings (first ++ second) vars =
      (enact enumeration ports settings first vars).bind
        (enact enumeration ports settings second) := by
  induction first generalizing vars with
  | nil => rfl
  | cons a rest ih => simp only [List.cons_append, enact, ih, Dialogue.bind_assoc]

/-- Plain actions leave the variables clear. -/
theorem enact_ensures_isClear {actions : List Action} (h : ∀ a ∈ actions, a.kind ∈ ActionKind.plain)
    {vars : Variables} (hv : vars.IsClear) :
    (enact enumeration ports settings actions vars).Ensures Variables.IsClear := by
  induction actions generalizing vars with
  | nil => exact hv
  | cons a rest ih =>
    have ha :=
      Handler.meets_isClear_of_mem_plain enumeration ports settings (h a List.mem_cons_self) vars hv
    exact ha.2.bind fun ending he => ih (fun b hb => h b (List.mem_cons_of_mem a hb)) he.1

end

variable {σ β : Type} {devices : Devices σ} {enumeration : Enumeration} {ports : PortSet}
  {settings : EngineSettings} {limit depth : Nat}
  {a : Action} {board : Board} {ctx : Context} {stage : Stage σ}

/-- What some actions come to that are dispatched from a context on a stage, compared with the
activity of others. -/
structure Enacts (devices : Devices σ) (enumeration : Enumeration) (ports : PortSet)
    (settings : EngineSettings) (actions : List Action) (ctx : Context) (stage : Stage σ)
    (result : (β × Context) × Stage σ) : Prop where
  effects :
    result.2 = (Stage.play devices (enact enumeration ports settings actions ctx.vars) stage).2
  vars : result.1.2.vars =
    (Stage.play devices (enact enumeration ports settings actions ctx.vars) stage).1
  keeps : ctx.Keeps result.1.2

namespace Enacts

variable {actions : List Action} {result : (β × Context) × Stage σ}

theorem registry (h : Enacts devices enumeration ports settings actions ctx stage result) :
    result.2.registry = stage.registry := by
  rw [h.effects, Stage.play_registry]

theorem control (h : Enacts devices enumeration ports settings actions ctx stage result) :
    result.2.control = stage.control := by
  rw [h.effects, Stage.play_control]

theorem isClear (h : Enacts devices enumeration ports settings actions ctx stage result)
    (hplain : ∀ a ∈ actions, a.kind ∈ ActionKind.plain) (hvars : ctx.vars.IsClear) :
    result.1.2.vars.IsClear := by
  rw [h.vars]
  exact Stage.play_ensures (enact_ensures_isClear enumeration ports settings hplain hvars) stage

/-- The activity of further actions goes on from the result. -/
theorem play_append (h : Enacts devices enumeration ports settings actions ctx stage result)
    (others : List Action) :
    Stage.play devices (enact enumeration ports settings (actions ++ others) ctx.vars) stage =
      Stage.play devices (enact enumeration ports settings others result.1.2.vars) result.2 := by
  rw [enact_append, Stage.play_bind, ← h.vars, ← h.effects]

end Enacts

/-- The handler that is asked for on a stage with the standard registry. -/
theorem run_dispatchBy (call : Action → Row → Context → RunProgram (Outcome × Context))
    (hregistry : stage.registry = .standard enumeration ports settings) :
    (dispatchBy call a ctx).run (Stage.answer devices) stage =
      (handleBy call (Handler.standard enumeration ports settings a.kind) a ctx.markDispatched).run
        (Stage.answer devices)
        stage := by
  have hanswer : Stage.answer devices (.handlerFor a.kind) stage =
      (some (Handler.standard enumeration ports settings a.kind), stage) := by
    show (stage.registry.handler? a.kind, stage) = _
    rw [hregistry]
    rfl
  rw [dispatchBy_eq_ask, Dialogue.run_ask, hanswer]

/-- Letting a plain action be executed is playing its program. -/
theorem run_handleBy_of_ne (call : Action → Row → Context → RunProgram (Outcome × Context))
    (h : a.kind ≠ .runRow) :
    (handleBy call (Handler.standard enumeration ports settings a.kind) a ctx).run
      (Stage.answer devices) stage =
      let played :=
        Stage.play devices ((Handler.program enumeration ports settings a).run ctx.vars) stage
      ((outcomeOf a played.1.1, ctx.withVariables played.1.2), played.2) := by
  obtain ⟨execute, hstandard, hprogram⟩ := Handler.standard_eq_leaf enumeration ports settings a h
  rw [hstandard, handleBy, hprogram, runHandling, Dialogue.bind_eq, Dialogue.run_bind]
  rfl

/-- However many calls may be opened, a dispatch begins in the same way. -/
theorem exists_dispatchWithin_eq (limit depth : Nat) :
    ∃ call, dispatchWithin limit depth = dispatchBy call := by
  cases depth with
  | zero => exact ⟨_, rfl⟩
  | succ depth => exact ⟨_, rfl⟩

theorem enacts_of_ne (h : a.kind ≠ .runRow)
    (call : Action → Row → Context → RunProgram (Outcome × Context))
    (hregistry : stage.registry = .standard enumeration ports settings) :
    Enacts devices enumeration ports settings [a] ctx stage
      ((dispatchBy call a ctx).run (Stage.answer devices) stage) := by
  rw [run_dispatchBy call hregistry, run_handleBy_of_ne call h]
  have henact : Stage.play devices (enact enumeration ports settings [a] ctx.vars) stage =
      ((Stage.play devices ((Handler.program enumeration ports settings a).run ctx.vars) stage).1.2,
        (Stage.play devices ((Handler.program enumeration ports settings a).run ctx.vars)
          stage).2) := by
    rw [enact, Stage.play_bind]
    rfl
  refine ⟨?_, ?_, ⟨rfl, rfl⟩⟩
  · rw [henact]
    rfl
  · rw [henact]
    rfl

theorem calledRow_eq_ok {row : Row} (hboard : ctx.board = some board)
    (hfound : board.row? (a.metaTextOr "row_id" "") = some row) (henabled : row.enabled = true) :
    calledRow a ctx.markDispatched = .ok row := by
  have hmark : ctx.markDispatched.board = some board := hboard
  simp only [calledRow, hmark, hfound, henabled, if_true]

/-- One after the other, what is dispatched comes to one activity after the other. -/
theorem enacts_dispatchEach {dispatch : Action → Context → RunProgram (Outcome × Context)}
    {actions : List Action} {expand : Action → List Action}
    (h : ∀ b ∈ actions, ∀ (ctx : Context) (stage : Stage σ), ctx.board = some board →
      stage.registry = .standard enumeration ports settings →
        Enacts devices enumeration ports settings (expand b) ctx stage
          ((dispatch b ctx).run (Stage.answer devices) stage))
    (hboard : ctx.board = some board)
    (hregistry : stage.registry = .standard enumeration ports settings) :
    Enacts devices enumeration ports settings (actions.flatMap expand) ctx stage
      ((dispatchEach dispatch actions ctx).run (Stage.answer devices) stage) := by
  induction actions generalizing ctx stage with
  | nil => exact ⟨rfl, rfl, .refl ctx⟩
  | cons b rest ih =>
    have hfirst := h b List.mem_cons_self ctx stage hboard hregistry
    rw [run_dispatchEach_cons]
    dsimp only
    generalize (dispatch b ctx).run (Stage.answer devices) stage = first at hfirst ⊢
    have hothers : Enacts devices enumeration ports settings (rest.flatMap expand) first.1.2 first.2
        ((dispatchEach dispatch rest first.1.2).run (Stage.answer devices) first.2) :=
      ih (fun c hc => h c (List.mem_cons_of_mem b hc)) (hfirst.keeps.board.trans hboard)
        (hfirst.registry.trans hregistry)
    generalize (dispatchEach dispatch rest first.1.2).run (Stage.answer devices) first.2 =
      others at hothers ⊢
    refine ⟨?_, ?_, hfirst.keeps.trans hothers.keeps⟩
    · rw [List.flatMap_cons, hfirst.play_append]
      exact hothers.effects
    · rw [List.flatMap_cons, hfirst.play_append]
      exact hothers.vars

/-- **A dispatch with calls enacts the expansion.** -/
theorem enacts_dispatchWithin (h : board.Unfolds depth a) (hboard : ctx.board = some board)
    (hregistry : stage.registry = .standard enumeration ports settings) :
    Enacts devices enumeration ports settings (board.expand depth a) ctx stage
      ((dispatchWithin limit depth a ctx).run (Stage.answer devices) stage) := by
  induction h generalizing ctx stage with
  | @plain depth a hprompt hplain =>
    obtain ⟨call, hcall⟩ := exists_dispatchWithin_eq limit depth
    rw [Board.expand_of_mem_plain hplain, hcall]
    exact enacts_of_ne (Board.ne_runRow_of_mem_plain hplain) call hregistry
  | @call depth a row hprompt hcall hfound henabled hunfolds ih =>
    have hrow : calledRow a ctx.markDispatched = .ok row := calledRow_eq_ok hboard hfound henabled
    rw [Board.expand_call hcall hfound, dispatchWithin, run_dispatchBy _ hregistry, hcall,
      Handler.standard_runRow, handleBy, hrow]
    dsimp only
    rw [run_callRow]
    have hwithin :
        Enacts devices enumeration ports settings (row.enabledActions.flatMap (board.expand depth))
        ctx.markDispatched.enterCall stage
        ((dispatchEach (dispatchWithin limit depth) row.enabledActions
          ctx.markDispatched.enterCall).run
          (Stage.answer devices) stage) :=
      enacts_dispatchEach (fun b hb ctx stage => ih b hb) hboard hregistry
    exact ⟨hwithin.effects, hwithin.vars,
      (Context.Keeps.markDispatched ctx).trans hwithin.keeps.exitCall⟩

/-! ## Without an overflow -/

/-- The lookup of a handler does not overflow, so a dispatch overflows only where its handler
does. -/
theorem overflows_dispatchBy (call : Action → Row → Context → RunProgram (Outcome × Context))
    (hregistry : stage.registry = .standard enumeration ports settings) :
    RunProgram.Overflows (Stage.answer devices) (dispatchBy call a ctx) stage ↔
      RunProgram.Overflows (Stage.answer devices)
        (handleBy call (Handler.standard enumeration ports settings a.kind) a ctx.markDispatched)
        stage := by
  have hanswer : Stage.answer devices (.handlerFor a.kind) stage =
      (some (Handler.standard enumeration ports settings a.kind), stage) := by
    show (stage.registry.handler? a.kind, stage) = _
    rw [hregistry]
    rfl
  rw [dispatchBy_eq_ask, RunProgram.overflows_ask, hanswer, or_iff_right nofun]

theorem not_overflows_dispatchBy_of_mem_plain (h : a.kind ∈ ActionKind.plain)
    (call : Action → Row → Context → RunProgram (Outcome × Context))
    (hregistry : stage.registry = .standard enumeration ports settings) :
    ¬RunProgram.Overflows (Stage.answer devices) (dispatchBy call a ctx) stage := by
  obtain ⟨execute, hstandard, hprogram⟩ :=
    Handler.standard_eq_leaf enumeration ports settings a (Board.ne_runRow_of_mem_plain h)
  rw [overflows_dispatchBy call hregistry, hstandard, handleBy, hprogram, runHandling,
    Dialogue.bind_eq]
  exact RunProgram.not_overflows_bind (RunProgram.not_overflows_ofActivity
    (Handler.asks_program_of_mem_plain enumeration ports settings h _) stage) List.not_mem_nil

theorem not_overflows_dispatchEach {dispatch : Action → Context → RunProgram (Outcome × Context)}
    {actions : List Action} {expand : Action → List Action}
    (h : ∀ b ∈ actions, ∀ (ctx : Context) (stage : Stage σ), ctx.board = some board →
      stage.registry = .standard enumeration ports settings →
        Enacts devices enumeration ports settings (expand b) ctx stage
            ((dispatch b ctx).run (Stage.answer devices) stage) ∧
          ¬RunProgram.Overflows (Stage.answer devices) (dispatch b ctx) stage)
    (hboard : ctx.board = some board)
    (hregistry : stage.registry = .standard enumeration ports settings) :
    ¬RunProgram.Overflows (Stage.answer devices) (dispatchEach dispatch actions ctx) stage := by
  induction actions generalizing ctx stage with
  | nil => exact List.not_mem_nil
  | cons b rest ih =>
    obtain ⟨hfirst, hfits⟩ := h b List.mem_cons_self ctx stage hboard hregistry
    have hrest := ih (fun c hc => h c (List.mem_cons_of_mem b hc)) (hfirst.keeps.board.trans hboard)
      (hfirst.registry.trans hregistry)
    exact RunProgram.not_overflows_bind hfits (RunProgram.not_overflows_bind hrest List.not_mem_nil)

/-- A dispatch that unfolds to plain actions does not overflow. -/
theorem not_overflows_dispatchWithin (h : board.Unfolds depth a) (hboard : ctx.board = some board)
    (hregistry : stage.registry = .standard enumeration ports settings) :
    ¬RunProgram.Overflows (Stage.answer devices) (dispatchWithin limit depth a ctx) stage := by
  induction h generalizing ctx stage with
  | @plain depth a hprompt hplain =>
    obtain ⟨call, hcall⟩ := exists_dispatchWithin_eq limit depth
    rw [hcall]
    exact not_overflows_dispatchBy_of_mem_plain hplain call hregistry
  | @call depth a row hprompt hcall hfound henabled hunfolds ih =>
    have hrow : calledRow a ctx.markDispatched = .ok row := calledRow_eq_ok hboard hfound henabled
    rw [dispatchWithin, overflows_dispatchBy _ hregistry, hcall, Handler.standard_runRow, handleBy,
      hrow]
    have heach : ¬RunProgram.Overflows (Stage.answer devices)
        (dispatchEach (dispatchWithin limit depth) row.enabledActions ctx.markDispatched.enterCall)
        stage :=
      not_overflows_dispatchEach (fun b hb ctx stage hboard hregistry =>
        ⟨enacts_dispatchWithin (hunfolds b hb) hboard hregistry, ih b hb hboard hregistry⟩)
        hboard hregistry
    exact RunProgram.not_overflows_bind heach List.not_mem_nil

/-! ## Running -/

theorem isOf_outcomeOf {result : Except HandlerError Outcome}
    (h : ∀ outcome, result = .ok outcome → outcome.IsOf a) :
    (outcomeOf a result).IsOf a := by
  cases result with
  | error e => exact Outcome.isOf_failed a _
  | ok outcome => exact h outcome rfl

/-- The outcome of a dispatch carries the identifier and the name of the action. -/
theorem isOf_dispatchWithin (h : board.Unfolds depth a) (hboard : ctx.board = some board)
    (hregistry : stage.registry = .standard enumeration ports settings) (hvars : ctx.vars.IsClear) :
    ((dispatchWithin limit depth a ctx).run (Stage.answer devices) stage).1.1.IsOf a := by
  cases h with
  | plain hprompt hplain =>
    obtain ⟨call, hcall⟩ := exists_dispatchWithin_eq limit depth
    rw [hcall, run_dispatchBy call hregistry,
      run_handleBy_of_ne call (Board.ne_runRow_of_mem_plain hplain)]
    have hmeets :=
      Handler.meets_isClear_of_mem_plain enumeration ports settings hplain ctx.vars hvars
    exact isOf_outcomeOf (Stage.play_ensures hmeets.2 stage).2
  | @call depth _ row hprompt hcall hfound henabled hunfolds =>
    rw [dispatchWithin, run_dispatchBy _ hregistry, hcall, Handler.standard_runRow, handleBy,
      calledRow_eq_ok hboard hfound henabled]
    dsimp only
    rw [run_callRow]
    exact Outcome.isOf_succeeded a _

/-- **A run with calls enacts the expansions of its actions.**  Besides, it publishes the outcomes
of the actions themselves, one each, and does not overflow. -/
theorem runActions_enacts {actions : List Action} (h : ∀ b ∈ actions, board.Unfolds limit b)
    (hboard : ctx.board = some board) (hdepth : ctx.callDepth = 0) (hvars : ctx.vars.IsClear)
    (hregistry : stage.registry = .standard enumeration ports settings)
    (hstop : stage.control.isStopRequested = false) {result : (List Outcome × Context) × Stage σ}
    (hresult : (runActions limit actions ctx).run (Stage.answer devices) stage = result) :
    let played := Stage.play devices
      (enact enumeration ports settings (actions.flatMap (board.expand limit)) ctx.vars) stage
    result.1.2.vars = played.1 ∧
      result.2 = played.2.withControl
        { stage.control with results := stage.control.results ++ result.1.1 } ∧
      List.Forall₂ Outcome.IsOf actions result.1.1 ∧
      ¬RunProgram.Overflows (Stage.answer devices) (runActions limit actions ctx) stage := by
  intro played
  induction actions generalizing ctx stage result with
  | nil =>
    rw [← hresult]
    refine ⟨rfl, ?_, .nil, List.not_mem_nil⟩
    show stage = stage.withControl { stage.control with results := stage.control.results ++ [] }
    rw [List.append_nil]
    rfl
  | cons b rest ih =>
    have hb : board.Unfolds limit b := h b List.mem_cons_self
    have hdispatch : dispatch limit b ctx = dispatchWithin limit limit b ctx := by
      rw [dispatch, hdepth, Nat.sub_zero]
    have hfirst : Enacts devices enumeration ports settings (board.expand limit b) ctx stage
        ((dispatchWithin limit limit b ctx).run (Stage.answer devices) stage) :=
      enacts_dispatchWithin hb hboard hregistry
    have hisOf : ((dispatchWithin limit limit b ctx).run (Stage.answer devices) stage).1.1.IsOf b :=
      isOf_dispatchWithin hb hboard hregistry hvars
    have hfits : ¬RunProgram.Overflows (Stage.answer devices) (dispatch limit b ctx) stage := by
      rw [hdispatch]
      exact not_overflows_dispatchWithin hb hboard hregistry
    rw [← hresult, run_runActions_cons hb.prompt hvars hstop rfl]
    have hcons :=
      @not_overflows_runActions_cons _ _ _ _ rest _ _ _ hb.prompt hvars hstop rfl hfits
    rw [hdispatch] at hcons ⊢
    generalize (dispatchWithin limit limit b ctx).run (Stage.answer devices) stage = performed
      at hfirst hisOf hcons ⊢
    have hclear : performed.1.2.vars.IsClear :=
      hfirst.isClear (fun c hc => (hb.of_mem_expand c hc).2) hvars
    have hstandard :
        (performed.2.withControl (performed.2.control.publish performed.1.1)).registry =
        .standard enumeration ports settings := hfirst.registry.trans hregistry
    have hgoing : (performed.2.control.publish performed.1.1).isStopRequested = false := by
      rw [hfirst.control]
      exact hstop
    obtain ⟨hlast, hstage, houtcomes, hrest⟩ := ih (fun c hc => h c (List.mem_cons_of_mem b hc))
      (hfirst.keeps.board.trans hboard) (hfirst.keeps.callDepth.trans hdepth) hclear
        hstandard hgoing rfl
    have hplayed : played = Stage.play devices
        (enact enumeration ports settings (rest.flatMap (board.expand limit)) performed.1.2.vars)
          performed.2 :=
      hfirst.play_append _
    rw [Stage.play_withControl, ← hplayed] at hlast hstage
    refine ⟨hlast, ?_, .cons hisOf houtcomes, hcons hrest⟩
    dsimp only
    rw [hstage, hfirst.control]
    simp [Stage.withControl, Control.publish]

/-! ## Running a board in a session -/

theorem startingContext_isClear (c : Control) (board : Board) {seed : Variables}
    (hseeds : c.seeds.IsClear)
    (hseed : seed.IsClear) : (c.startingContext board seed).vars.IsClear := by
  have hfind : ∀ key, c.seeds.find? key = none → seed.find? key = none → key ≠ runningVariable →
      key ≠ boardVariable → (c.startingContext board seed).vars.find? key = none := by
    intro key hc hs hrunning hboard
    show ((((Dictionary.empty.insert boardVariable _).insert runningVariable _).insertAll
        c.seeds.toList).insertAll
      seed.toList).find? key = none
    rw [Dictionary.find?_insertAll_of_ne (Dictionary.ne_of_find?_eq_none hs),
      Dictionary.find?_insertAll_of_ne (Dictionary.ne_of_find?_eq_none hc),
      Dictionary.find?_insert_of_ne _ _ hrunning, Dictionary.find?_insert_of_ne _ _ hboard,
      Dictionary.find?_empty]
  exact ⟨hfind _ hseeds.noSkip hseed.noSkip (by decide) (by decide),
    hfind _ hseeds.noBreak hseed.noBreak (by decide) (by decide)⟩

namespace Session

/-- A session after an activity that gave the variables of a run. -/
structure EndsAs (played : Variables × Stage σ) (s : Session σ) : Prop where
  events : s.stage.events = played.2.events
  clock : s.stage.clock = played.2.clock
  devices : s.stage.devices = played.2.devices
  vars : s.control.vars = played.1.insert runningVariable (.bool false)

/-- What two runs did to the world and when is the same, and so are the variables that they left. -/
structure SameEffects (first second : Session σ) : Prop where
  events : first.stage.events = second.stage.events
  clock : first.stage.clock = second.stage.clock
  devices : first.stage.devices = second.stage.devices
  vars : first.control.vars = second.control.vars

theorem EndsAs.sameEffects {played : Variables × Stage σ} {first second : Session σ}
    (h : EndsAs played first) (h' : EndsAs played second) : SameEffects first second :=
  ⟨h.events.trans h'.events.symm, h.clock.trans h'.clock.symm, h.devices.trans h'.devices.symm,
    h.vars.trans h'.vars.symm⟩

variable {setting : Setting σ} {s : Session σ} {seed : Variables}

/-- A session in which a run can begin that is alone and asked for nothing, with the
standard handlers. -/
structure IsReady (setting : Setting σ) (ports : PortSet) (s : Session σ) : Prop where
  registry : ∃ enumeration, s.stage.registry = .standard enumeration ports setting.settings
  alone : s.background = none
  notRunning : s.control.isRunning = false
  notPaused : s.control.isPaused = false
  seeds : s.control.seeds.IsClear

/-- The run of a board whose actions unfold: it ends as the activity of their expansions does, and
gives the outcomes of the actions themselves. -/
theorem run_enacts (hs : IsReady setting ports s)
    (hregistry : s.stage.registry = .standard enumeration ports setting.settings)
    (hseed : seed.IsClear) (h : ∀ b ∈ board.flattened, board.Unfolds setting.callDepthLimit b) :
    EndsAs (Stage.play setting.devices
        (enact enumeration ports setting.settings
          (board.flattened.flatMap (board.expand setting.callDepthLimit))
          (s.control.startingContext board seed).vars) s.stage)
      (s.run setting board seed).2 ∧
    ∃ outcomes, (s.run setting board seed).1 = some (.ok outcomes) ∧
      List.Forall₂ Outcome.IsOf board.flattened outcomes := by
  have hclear := startingContext_isClear s.control board hs.seeds hseed
  have hstandard : (s.stage.withControl s.control.started).registry =
      .standard enumeration ports setting.settings := hregistry
  obtain ⟨result, hresult⟩ : ∃ result, (runBoard setting.callDepthLimit board
      (s.control.startingContext board seed)).run (Stage.answer setting.devices)
        (s.stage.withControl s.control.started) = result := ⟨_, rfl⟩
  obtain ⟨hvars, hstage, houtcomes, hfits⟩ :=
    runActions_enacts h rfl rfl hclear hstandard rfl hresult
  rw [run_eq setting board seed hs.alone hs.notRunning hs.notPaused hfits hresult]
  rw [Stage.play_withControl] at hvars hstage
  refine ⟨⟨?_, ?_, ?_, ?_⟩, result.1.1, rfl, houtcomes⟩
  · show result.2.events = _
    rw [hstage]
    rfl
  · show result.2.clock = _
    rw [hstage]
    rfl
  · show result.2.devices = _
    rw [hstage]
    rfl
  · show result.1.2.vars.insert runningVariable (.bool false) = _
    rw [hvars]

/-- **A run with calls has the effects of the run with its calls inlined.** -/
theorem run_sameEffects {inlined : Board} (hs : IsReady setting ports s) (hseed : seed.IsClear)
    (h : ∀ b ∈ board.flattened, board.Unfolds setting.callDepthLimit b)
    (hid : inlined.id = board.id)
    (hinlined : inlined.flattened = board.flattened.flatMap (board.expand setting.callDepthLimit)) :
    SameEffects (s.run setting board seed).2 (s.run setting inlined seed).2 := by
  have hplain : ∀ b ∈ inlined.flattened, b.IsPrompt ∧ b.kind ∈ ActionKind.plain := by
    intro b hb
    rw [hinlined, List.mem_flatMap] at hb
    obtain ⟨a, ha, hb⟩ := hb
    exact (h a ha).of_mem_expand b hb
  have hleft : ∀ b ∈ inlined.flattened, inlined.Unfolds setting.callDepthLimit b := fun b hb =>
    .plain (hplain b hb).1 (hplain b hb).2
  have hexpand : inlined.flattened.flatMap (inlined.expand setting.callDepthLimit) =
      board.flattened.flatMap (board.expand setting.callDepthLimit) := by
    rw [← hinlined]
    exact Board.flatMap_expand_of_mem_plain fun b hb => (hplain b hb).2
  have hstart : (s.control.startingContext inlined seed).vars =
      (s.control.startingContext board seed).vars := by
    simp only [Control.startingContext, Context.forBoard, hid]
    rfl
  obtain ⟨enumeration, hregistry⟩ := hs.registry
  have hcalled := (run_enacts hs hregistry hseed h).1
  have hwithout := (run_enacts hs hregistry hseed hleft).1
  rw [hexpand, hstart] at hwithout
  exact hcalled.sameEffects hwithout

end Session

end ActionBoard
