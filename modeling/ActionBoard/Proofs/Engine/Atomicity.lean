import ActionBoard.Device.Faults
import ActionBoard.Proofs.Engine.CallStack
import ActionBoard.Proofs.Handler.Atomicity

/-!
# Errors leave nothing behind

Dispatching an action always gives an outcome of that action.  If the outcome has an error,
nothing has happened to the variables, to the count of open calls or to the records: standard
handlers do all or nothing, and the call of a row has an error only if the row is not called at
all.  Once a row is called, its own actions may have errors, but the call has none, whatever
handlers they are dispatched to.

* `atomic_handleBy`: a standard handler executes an action or rejects it as a whole, also
  where it calls a row.
* `errors_are_atomic`: what follows for a dispatch, in any world that has the standard handler for
  the action or none.
* `tables_answer`: the tables of recording devices with faults change only by updates that do not
  fail, so the records of `errors_are_atomic` may be theirs.
-/

namespace ActionBoard

/-- The answer to a request says that a record may have been changed. -/
def RunRequest.Updates : (q : RunRequest) → q.Answer → Prop
  | .effect e, answer => e.Updates answer
  | _, _ => False

/-- A program by which an action is executed or rejected as a whole; once a record has been changed,
it is executed. -/
def RunProgram.Atomic (a : Action) (ctx : Context) (program : RunProgram (Outcome × Context)) :
    Prop :=
  program.Commits RunRequest.Updates (fun result => result.1.IsAtomic a ctx.vars result.2.vars)
    fun result => result.1.IsClean a

variable {a : Action} {ctx : Context}

/-- What gives no error may change records. -/
theorem RunProgram.atomic_of_ensures {program : RunProgram (Outcome × Context)}
    (h : program.Ensures fun result => result.1.IsClean a) : program.Atomic a ctx :=
  Dialogue.Ensures.commits (fun _ hclean => .inl hclean) h

/-- An atomic handler is atomic as a part of a run. -/
theorem atomic_runHandling {program : Handling Outcome} (h : Handling.Atomic a program)
    (ctx : Context) : (runHandling program a ctx).Atomic a ctx := by
  have hactivity : (RunProgram.ofActivity (program.run ctx.vars)).Commits RunRequest.Updates
      (fun ending => (outcomeOf a ending.1).IsAtomic a ctx.vars ending.2)
      fun ending => (outcomeOf a ending.1).IsClean a :=
    Dialogue.Commits.translate _ _ (fun _ _ => Iff.rfl) (h ctx.vars)
  exact hactivity.bind (fun _ hatomic => hatomic) fun _ hclean => hclean

/-! ## Calls of rows -/

/-- A row that cannot be called changes nothing, with an error or without. -/
theorem isAtomic_of_calledRow {outcome : Outcome} (h : calledRow a ctx = .error outcome)
    (vars : Variables) : outcome.IsAtomic a vars vars := by
  unfold calledRow at h
  dsimp only at h
  split at h
  · cases h
    exact .inr ⟨Outcome.isRejection_failed a _, rfl⟩
  · split at h
    · cases h
      exact .inr ⟨Outcome.isRejection_failed a _, rfl⟩
    · split at h
      · cases h
      · cases h
        exact .inl (Outcome.isClean_unmet a _)

/-- The call of a row has no error, whatever comes of its actions. -/
theorem atomic_callRow (dispatch : Action → Context → RunProgram (Outcome × Context))
    (a : Action) (row : Row) (ctx : Context) : (callRow dispatch a row ctx).Atomic a ctx :=
  RunProgram.atomic_of_ensures <|
    (Dialogue.ensures_true _).bind fun _ _ => Outcome.isClean_succeeded a _

/-! ## Dispatches -/

variable {call : Action → Row → Context → RunProgram (Outcome × Context)}

/-- **A standard handler executes or rejects an action as a whole**, if calls of rows do. -/
theorem atomic_handleBy (hcall : ∀ row ctx, (call a row ctx).Atomic a ctx)
    (enumeration : Enumeration) (ports : PortSet) (settings : EngineSettings) (ctx : Context) :
    (handleBy call (Handler.standard enumeration ports settings a.kind) a ctx).Atomic a ctx := by
  by_cases hkind : a.kind = .runRow
  · rw [hkind, Handler.standard_runRow, handleBy]
    cases hrow : calledRow a ctx with
    | error outcome => exact isAtomic_of_calledRow hrow ctx.vars
    | ok row => exact hcall row ctx
  · obtain ⟨execute, hstandard, hexecute⟩ :=
      Handler.standard_eq_leaf enumeration ports settings a hkind
    rw [hstandard, handleBy, hexecute]
    exact atomic_runHandling (Handler.atomic_program enumeration ports settings a) ctx

/-- A dispatch calls rows as a whole, or not where it is too deep for that. -/
theorem exists_dispatchWithin_eq_dispatchBy (limit remaining : Nat) :
    ∃ call, dispatchWithin limit remaining = dispatchBy call ∧ ∀ a row ctx,
      (call a row ctx).Atomic a ctx := by
  cases remaining with
  | zero => exact ⟨_, rfl, fun a _ _ => .inr ⟨Outcome.isRejection_failed a _, rfl⟩⟩
  | succ remaining => exact ⟨_, rfl, fun a row ctx => atomic_callRow _ a row ctx⟩

variable {σ : Type} {answer : (q : RunRequest) → σ → q.Answer × σ} {world : σ}

/-- What only updates that do not fail change. -/
def ChangedByUpdates {τ : Type} (answer : (q : RunRequest) → σ → q.Answer × σ)
    (part : σ → τ) : Prop :=
  ∀ q s, ¬ q.Updates (answer q s).1 → part (answer q s).2 = part s

/-- A dispatch to a standard handler, or to none, ends without an error, or has changed neither the
variables nor anything that updates change. -/
theorem isAtomic_run_dispatch {enumeration : Enumeration} {ports : PortSet}
    {settings : EngineSettings} (limit : Nat) (ctx : Context)
    (h : (answer (.handlerFor a.kind) world).1 = none ∨
      (answer (.handlerFor a.kind) world).1 =
        some (Handler.standard enumeration ports settings a.kind))
    {τ : Type} {part : σ → τ} (hpart : ChangedByUpdates answer part) :
    ((dispatch limit a ctx).run answer world).1.1.IsClean a ∨
      ((dispatch limit a ctx).run answer world).1.1.IsRejection a ∧
        ((dispatch limit a ctx).run answer world).1.2.vars = ctx.vars ∧
        part ((dispatch limit a ctx).run answer world).2 = part world := by
  obtain ⟨call, hcalls, hatomic⟩ :=
    exists_dispatchWithin_eq_dispatchBy limit (limit - ctx.callDepth)
  have hasked : part (answer (.handlerFor a.kind) world).2 = part world :=
    hpart (.handlerFor a.kind) world id
  rw [dispatch, hcalls, dispatchBy_eq_ask, Dialogue.run_ask]
  rcases h with hnone | hstandard
  · rw [hnone]
    exact .inr ⟨Outcome.isRejection_failed a _, rfl, hasked⟩
  · rw [hstandard]
    have hhandled := atomic_handleBy (fun row ctx => hatomic a row ctx) enumeration ports settings
      ctx.markDispatched
    rcases hhandled.run hpart
      (answer (.handlerFor a.kind) world).2 with ⟨hclean | ⟨hrejection, hvars⟩, hkept⟩ | hclean
    · exact .inl hclean
    · exact .inr ⟨hrejection, hvars, hkept.trans hasked⟩
    · exact .inl hclean

/-- **Errors are atomic.**  An action that is dispatched to its standard handler, or to none, has an
outcome of its own: a success, a failure without an error, or a failure with an error and no
message.  In the last case the variables, the count of open calls and whatever only updates of
records change are as they were. -/
theorem errors_are_atomic (limit : Nat) (answer : (q : RunRequest) → σ → q.Answer × σ) (a : Action)
    (ctx : Context)
    (world : σ) (enumeration : Enumeration) (ports : PortSet) (settings : EngineSettings)
    (h : (answer (.handlerFor a.kind) world).1 = none ∨
      (answer (.handlerFor a.kind) world).1 =
        some (Handler.standard enumeration ports settings a.kind)) :
    let ended := (dispatch limit a ctx).run answer world
    ended.1.1.actionId = a.id ∧ ended.1.1.actionName = a.name ∧
      (ended.1.1.success = true ∧ ended.1.1.error = none ∨ ended.1.1.success = false ∧
        ended.1.1.error = none ∨
        ended.1.1.success = false ∧ ended.1.1.error ≠ none ∧ ended.1.1.message = "") ∧
      (ended.1.1.error ≠ none → ended.1.2.vars = ctx.vars ∧ ended.1.2.callDepth = ctx.callDepth ∧
        ∀ {τ : Type} {part : σ → τ}, ChangedByUpdates answer part → part ended.2 = part world) := by
  intro ended
  have hkeeps : ctx.Keeps ended.1.2 := (dispatchWithin_keeps limit _ a ctx).run world
  have hatomic : ∀ {τ : Type} {part : σ → τ}, ChangedByUpdates answer part → ended.1.1.IsClean a ∨
      ended.1.1.IsRejection a ∧ ended.1.2.vars = ctx.vars ∧ part ended.2 = part world :=
    fun hpart => isAtomic_run_dispatch limit ctx h hpart
  have hanything : ChangedByUpdates answer fun _ => () := fun _ _ _ => rfl
  rcases hatomic hanything with ⟨hof, hnone⟩ | ⟨⟨hof, hfailure, hmessage, herror⟩, hvars, -⟩
  · refine ⟨hof.1, hof.2, ?_, fun herror => absurd hnone herror⟩
    cases hsuccess : ended.1.1.success with
    | true => exact .inl ⟨rfl, hnone⟩
    | false => exact .inr (.inl ⟨rfl, hnone⟩)
  · refine ⟨hof.1, hof.2, .inr (.inr ⟨hfailure, herror, hmessage⟩),
      fun _ => ⟨hvars, hkeeps.callDepth, ?_⟩⟩
    intro τ part hpart
    rcases hatomic hpart with hclean | ⟨-, -, hkept⟩
    · exact absurd hclean.2 herror
    · exact hkept

/-! ## Records in memory -/

/-- Recording devices change their tables only by updates. -/
theorem tables_respond (recorder : Recorder) (call : DeviceCall)
    (h : ∀ answer, ¬ Effect.Updates (.device call) (.ok answer)) :
    (recorder.respond call).2.tables = recorder.tables := by
  cases call with
  | updateRecord => exact absurd ⟨_, rfl⟩ (h false)
  | samplePixel =>
    show recorder.sample.2.tables = recorder.tables
    unfold Recorder.sample
    split
    · rfl
    · rfl
  | _ => rfl

/-- An update that fails does not reach the tables. -/
theorem tables_devices (f : FaultyRecorder) (call : DeviceCall)
    (h : ¬ Effect.Updates (.device call) (FaultyRecorder.devices call f).1) :
    (FaultyRecorder.devices call f).2.recorder.tables = f.recorder.tables := by
  unfold FaultyRecorder.devices at h ⊢
  dsimp only at h ⊢
  split
  · rfl
  · rename_i hfault
    rw [hfault] at h
    dsimp only at h
    split
    · rfl
    · rename_i hplanned
      rw [hplanned] at h
      refine tables_respond f.recorder call fun answer hupdates => h ?_
      cases call with
      | updateRecord => exact ⟨_, rfl⟩
      | _ => exact hupdates

/-- The tables of recording devices with faults are changed by updates that do not fail and
by nothing else. -/
theorem changedByUpdates_tables :
    ChangedByUpdates (Stage.answer FaultyRecorder.devices) fun stage =>
      stage.devices.recorder.tables := by
  intro q stage h
  cases q with
  | effect e =>
    cases e with
    | device call => exact tables_devices stage.devices call h
    | log => rfl
    | wait => rfl
    | overflow => rfl
  | _ => rfl

/-- An action that saves a value in a table. -/
def savingAction : Action :=
  (Action.new "1" .dbSave "").withMeta "database" (.string "list")

/-- A stage with that table, on which updates fail. -/
def failingStage : Stage FaultyRecorder where
  devices :=
    { recorder := { tables := Dictionary.empty.insert "list" ⟨["name"], []⟩ }
      plan := { faults := [⟨"update_first", 0, .failed ""⟩] } }
  registry := .standard .byName .everything {}

/-- An update that fails: the action is rejected, and the tables are as they were. -/
theorem errors_are_atomic_of_failing_update :
    let answer := Stage.answer FaultyRecorder.devices
    let ended := (dispatch 0 savingAction {}).run answer failingStage
    (answer (.handlerFor savingAction.kind) failingStage).1 =
      some (Handler.standard .byName .everything {} savingAction.kind) ∧
      ended.1.1.error = some "device call failed: " ∧ ended.1.1.message = "" ∧ ended.1.2.vars = ∅ ∧
      ended.2.devices.recorder.tables = failingStage.devices.recorder.tables := by
  intro answer ended
  have hstandard : (answer (.handlerFor savingAction.kind) failingStage).1 =
      some (Handler.standard .byName .everything {} savingAction.kind) := rfl
  have herror : ended.1.1.error = some "device call failed: " := by decide +kernel
  have hatomic := errors_are_atomic 0 answer savingAction {} failingStage .byName .everything {}
    (.inr hstandard)
  obtain ⟨-, -, houtcome, hunchanged⟩ := hatomic
  have hfailed : ended.1.1.error ≠ none := herror ▸ Option.some_ne_none _
  obtain ⟨hvars, -, htables⟩ := hunchanged hfailed
  refine ⟨hstandard, herror, ?_, hvars, htables changedByUpdates_tables⟩
  rcases houtcome with ⟨-, hnone⟩ | ⟨-, hnone⟩ | ⟨-, -, hmessage⟩
  · exact absurd hnone hfailed
  · exact absurd hnone hfailed
  · exact hmessage

end ActionBoard
