import ActionBoard.Proofs.Engine.Polling

/-!
# Waiting for any change

There are two ways to wait until a pixel changes: the wait for a change, and the wait for a color
that is told to take any change.  Each samples the pixel, takes the sample for the color to compare
with, and looks until another color is seen.  They are two programs with the same questions, so that
no screen can tell them apart, whatever it answers and whenever it fails.  What they end with
differs in one place: the message about having waited in vain.

* `EndsAlike`: the same ending, or two unmet outcomes.
* `runsAlike_awaitColor`: the two programs agree (`Dialogue.Agree`).  They are gone through side by
  side; a step that both take in the same way is put in front of the others by `RunsAlike.behind`.
* `WaitsForChange.past_timeout`: an unmet outcome takes longer than the timeout.
* `any_change_is_change`: what dispatching an action comes to, as the one kind and as the other.

The tolerance that colors are compared with is that of the first sample, in both.
-/

namespace ActionBoard

variable {σ α : Type} {devices : Devices σ} {enumeration : Enumeration} {ports : PortSet}
  {settings : EngineSettings} {a : Action} {ctx : Context} {stage : Stage σ}

/-! ## Two programs -/

/-- The same ending, or two unmet outcomes of an action. -/
inductive EndsAlike (a : Action) :
    Except HandlerError Outcome × Variables → Except HandlerError Outcome × Variables → Prop
  | same (ending : Except HandlerError Outcome × Variables) : EndsAlike a ending ending
  | unmet (first second : String) (vars : Variables) :
      EndsAlike a (.ok (.unmet a first), vars) (.ok (.unmet a second), vars)

/-- Two programs that nobody who answers can tell apart, with endings that are alike. -/
def RunsAlike (a : Action) (first second : Handling Outcome) : Prop :=
  ∀ vars, Dialogue.Agree (fun _ _ => True) (EndsAlike a) (first.run vars) (second.run vars)

theorem RunsAlike.refl (program : Handling Outcome) : RunsAlike a program program := fun vars =>
  .refl .same (program.run vars)

/-- Programs that run alike do so behind a program that comes before both. -/
theorem RunsAlike.behind (program : Handling α) {first second : α → Handling Outcome}
    (h : ∀ result, RunsAlike a (first result) (second result)) :
    RunsAlike a (program >>= first) (program >>= second) := by
  refine fun vars => Dialogue.Agree.behind (program.run vars) fun ending => ?_
  obtain ⟨ended, after⟩ := ending
  cases ended with
  | ok result => exact h result after
  | error e => exact .done (.same _)

/-- A wait for a color that takes any change runs like a wait for a change. -/
theorem runsAlike_awaitColor (hchange : a.metaBool? "any_change" = some true) :
    RunsAlike a (Handler.awaitColor ports settings a) (Handler.awaitChange ports settings a) := by
  rw [Handler.awaitColor, Handler.awaitChange]
  refine .behind (Handler.watchedPixel ports a) fun place => ?_
  rw [hchange]
  refine .behind (Handling.device (.samplePixel place)) fun sample => ?_
  cases sample with
  | none => exact .refl (pure (Handler.noInitialSample a))
  | some initial =>
    refine .behind (Handler.watchPixel (.ofAction settings a) place fun c => !initial.accepts c)
      fun met => ?_
    cases met with
    | true => exact .refl (pure (.succeeded a (Handler.pixelMessage place "changed")))
    | false => exact fun vars => .done (.unmet _ _ vars)

/-! ## On a stage -/

theorem EndsAlike.outcomes {first second : Except HandlerError Outcome × Variables}
    (h : EndsAlike a first second) :
    (outcomeOf a first.1 = outcomeOf a second.1 ∨
      ∃ message message', outcomeOf a first.1 = .unmet a message ∧ outcomeOf a second.1 =
        .unmet a message') ∧
      first.2 = second.2 := by
  cases h with
  | same ending => exact ⟨.inl rfl, rfl⟩
  | unmet first second vars => exact ⟨.inr ⟨first, second, rfl, rfl⟩, rfl⟩

/-- On every stage programs that run alike leave behind the same, and their outcomes are the
same or both unmet. -/
theorem RunsAlike.handle {first second : Handling Outcome} (h : RunsAlike a first second)
    (devices : Devices σ) (ctx : Context) (stage : Stage σ) :
    let ran := stage.handle devices first a ctx
    let ran' := stage.handle devices second a ctx
    ran.2 = ran'.2 ∧ ran.1.2 = ran'.1.2 ∧
      (ran.1.1 = ran'.1.1 ∨ ∃ message message', ran.1.1 = .unmet a message ∧
        ran'.1.1 = .unmet a message') := by
  intro ran ran'
  have hactivity :
      Dialogue.Agree (fun _ _ => True) (EndsAlike a) (RunProgram.ofActivity (first.run ctx.vars))
      (RunProgram.ofActivity (second.run ctx.vars)) :=
    (h ctx.vars).translate _ _ fun _ _ _ => trivial
  have hplayed : EndsAlike a (Stage.play devices (first.run ctx.vars) stage).1
        (Stage.play devices (second.run ctx.vars) stage).1 ∧ ran.2 = ran'.2 :=
    hactivity.run (fun _ _ => trivial) stage
  obtain ⟨hending, hstage⟩ := hplayed
  obtain ⟨houtcomes, hvars⟩ := hending.outcomes
  exact ⟨hstage, congrArg ctx.markDispatched.withVariables hvars, houtcomes⟩

/-! ## Time -/

theorem PollsTo.past_timeout {call : DeviceCall} {found? : call.Answer → Option α}
    {timeout interval : Nat}
    {after : Stage σ} (hpolls : PollsTo devices call found? timeout interval stage (.ok none) after)
    (hinterval : 0 < interval) : stage.clock + timeout < after.clock := by
  cases hpolls with
  | unmet _ =>
    have hround : timeout < (timeout / interval + 1) * interval :=
      (Nat.div_lt_iff_lt_mul hinterval).mp (Nat.lt_succ_self _)
    exact Nat.add_lt_add_left hround stage.clock

/-- A wait for a change that is unmet has taken longer than its timeout. -/
theorem WaitsForChange.past_timeout {place : Coordinates} {timeout interval : Nat}
    {ran : (Outcome × Context) × Stage σ}
    (h : WaitsForChange devices place timeout interval a ctx stage ran)
    (hinterval : 0 < interval) {message : String} (hunmet : ran.1.1 = .unmet a message) :
    stage.clock + timeout < ran.2.clock := by
  cases h with
  | sampleFailed _ => cases hunmet
  | sampleMissing _ => cases hunmet
  | @watched initial after ran sampled polled =>
    obtain ⟨ending, final, hpolls, rfl⟩ := polled
    have hclock : after.clock = stage.clock := congrArg (fun called => called.2.clock) sampled.symm
    cases ending with
    | error e => cases hunmet
    | ok found =>
      cases found with
      | some result => cases hunmet
      | none => exact hclock ▸ hpolls.past_timeout hinterval

theorem awaitChange_past_timeout (hkind : a.kind = .waitPixelChange) {message : String}
    (hunmet : (stage.handle devices (Handler.awaitChange ports settings a) a ctx).1.1 =
      .unmet a message) :
    stage.clock + (Polling.ofAction settings a).timeout <
      (stage.handle devices (Handler.awaitChange ports settings a) a ctx).2.clock := by
  cases hscreen : ports.screen with
  | false =>
    rw [Handler.awaitChange, Handler.watchedPixel, hscreen] at hunmet
    cases hunmet
  | true =>
    cases hplace : a.coordinates with
    | none =>
      rw [Handler.awaitChange, Handler.watchedPixel, hscreen, hplace] at hunmet
      cases hunmet
    | some place =>
      rw [awaitChange_eq hscreen hplace] at hunmet ⊢
      refine (waitsForChange_comparing rfl ?_).past_timeout (Polling.ofAction settings
        a).interval_pos hunmet
      rw [hkind]
      rfl

/-! ## Dispatches -/

/-- **To take any change of a color is to wait for a change.**  Let the metadata of an action say
so, and let it be dispatched on a stage with the standard handlers, once as a wait for a color and
once as a wait for a change.  Whatever the screen answers, if there is one, both leave the same
stage behind: the same calls at the same times, the same time, and the devices in the same state.
The outcomes are both successful or neither is, have the same error if any, and say the same unless
they are unmet because the timeout has passed. -/
theorem any_change_is_change (hchange : a.metaBool? "any_change" = some true)
    (hregistry : stage.registry = .standard enumeration ports settings) (limit : Nat) :
    let asColor :=
      (dispatch limit { a with kind := .waitPixelColor } ctx).run (Stage.answer devices) stage
    let asChange :=
      (dispatch limit { a with kind := .waitPixelChange } ctx).run (Stage.answer devices) stage
    let timeout := (a.metaNat? "timeout_ms").getD settings.waitTimeout.toNat
    asColor.2 = asChange.2 ∧ asColor.1.2 = asChange.1.2 ∧
      asColor.1.1.success = asChange.1.1.success ∧ asColor.1.1.error = asChange.1.1.error ∧
      (asColor.1.1.message = asChange.1.1.message ∨
        asColor.1.1.success = false ∧ asColor.1.1.error = none ∧ stage.clock + timeout <
          asColor.2.clock) := by
  intro asColor asChange timeout
  have hcolor : asColor = stage.handle devices (Handler.awaitColor ports settings a) a ctx :=
    run_dispatch_of_simple (a := { a with kind := .waitPixelColor }) hregistry rfl limit
  have hchanged : asChange = stage.handle devices (Handler.awaitChange ports settings a) a ctx :=
    run_dispatch_of_simple (a := { a with kind := .waitPixelChange }) hregistry rfl limit
  have halike :
      RunsAlike a (Handler.awaitColor ports settings a) (Handler.awaitChange ports settings a) :=
    runsAlike_awaitColor hchange
  obtain ⟨hstage, hctx, houtcome⟩ := halike.handle devices ctx stage
  rw [← hcolor, ← hchanged] at hstage hctx houtcome
  rcases houtcome with hsame | ⟨message, message', hunmet, hunmet'⟩
  · exact ⟨hstage, hctx, congrArg Outcome.success hsame, congrArg Outcome.error hsame,
      .inl (congrArg Outcome.message hsame)⟩
  · have hlate : stage.clock + timeout < asChange.2.clock := by
      rw [hchanged] at hunmet' ⊢
      exact awaitChange_past_timeout (a := { a with kind := .waitPixelChange }) rfl hunmet'
    rw [hunmet, hunmet']
    exact ⟨hstage, hctx, rfl, rfl, .inr ⟨rfl, rfl, hstage ▸ hlate⟩⟩

/-- A wait for any change of the pixel that is red at first. -/
def anyChangeWait : Action :=
  patientWait.withMeta "any_change" (.string "Yes")

/-- The pixel turns blue when the timeout is reached, and both waits say so. -/
theorem any_change_is_change_of_late_change :
    anyChangeWait.metaBool? "any_change" = some true ∧ lateChange.registry =
      .standard .byName .everything {} ∧
      let asColor := (dispatch 16 { anyChangeWait with kind := .waitPixelColor } {}).run
        (Stage.answer sampledScreen)
        lateChange
      let asChange := (dispatch 16 { anyChangeWait with kind := .waitPixelChange } {}).run
        (Stage.answer sampledScreen)
        lateChange
      asColor.2 = asChange.2 ∧ asColor.2.clock = 200 ∧ asColor.1.1.message =
        asChange.1.1.message := by
  have hchange : anyChangeWait.metaBool? "any_change" = some true := by decide
  obtain ⟨hstage, -, -, -, hmessage⟩ :=
    @any_change_is_change _ sampledScreen .byName .everything {} anyChangeWait {} lateChange
      hchange rfl 16
  have hclock :
      ((dispatch 16 { anyChangeWait with kind := .waitPixelColor } {}).run
        (Stage.answer sampledScreen)
      lateChange).2.clock = 200 := by decide +kernel
  refine ⟨hchange, rfl, hstage, hclock, hmessage.resolve_right ?_⟩
  rintro ⟨-, -, hlate⟩
  rw [hclock] at hlate
  exact absurd hlate (by decide)

end ActionBoard
