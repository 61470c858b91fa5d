import ActionBoard.Proofs.Engine.Playing
import ActionBoard.Proofs.Engine.Rejection

/-!
# How runs end

A run ends by itself, when its actions are done or when it comes to a break or to a request to stop;
or it is broken off, because its caller drops it where it is or because a sum in it overflows.  A
run that ends by itself has a last word, with which it takes back a pause.  A run that is broken off
has none.  What is left to do for it is done by somebody else, who takes down the running flag and
nothing but that, so that a pause outlives the run it was meant for.

* `Session.EndsWith`, `Session.BreaksOff`: a move with which a run ends, or is broken off.
* `Session.EndsWith.left`: the two ways to end.
* `Session.stays_open`: once there is no pause, none comes up by itself, and no run
  waits for its end.
* `Session.ended_run_leaves`: what an ended run leaves behind.

The runs that may be hurt are the later ones, in another session state and of another board.  The
pause flag is what connects them with the run that ended, and so it is followed through all moves,
whatever they are.
-/

namespace ActionBoard

open Interleaving (Request)

/-- Neither a run nor a pause. -/
structure Control.AtRest (c : Control) : Prop where
  isRunning : c.isRunning = false
  isPaused : c.isPaused = false

theorem Control.state_of_not_isRunning {c : Control} (h : c.isRunning = false) :
    c.state = .idle := by
  simp [Control.state, h]

theorem Control.atRest_finish (c : Control) (ctx : Context) : (c.finish ctx).AtRest := ⟨rfl, rfl⟩

/-- What the end of a run leaves: a pause, if there was one, only where the run was broken off. -/
inductive Control.Left (brokenOff : Prop) (paused : Bool) (after : Control) : Prop
  | pause (h : brokenOff) (isRunning : after.isRunning = false) (isPaused : after.isPaused = paused)
  | rest (h : ¬brokenOff) (atRest : after.AtRest)

namespace Session

variable {σ : Type} {setting : Setting σ} {s : Session σ}

/-! ## The ways to end -/

/-- A run ends with a move: the one in the background, or the one that is asked for and played in
place. -/
def EndsWith (setting : Setting σ) (s : Session σ) (m : Move) : Prop :=
  (s.background.isSome = true ∧ (s.move setting m).2.background = none) ∨
    ∃ result, (s.move setting m).1 = .ended (some result) ∧ result ≠ .error .alreadyRunning

/-- In the run that ends with a move a sum overflows, and whoever waits for that run is told so. -/
def Overflows (setting : Setting σ) (s : Session σ) (m : Move) : Prop :=
  (s.background.isSome = true ∧
      ({ s with task := .active }.move setting m).2.task = .done (.error .overflow)) ∨
    (s.move setting m).1 = .ended (some (.error .overflow))

/-- The run that ends with a move does not come to its own end. -/
def BreaksOff (setting : Setting σ) (s : Session σ) (m : Move) : Prop :=
  m = .abort ∨ s.Overflows setting m

/-- A run does not end where the background stays and nothing but a rejection comes back. -/
theorem not_endsWith {m : Move} (hbackground : (s.move setting m).2.background = s.background)
    (hreply : ∀ result, (s.move setting m).1 = .ended (some result) →
      result = .error .alreadyRunning) :
    ¬s.EndsWith setting m := by
  rintro (⟨hactive, hnone⟩ | ⟨result, hended, hrun⟩)
  · rw [← hbackground, hnone] at hactive
    cases hactive
  · exact hrun (hreply result hended)

theorem not_endsWith_run (hrunning : s.control.isRunning = true) (board : Board) (seed : Variables)
    (inPlace : Bool) : ¬s.EndsWith setting (.run board seed inPlace) := by
  refine not_endsWith ?_ fun result => ?_
  · rw [move_run_of_isRunning hrunning]
  · rw [move_run_of_isRunning hrunning]
    rintro ⟨⟩
    rfl

theorem not_endsWith_request (r : Request) : ¬s.EndsWith setting (.request r) :=
  not_endsWith rfl nofun

theorem not_endsWith_look (q : Query) : ¬s.EndsWith setting (.look q) :=
  not_endsWith rfl (by cases q <;> nofun)

/-- Nothing that is played in place puts up a pause or takes one down. -/
theorem perform_isPaused {α : Type} (program : RunProgram α) (h : s.background = none) :
    (s.perform setting program).2.control.isPaused = s.control.isPaused := by
  induction program generalizing s with
  | done result => rfl
  | ask request rest ih =>
    cases request using RunRequest.byTiming with
    | wait duration =>
      rw [perform, elapse_of_eq_none h]
      exact ih () h
    | gate =>
      rw [perform]
      split
      · exact ih () h
      · rfl
    | immediate request himmediate =>
      rw [perform_of_isImmediate himmediate]
      have hlater : (s.withStage (s.stage.answer setting.devices request).2).background = none := h
      exact (ih _ hlater).trans (answer_isPaused setting.devices request s.stage)

/-- A run that has ended on a stage leaves a pause there if it gives nothing but an overflow. -/
theorem left_endRun {stage : Stage σ} {paused : Bool} (hpaused : stage.control.isPaused = paused)
    (completion : RunCompletion) :
    Control.Left ((endRun stage completion).1 = .error .overflow) paused
      (endRun stage completion).2.control := by
  cases completion with
  | result ran => exact .rest nofun (stage.control.atRest_finish ran.2)
  | overflow => exact .pause rfl rfl hpaused

theorem left_settled {played : (RunCompletion ⊕ Suspended RunCompletion) × Stage σ} {paused : Bool}
    (hpaused : played.2.control.isPaused = paused) (h : (s.settled played).background = none) :
    Control.Left (({ s with task := .active }.settled played).task =
      .done (.error .overflow)) paused
      (s.settled played).control := by
  obtain ⟨completion | later, stage⟩ := played
  · show Control.Left (Task.done (endRun stage completion).1 = .done (.error .overflow)) paused _
    rw [Task.done.injEq]
    exact left_endRun hpaused completion
  · cases h

theorem left_go (hactive : s.background.isSome = true) (h : (s.go setting).background = none) :
    Control.Left (({ s with task := .active }.go setting).task = .done (.error .overflow))
      s.control.isPaused (s.go setting).control := by
  obtain ⟨suspended, hbackground⟩ := Option.isSome_iff_exists.mp hactive
  have htold : ({ s with task := .active } : Session σ).background = some suspended := hbackground
  rw [go_of_eq_some hbackground] at h ⊢
  rw [go_of_eq_some htold]
  have hsame := @Stage.proceedOnce_sameButResults _ _ setting suspended.rest
    (s.stage.atTime (max suspended.wake s.stage.clock))
  exact left_settled hsame.isPaused h

theorem left_elapse {duration : Nat} (hactive : s.background.isSome = true)
    (h : (s.elapse setting duration).background = none) :
    Control.Left (({ s with task := .active }.elapse setting duration).task =
      .done (.error .overflow))
      s.control.isPaused (s.elapse setting duration).control := by
  have hadvance : (s.advance setting (s.stage.clock + duration)).background = none := h
  show Control.Left (({ s with task := .active }.advance setting (s.stage.clock + duration)).task =
    _)
    s.control.isPaused (s.advance setting (s.stage.clock + duration)).control
  obtain hstill | ⟨suspended, hbackground, hwake, hplayed⟩ :=
    advance_cases setting s (s.stage.clock + duration)
  · rw [hstill] at hadvance
    rw [hadvance] at hactive
    cases hactive
  · have htold : ({ s with task := .active } : Session σ).background = some suspended := hbackground
    rw [hplayed] at hadvance ⊢
    rw [advance_eq_settled htold hwake]
    have hsame := @Stage.proceedUntil_sameButResults _ _ setting (s.stage.clock + duration)
      suspended.rest (s.stage.atTime suspended.wake)
    exact left_settled hsame.isPaused hadvance

theorem left_undertake {program : RunProgram RunCompletion} {inPlace : Bool} {result : RunResult}
    (hnone : s.background = none)
    (h : (s.undertake setting program inPlace).1 = .ended (some result)) :
    Control.Left ((s.undertake setting program inPlace).1 = .ended (some (.error .overflow)))
      s.control.isPaused (s.undertake setting program inPlace).2.control := by
  rw [undertake] at h ⊢
  cases inPlace with
  | false => cases h
  | true =>
    rw [if_pos rfl] at h ⊢
    have hpaused := @perform_isPaused _ setting s _ program hnone
    generalize s.perform setting program = played at h hpaused ⊢
    obtain ⟨_ | completion, after⟩ := played
    · cases h
    · dsimp only
      rw [Reply.ended.injEq, Option.some.injEq]
      exact left_endRun hpaused completion

/-- What is seen of an abort in the control state, if it ends a run. -/
theorem control_abort (hactive : s.background.isSome = true) (h : s.abort.background = none) :
    s.abort.control = s.control.abandon := by
  rw [abort] at h ⊢
  split at h
  · rfl
  · rw [show s.background = none from h] at hactive
    cases hactive

/-- Of the ways to break off a run only an overflow comes about without an abort. -/
theorem breaksOff_iff {m : Move} (hm : m ≠ .abort) :
    s.BreaksOff setting m ↔ s.Overflows setting m :=
  or_iff_right hm

/-- An overflow in the background is told to whoever waits for the run. -/
theorem overflows_iff_of_isSome (hactive : s.background.isSome = true) {m : Move}
    (hreply : (s.move setting m).1 = .nothing) :
    s.Overflows setting m ↔
      ({ s with task := .active }.move setting m).2.task = .done (.error .overflow) := by
  rw [Overflows, hreply]
  constructor
  · rintro (⟨-, htask⟩ | hended)
    · exact htask
    · cases hended
  · exact fun htask => .inl ⟨hactive, htask⟩

/-- **A run is broken off, or it ends by itself and puts the engine at rest.** -/
theorem EndsWith.left (hs : s.IsSound) {m : Move} (h : s.EndsWith setting m) :
    Control.Left (s.BreaksOff setting m) s.control.isPaused (s.move setting m).2.control := by
  cases m with
  | run board seed inPlace =>
    cases hrunning : s.control.isRunning with
    | true => exact absurd h (not_endsWith_run hrunning board seed inPlace)
    | false =>
      have hnone : s.background = none := hs.background_eq_none hrunning
      obtain ⟨hactive, -⟩ | ⟨result, hreply, -⟩ := h
      · rw [hs hactive] at hrunning
        cases hrunning
      · have htold : s.BreaksOff setting (.run board seed inPlace) ↔
            (s.move setting (.run board seed inPlace)).1 = .ended (some (.error .overflow)) := by
          rw [breaksOff_iff Move.noConfusion]
          refine or_iff_right fun hactive => ?_
          rw [hnone] at hactive
          cases hactive.1
        rw [htold]
        rw [move_run_of_idle hrunning] at hreply ⊢
        exact left_undertake (s := s.request Control.started) hnone hreply
  | request r => exact absurd h (not_endsWith_request r)
  | look q => exact absurd h (not_endsWith_look q)
  | abort =>
    obtain ⟨hactive, hnone⟩ | ⟨result, hreply, -⟩ := h
    · have hcontrol : (s.move setting .abort).2.control = s.control.abandon :=
        control_abort hactive hnone
      rw [hcontrol]
      exact .pause (.inl rfl) rfl rfl
    · cases hreply
  | go =>
    obtain ⟨hactive, hnone⟩ | ⟨result, hreply, -⟩ := h
    · rw [breaksOff_iff Move.noConfusion, overflows_iff_of_isSome hactive rfl]
      exact left_go hactive hnone
    · cases hreply
  | elapse duration =>
    obtain ⟨hactive, hnone⟩ | ⟨result, hreply, -⟩ := h
    · rw [breaksOff_iff Move.noConfusion, overflows_iff_of_isSome hactive rfl]
      exact left_elapse hactive hnone
    · cases hreply

/-! ## Without a pause -/

/-- No pause comes up by itself. -/
theorem isPaused_move {m : Move} (hm : m ≠ .request .pause) (h : s.control.isPaused = false) :
    (s.move setting m).2.control.isPaused = false := by
  cases m with
  | run board seed inPlace =>
    cases hrunning : s.control.isRunning with
    | true =>
      rw [move_run_of_isRunning hrunning]
      exact h
    | false =>
      rw [move_run_of_idle hrunning]
      exact (ages_undertake _ inPlace).isPaused_eq_false h
  | request r =>
    cases r with
    | pause => exact absurd rfl hm
    | stop => exact h
    | resume => rfl
    | setVariable name value => exact h
  | look q => exact h
  | abort =>
    show s.abort.control.isPaused = false
    rw [abort]
    split <;> exact h
  | go => exact (ages_go setting s).isPaused_eq_false h
  | elapse duration => exact (ages_elapse setting s duration).isPaused_eq_false h

/-- A run that is played in place without a pause has an end. -/
theorem exists_undertake_eq_ended (program : RunProgram RunCompletion) (hnone : s.background = none)
    (h : s.control.isPaused = false) :
    ∃ result, (s.undertake setting program true).1 = .ended (some result) := by
  rw [undertake, if_pos rfl, perform_eq_run setting program hnone h]
  exact ⟨_, rfl⟩

/-- Nobody who asks for a run without a pause is told that it never ends. -/
theorem reply_ne_ended_none (hs : s.IsSound) (h : s.control.isPaused = false) (m : Move) :
    (s.move setting m).1 ≠ .ended none := by
  cases m with
  | run board seed inPlace =>
    cases hrunning : s.control.isRunning with
    | true =>
      rw [move_run_of_isRunning hrunning]
      nofun
    | false =>
      rw [move_run_of_idle hrunning]
      cases inPlace with
      | false => nofun
      | true =>
        have hnone : (s.request Control.started).background = none := hs.background_eq_none hrunning
        obtain ⟨result, hended⟩ := exists_undertake_eq_ended (RunProgram.checked
          (runBoard setting.callDepthLimit board (s.control.startingContext board seed))) hnone h
        rw [hended]
        nofun
  | look q => cases q <;> nofun
  | _ => nofun

/-- **Without a pause, the gate stays open until somebody asks for one.** -/
theorem stays_open (hs : s.IsSound) (h : s.control.isPaused = false) {later : List Move}
    (hlater : Move.request .pause ∉ later) :
    (s.moves setting later).2.control.gateOpen = true ∧
      Reply.ended none ∉ (s.moves setting later).1 := by
  induction later generalizing s with
  | nil =>
    refine ⟨?_, List.not_mem_nil⟩
    simp [moves, Control.gateOpen, h]
  | cons m rest ih =>
    obtain ⟨hm, hrest⟩ := List.ne_and_not_mem_of_not_mem_cons hlater
    obtain ⟨hopen, hreplies⟩ := ih (hs.move m) (isPaused_move (Ne.symm hm) h) hrest
    refine ⟨hopen, ?_⟩
    exact List.not_mem_cons_of_ne_of_not_mem (reply_ne_ended_none hs h m).symm hreplies

/-- **What an ended run leaves behind.**  However a run ends, in place or in the background, at
whatever point it is dropped or a sum in it overflows: the engine is idle then.  It is paused still
if and only if the run was broken off during a pause.  If it was not, no later run waits for the end
of a pause until somebody asks for one. -/
theorem ended_run_leaves (setting : Setting σ) (hs : s.IsSound) {m : Move}
    (hends : s.EndsWith setting m) :
    let after := (s.move setting m).2
    after.control.state = .idle ∧
      (after.control.isPaused = true ↔ s.BreaksOff setting m ∧ s.control.isPaused = true) ∧
      (¬(s.BreaksOff setting m ∧ s.control.isPaused = true) → ∀ later, Move.request .pause ∉ later →
        (after.moves setting later).2.control.gateOpen = true ∧
          Reply.ended none ∉ (after.moves setting later).1) := by
  intro after
  have hstate : after.control.state = .idle := by
    cases hends.left hs with
    | pause _ hidle _ => exact Control.state_of_not_isRunning hidle
    | rest _ hrest => exact Control.state_of_not_isRunning hrest.isRunning
  have hpaused :
      after.control.isPaused = true ↔ s.BreaksOff setting m ∧ s.control.isPaused = true := by
    cases hends.left hs with
    | pause hbroken _ hsame =>
      rw [hsame]
      exact ⟨fun h => ⟨hbroken, h⟩, fun h => h.2⟩
    | rest hbroken hrest =>
      rw [hrest.isPaused]
      exact ⟨nofun, fun h => absurd h.1 hbroken⟩
  refine ⟨hstate, hpaused, fun hnot later hlater => ?_⟩
  have hdown : after.control.isPaused = false := Bool.eq_false_iff.mpr fun h => hnot (hpaused.mp h)
  exact stays_open (hs.move m) hdown hlater

/-- A run that was stopped while it was paused from its beginning, and the next one. -/
theorem ended_run_leaves_of_stopped :
    let setting : Setting Unit := ⟨fun _ s => (.error (.unavailable ""), s), {}⟩
    let new : Session Unit := { stage := CallStack.idleStage }
    let s := (new.moves setting
      [.request .pause, .run waitingBoard ∅ false, .elapse 250, .request .stop]).2
    let after := (s.move setting (.elapse 1000)).2
    let later : List Move := [.run waitingBoard ∅ true]
    s.IsSound ∧ s.EndsWith setting (.elapse 1000) ∧ s.control.isPaused = true ∧
      after.control.state = .idle ∧ after.control.isPaused = false ∧
      (after.moves setting later).2.control.gateOpen = true ∧
        Reply.ended none ∉ (after.moves setting later).1 := by
  intro setting new s after later
  have hsound : s.IsSound := (isSound_of_eq_none (s := new) rfl).moves _
  have hactive : s.background.isSome = true := by decide +kernel
  have hnone : after.background.isNone = true := by decide +kernel
  have hends : s.EndsWith setting (.elapse 1000) :=
    .inl ⟨hactive, Option.isNone_iff_eq_none.mp hnone⟩
  have hpaused : s.control.isPaused = true := by decide +kernel
  obtain ⟨hidle, hstill, hlater⟩ := ended_run_leaves setting hsound hends
  have hdown : after.control.isPaused = false := by decide +kernel
  have hkept : ¬(s.BreaksOff setting (.elapse 1000) ∧ s.control.isPaused = true) := fun h =>
    Bool.false_ne_true (hdown.symm.trans (hstill.mpr h))
  exact ⟨hsound, hends, hpaused, hidle, hdown, hlater hkept later (by simp [later])⟩

/-- A run is dropped while it waits at the closed gate.  Nobody pauses the next one, which waits at
the gate all the same, as it still does after an hour. -/
theorem pause_outlives_dropped_run :
    let setting : Setting Unit := ⟨fun _ s => (.error (.unavailable ""), s), {}⟩
    let new : Session Unit := { stage := CallStack.idleStage }
    let s := (new.moves setting [.request .pause, .run waitingBoard ∅ false, .elapse 250]).2
    let after := (s.move setting .abort).2
    s.IsSound ∧ s.EndsWith setting .abort ∧ after.control.state = .idle ∧
      after.control.isPaused = true ∧
      (after.moves setting [.run waitingBoard ∅ false, .elapse 3600000]).2.control.state =
        .paused := by
  intro setting new s after
  have hsound : s.IsSound := (isSound_of_eq_none (s := new) rfl).moves _
  have hactive : s.background.isSome = true := by decide +kernel
  have hnone : after.background.isNone = true := by decide +kernel
  have hends : s.EndsWith setting .abort := .inl ⟨hactive, Option.isNone_iff_eq_none.mp hnone⟩
  exact ⟨hsound, hends, by decide +kernel, by decide +kernel, by decide +kernel⟩

end Session

end ActionBoard
