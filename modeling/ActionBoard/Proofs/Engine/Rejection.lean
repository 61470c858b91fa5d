import ActionBoard.Proofs.Engine.CallStack
import ActionBoard.Proofs.Engine.Moves

/-!
# Requests for a run while another one is under way

While the run of one caller goes on, others may ask for a run of their own, which they do not
get.  Such a request has to be harmless: the state in which a run begins is made by forgetting
things, among them a request to stop and the variables that wait for the next run, and these may
be somebody else's.

* `Session.IsSound`: the engine counts as running while there is a run in the background.
* `Session.IsSound.move`: this is so after every move.
* `Session.move_run_of_isRunning`, `Session.move_run_of_idle`: what becomes of a request for a run.
* `Session.rejection_leaves_no_trace`: a session with such a request and the session without it.

That the engine counts as running is what makes it reject; that there is a run is what callers know.
The invariant is needed to get from the one to the other.
-/

namespace ActionBoard

open Interleaving (Request)

namespace Session

variable {σ : Type} {setting : Setting σ} {s : Session σ}

/-! ## The running flag -/

/-- Time passes without a run. -/
theorem elapse_of_eq_none (h : s.background = none) (duration : Nat) :
    s.elapse setting duration = s.withStage (s.stage.atTime (s.stage.clock + duration)) := by
  rw [elapse, advance_of_eq_none h]

/-- What is played in place leaves the background empty. -/
theorem perform_background {α : Type} (program : RunProgram α) (h : s.background = none) :
    (s.perform setting program).2.background = none := by
  induction program generalizing s with
  | done result => exact h
  | ask request rest ih =>
    cases request using RunRequest.byTiming with
    | wait duration =>
      rw [perform, elapse_of_eq_none h]
      exact ih () h
    | gate =>
      rw [perform]
      split
      · exact ih () h
      · exact h
    | immediate request himmediate =>
      rw [perform_of_isImmediate himmediate]
      exact ih _ h

/-- The engine counts as running while there is a run in the background. -/
def IsSound (s : Session σ) : Prop :=
  s.background.isSome = true → s.control.isRunning = true

theorem isSound_of_eq_none (h : s.background = none) : s.IsSound := by
  intro hactive
  rw [h] at hactive
  cases hactive

theorem isSound_settled {played : (RunCompletion ⊕ Suspended RunCompletion) × Stage σ}
    (h : played.2.control.isRunning = true) : (s.settled played).IsSound := by
  obtain ⟨_ | _, _⟩ := played
  · exact isSound_of_eq_none rfl
  · exact fun _ => h

theorem IsSound.isRunning {suspended : Suspended RunCompletion} (hs : s.IsSound)
    (h : s.background = some suspended) : s.control.isRunning = true :=
  hs (Option.isSome_of_eq_some h)

theorem IsSound.go (hs : s.IsSound) : (s.go setting).IsSound := by
  cases hbackground : s.background with
  | none => rwa [go_of_eq_none hbackground]
  | some suspended =>
    rw [go_of_eq_some hbackground]
    exact isSound_settled
      ((Stage.proceedOnce_sameButResults _ _).isRunning.trans (hs.isRunning hbackground))

theorem IsSound.elapse (hs : s.IsSound) (duration : Nat) : (s.elapse setting duration).IsSound := by
  have hadvance : (s.advance setting (s.stage.clock + duration)).IsSound := by
    obtain h | ⟨suspended, hbackground, -, h⟩ := advance_cases setting s (s.stage.clock + duration)
    · rwa [h]
    · rw [h]
      exact isSound_settled
        ((Stage.proceedUntil_sameButResults _ _).isRunning.trans (hs.isRunning hbackground))
  exact hadvance

theorem IsSound.abort (hs : s.IsSound) : s.abort.IsSound := by
  rw [Session.abort]
  split
  · exact isSound_of_eq_none rfl
  · exact hs

theorem IsSound.request (hs : s.IsSound) (r : Request) : (s.request r.apply).IsSound := by
  cases r <;> exact hs

/-! ## Requests for a run -/

theorem begin?_of_isRunning (h : s.control.isRunning = true) (board : Board) (seed : Variables) :
    s.begin? setting board seed = .error .alreadyRunning := by
  rw [begin?, Control.begin?, h]
  rfl

/-- Whoever asks for a run while the engine counts as running is told so, and nothing else
happens. -/
theorem enter_of_isRunning (h : s.control.isRunning = true) (board : Board) (seed : Variables) :
    s.enter setting board seed = (.ended (some (.error .alreadyRunning)), s) := by
  rw [enter, start, begin?_of_isRunning h]

theorem await_of_isRunning (h : s.control.isRunning = true) (board : Board) (seed : Variables) :
    s.await setting board seed = (.ended (some (.error .alreadyRunning)), s) := by
  rw [await, run, begin?_of_isRunning h]

/-- A program that is undertaken as a run: in place until it is over, or in the background. -/
def undertake (setting : Setting σ) (s : Session σ) (program : RunProgram RunCompletion)
    (inPlace : Bool) : Reply × Session σ :=
  if inPlace then
    match s.perform setting program with
    | (some completion, s) =>
      let ended := endRun s.stage completion
      (.ended (some ended.1), s.withStage ended.2)
    | (none, s) => (.ended none, s)
  else
    (.begun, { s with background := some ⟨s.stage.clock, program⟩, task := .active })

/-- A run makes no requests of its own. -/
theorem ages_undertake (program : RunProgram RunCompletion) (inPlace : Bool) :
    s.control.Ages (s.undertake setting program inPlace).2.control := by
  rw [undertake]
  split
  · have hplayed : s.control.Ages (s.perform setting program).2.control :=
      ages_perform setting program s
    generalize s.perform setting program = played at hplayed ⊢
    obtain ⟨_ | completion, after⟩ := played
    · exact hplayed
    · exact hplayed.trans (ages_endRun after.stage completion)
  · exact .refl _

theorem move_run_of_isRunning (h : s.control.isRunning = true) (board : Board) (seed : Variables)
    (inPlace : Bool) :
    s.move setting (.run board seed inPlace) = (.ended (some (.error .alreadyRunning)), s) := by
  cases inPlace with
  | true => exact await_of_isRunning h board seed
  | false => exact enter_of_isRunning h board seed

/-- A run that is asked for while there is none is undertaken in the state in which runs begin. -/
theorem move_run_of_idle (h : s.control.isRunning = false) (board : Board) (seed : Variables)
    (inPlace : Bool) :
    s.move setting (.run board seed inPlace) =
      (s.request Control.started).undertake setting
        (.checked (runBoard setting.callDepthLimit board (s.control.startingContext board seed)))
        inPlace := by
  cases inPlace with
  | false =>
    show s.enter setting board seed = _
    rw [enter, start, begin?_eq setting board seed h]
    rfl
  | true =>
    show s.await setting board seed = _
    rw [await, run, begin?_eq setting board seed h, undertake, if_pos rfl, request]
    dsimp only
    generalize (s.withStage (s.stage.withControl s.control.started)).perform setting _ = played
    obtain ⟨_ | _, _⟩ := played <;> rfl

theorem isSound_undertake (hrunning : s.control.isRunning = true) (hnone : s.background = none)
    (program : RunProgram RunCompletion) (inPlace : Bool) :
    (s.undertake setting program inPlace).2.IsSound := by
  rw [undertake]
  split
  · have hplayed : (s.perform setting program).2.background = none :=
      perform_background program hnone
    generalize s.perform setting program = played at hplayed ⊢
    obtain ⟨_ | _, _⟩ := played <;> exact isSound_of_eq_none hplayed
  · exact fun _ => hrunning

theorem IsSound.background_eq_none (hs : s.IsSound) (hidle : s.control.isRunning = false) :
    s.background = none := by
  cases hbackground : s.background with
  | none => rfl
  | some suspended =>
    rw [hs.isRunning hbackground] at hidle
    cases hidle

theorem IsSound.move (hs : s.IsSound) (m : Move) : (s.move setting m).2.IsSound := by
  cases m with
  | run board seed inPlace =>
    cases hrunning : s.control.isRunning with
    | true =>
      rw [move_run_of_isRunning hrunning]
      exact hs
    | false =>
      have hnone : (s.request Control.started).background = none := hs.background_eq_none hrunning
      rw [move_run_of_idle hrunning]
      exact isSound_undertake rfl hnone _ inPlace
  | request r => exact hs.request r
  | look q => exact hs
  | abort => exact hs.abort
  | go => exact hs.go
  | elapse duration => exact hs.elapse duration

theorem IsSound.moves (hs : s.IsSound) (list : List Move) : (s.moves setting list).2.IsSound := by
  induction list generalizing s with
  | nil => exact hs
  | cons m rest ih => exact ih (hs.move m)

/-! ## Rejection -/

/-- **A rejected run leaves no trace.**  Where a run is asked for while there is one, the answer is
that the engine is running, and a session without that request gets the same replies otherwise and
is the same session in the end: the same events at the same times, the same flags, results and
variables, the same run under way or the same outcomes of it, and the same seeds for the next run.
This holds for whatever came before and whatever comes behind, so that there is no moment at which
the two sessions differ. -/
theorem rejection_leaves_no_trace (setting : Setting σ) (hs : s.IsSound) {before : List Move}
    (hactive : (s.moves setting before).2.background.isSome = true) (board : Board)
    (seed : Variables) (inPlace : Bool) (behind : List Move) :
    ∃ earlier later final, earlier.length = before.length ∧
      s.moves setting (before ++ behind) = (earlier ++ later, final) ∧
      s.moves setting (before ++ .run board seed inPlace :: behind) =
        (earlier ++ .ended (some (.error .alreadyRunning)) :: later, final) := by
  have hrunning : (s.moves setting before).2.control.isRunning = true := hs.moves before hactive
  have hrejected : (s.moves setting before).2.move setting (.run board seed inPlace) =
      (.ended (some (.error .alreadyRunning)), (s.moves setting before).2) := by
    cases inPlace with
    | true => exact await_of_isRunning hrunning board seed
    | false => exact enter_of_isRunning hrunning board seed
  refine ⟨(s.moves setting before).1, ((s.moves setting before).2.moves setting behind).1,
    ((s.moves setting before).2.moves setting behind).2, length_moves before s,
      moves_append before behind s, ?_⟩
  rw [moves_append, Session.moves, hrejected]

/-- A board that waits for a second. -/
def waitingBoard : Board where
  id := ""
  name := ""
  rows := [(Row.new "row" "").addAction
    ((Action.new "1" .waitTime "").withMeta "wait_ms" (.nat 1000))]
  createdAt := .epoch
  modifiedAt := .epoch

/-- Half a second into the wait, a run with a seed is asked for, after a stop was requested and
a variable set. -/
theorem rejection_leaves_no_trace_of_waiting :
    let setting : Setting Unit := ⟨fun _ s => (.error (.unavailable ""), s), {}⟩
    let s : Session Unit := { stage := CallStack.idleStage }
    let before : List Move :=
      [.run waitingBoard ∅ false, .elapse 500, .request .stop, .request (.setVariable "x" .null)]
    let behind : List Move := [.elapse 1000, .look .task, .run waitingBoard ∅ true]
    s.IsSound ∧ (s.moves setting before).2.background.isSome = true ∧
      ∃ earlier later final, earlier.length = 4 ∧ s.moves setting (before ++ behind) =
        (earlier ++ later, final) ∧
        s.moves setting (before ++ .run waitingBoard (Dictionary.empty.insert "x" (.nat 1))
          false :: behind) =
          (earlier ++ .ended (some (.error .alreadyRunning)) :: later, final) := by
  intro setting s before behind
  have hs : s.IsSound := isSound_of_eq_none rfl
  have hactive : (s.moves setting before).2.background.isSome = true := by decide +kernel
  exact ⟨hs, hactive, rejection_leaves_no_trace setting hs hactive waitingBoard _ false behind⟩

end Session

end ActionBoard
