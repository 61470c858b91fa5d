import ActionBoard.Proofs.Engine.Background
import Mathlib.Logic.Function.Iterate

/-!
# Moves of a session

Several callers may use one engine, each whenever it likes.  What may happen next in such a session
is a move: a call of the engine, the passing of time, or a single question of the run under way.
Calls may therefore come between any two questions of a run, and not only where it waits; the order
of what happens at the same time does not matter, nor how callers and run are scheduled.

* `Move`, `Reply`, `Session.move`: the moves and what comes back from them.
* `RunRequest.byTiming`: a question of a run is a wait, or the gate, or it is answered at once.
* `Control.Ages`: what becomes of the control state while only runs and time go on, without a
  request from outside.
* `Session.exists_iterate_go_elapse`: while a session waits, its run goes on question by question.

A session that waits plays its run up to a moment in one go, and at a closed gate it leaves out the
looks before the moment.  So the last of these is not plain from the definitions: it is proved by
induction on the program, and at the gate on the number of looks.
-/

namespace ActionBoard

open Interleaving (Request)

/-! ## Questions and time -/

/-- Plays a program on the stage until it has had one answer.  At a closed gate it looks again
after the poll. -/
def Stage.proceedOnce {σ α : Type} (setting : Setting σ) :
    RunProgram α → Stage σ → (α ⊕ Suspended α) × Stage σ
  | .done result, stage => (.inl result, stage)
  | .ask (.effect (.wait duration)) rest, stage => (.inr ⟨stage.clock + duration, rest ()⟩, stage)
  | .ask .gate rest, stage =>
    if stage.control.gateOpen then (.inr ⟨stage.clock, rest ()⟩, stage)
    else (.inr ⟨stage.clock + setting.settings.pausePoll.toNat, .ask .gate rest⟩, stage)
  | .ask request rest, stage =>
    let answered := stage.answer setting.devices request
    (.inr ⟨answered.2.clock, rest answered.1⟩, answered.2)

/-- Neither a wait nor the gate: the answer comes at once. -/
def RunRequest.IsImmediate : RunRequest → Prop
  | effect (.wait _) | gate => False
  | _ => True

/-- A question is a wait, or the gate, or one that is answered at once. -/
@[elab_as_elim]
theorem RunRequest.byTiming {motive : RunRequest → Prop}
    (wait : ∀ duration, motive (effect (.wait duration)))
    (gate : motive gate) (immediate : ∀ request, request.IsImmediate → motive request)
    (request : RunRequest) : motive request := by
  cases request with
  | effect e =>
    cases e with
    | wait duration => exact wait duration
    | device call => exact immediate _ trivial
    | log level message => exact immediate _ trivial
    | overflow => exact immediate _ trivial
  | gate => exact gate
  | handlerFor kind => exact immediate _ trivial
  | stopRequested => exact immediate _ trivial
  | publish outcome => exact immediate _ trivial

namespace Stage

variable {σ α : Type} {setting : Setting σ} {moment : Nat} {request : RunRequest}
  {rest : request.Answer → RunProgram α}

theorem proceedUntil_of_isImmediate (h : request.IsImmediate) (stage : Stage σ) :
    stage.proceedUntil setting moment (.ask request rest) =
      (stage.answer setting.devices request).2.proceedUntil setting moment
        (rest (stage.answer setting.devices request).1) := by
  cases request with
  | effect e =>
    cases e with
    | wait duration => exact h.elim
    | device call => rfl
    | log level message => rfl
    | overflow => rfl
  | gate => exact h.elim
  | handlerFor kind => rfl
  | stopRequested => rfl
  | publish outcome => rfl

theorem proceedOnce_of_isImmediate (h : request.IsImmediate) (stage : Stage σ) :
    stage.proceedOnce setting (.ask request rest) =
      (.inr ⟨(stage.answer setting.devices request).2.clock,
        rest (stage.answer setting.devices request).1⟩,
        (stage.answer setting.devices request).2) := by
  cases request with
  | effect e =>
    cases e with
    | wait duration => exact h.elim
    | device call => rfl
    | log level message => rfl
    | overflow => rfl
  | gate => exact h.elim
  | handlerFor kind => rfl
  | stopRequested => rfl
  | publish outcome => rfl

end Stage

/-! ## Calls and replies -/

/-- What callers may look at. -/
inductive Query where
  | state
  | isRunning
  | results
  | variables
  | variable (name : String)
  /-- What the run gave that was begun last, if it is over. -/
  | task

/-- What may happen next in a session. -/
inductive Move where
  /-- A run is asked for, with a seed for its variables.  It goes on in the background; or in place,
  where nothing else happens until it is over. -/
  | run (board : Board) (seed : Variables) (inPlace : Bool)
  | request (r : Request)
  | look (q : Query)
  /-- The run under way is dropped by its caller. -/
  | abort
  /-- The run under way goes on by one question. -/
  | go
  /-- Time passes, and the run under way goes on up to then. -/
  | elapse (duration : Nat)

/-- What comes back from a move. -/
inductive Reply where
  | nothing
  | begun
  /-- What a run gave, or that it never ends. -/
  | ended (result : Option RunResult)
  | state (state : EngineState)
  | isRunning (running : Bool)
  | results (outcomes : List Outcome)
  | variables (vars : Variables)
  | variable (value : Option Value)
  | task (task : Task)

namespace Session

variable {σ : Type}

def look (s : Session σ) : Query → Reply
  | .state => .state s.control.state
  | .isRunning => .isRunning s.control.isRunning
  | .results => .results s.control.results
  | .variables => .variables s.control.vars
  | .variable name => .variable (s.control.vars.find? name)
  | .task => .task s.task

/-- A run is asked for that is to go on in the background.  If it does not begin, its caller is told
at once, and the session keeps the task that it has. -/
def enter (setting : Setting σ) (s : Session σ) (board : Board) (seed : Variables) :
    Reply × Session σ :=
  let started := s.start setting board seed
  match started.task with
  | .done result => (.ended (some result), { started with task := s.task })
  | _ => (.begun, started)

/-- A run is asked for that is to go on in place. -/
def await (setting : Setting σ) (s : Session σ) (board : Board) (seed : Variables) :
    Reply × Session σ :=
  let ran := s.run setting board seed
  (.ended ran.1, ran.2)

/-- A session whose run has come to its end, or to where it is to go on at some time, on a stage. -/
def settled (s : Session σ) : (RunCompletion ⊕ Suspended RunCompletion) × Stage σ → Session σ
  | (.inl completion, stage) =>
    let ended := endRun stage completion
    { s with stage := ended.2, background := none, task := s.task.settle ended.1 }
  | (.inr later, stage) => { s with stage, background := some later }

/-- The run in the background goes on by one question, when it is time for it. -/
def go (setting : Setting σ) (s : Session σ) : Session σ :=
  match s.background with
  | none => s
  | some suspended =>
    s.settled ((s.stage.atTime (max suspended.wake s.stage.clock)).proceedOnce setting
      suspended.rest)

def move (setting : Setting σ) (s : Session σ) : Move → Reply × Session σ
  | .run board seed inPlace => if inPlace then s.await setting board seed
    else s.enter setting board seed
  | .request r => (.nothing, s.request r.apply)
  | .look q => (s.look q, s)
  | .abort => (.nothing, s.abort)
  | .go => (.nothing, s.go setting)
  | .elapse duration => (.nothing, s.elapse setting duration)

/-- Moves one after the other, with their replies. -/
def moves (setting : Setting σ) : List Move → Session σ → List Reply × Session σ
  | [], s => ([], s)
  | m :: rest, s =>
    let first := s.move setting m
    let others := moves setting rest first.2
    (first.1 :: others.1, others.2)

variable {setting : Setting σ} {s : Session σ}

theorem moves_append (first second : List Move) (s : Session σ) :
    moves setting (first ++ second) s =
      ((moves setting first s).1 ++ (moves setting second (moves setting first s).2).1,
        (moves setting second (moves setting first s).2).2) := by
  induction first generalizing s with
  | nil => rfl
  | cons m rest ih => rw [List.cons_append, moves, ih, moves, List.cons_append]

theorem length_moves (list : List Move) (s : Session σ) :
    (moves setting list s).1.length = list.length := by
  induction list generalizing s with
  | nil => rfl
  | cons m rest ih => rw [moves, List.length_cons, ih, List.length_cons]

/-! ## Waiting and going on -/

/-- The same session at another time. -/
def atTime (s : Session σ) (clock : Nat) : Session σ :=
  s.withStage (s.stage.atTime clock)

/-- What a run has come to does not depend on where it was before. -/
theorem settled_settled (s : Session σ) (later : Suspended RunCompletion) (stage : Stage σ)
    (played : (RunCompletion ⊕ Suspended RunCompletion) × Stage σ) :
    (s.settled (.inr later, stage)).settled played = s.settled played := by
  obtain ⟨_ | _, _⟩ := played <;> rfl

theorem advance_eq_settled {suspended : Suspended RunCompletion} {moment : Nat}
    (h : s.background = some suspended) (hwake : suspended.wake < moment) :
    s.advance setting moment =
      s.settled ((s.stage.atTime suspended.wake).proceedUntil setting moment suspended.rest) := by
  rw [advance, h]
  dsimp only
  rw [if_pos hwake]
  rcases (s.stage.atTime suspended.wake).proceedUntil setting moment
    suspended.rest with ⟨_ | _, _⟩ <;> rfl

theorem advance_of_eq_none (h : s.background = none) (moment : Nat) :
    s.advance setting moment = s := by
  rw [advance, h]

/-- Nothing happens in a session before its run is to go on. -/
theorem advance_of_le {suspended : Suspended RunCompletion} {moment : Nat}
    (h : s.background = some suspended) (hwake : moment ≤ suspended.wake) :
    s.advance setting moment = s := by
  rw [advance, h]
  exact if_neg (Nat.not_lt.mpr hwake)

/-- A session that waits stays as it is, or its run goes on. -/
theorem advance_cases (setting : Setting σ) (s : Session σ) (moment : Nat) :
    s.advance setting moment = s ∨ ∃ suspended, s.background = some suspended ∧
      suspended.wake < moment ∧
      s.advance setting moment =
        s.settled ((s.stage.atTime suspended.wake).proceedUntil setting moment suspended.rest) := by
  cases hbackground : s.background with
  | none => exact .inl (advance_of_eq_none hbackground moment)
  | some suspended =>
    by_cases hwake : suspended.wake < moment
    · exact .inr ⟨suspended, rfl, hwake, advance_eq_settled hbackground hwake⟩
    · exact .inl (advance_of_le hbackground (Nat.not_lt.mp hwake))

theorem go_of_eq_none (h : s.background = none) : s.go setting = s := by
  rw [go, h]

theorem go_of_eq_some {suspended : Suspended RunCompletion} (h : s.background = some suspended) :
    s.go setting =
      s.settled ((s.stage.atTime (max suspended.wake s.stage.clock)).proceedOnce setting
        suspended.rest) := by
  rw [go, h]

theorem go_eq_settled {wake : Nat} {program : RunProgram RunCompletion}
    (h : s.background = some ⟨wake, program⟩) (hclock : s.stage.clock ≤ wake) :
    s.go setting = s.settled ((s.stage.atTime wake).proceedOnce setting program) := by
  rw [go_of_eq_some h, Nat.max_eq_left hclock]

/-- A run at a closed gate looks at it again and again. -/
theorem iterate_go_closedGate {wake : Nat} {rest : Unit → RunProgram RunCompletion}
    (h : s.background = some ⟨wake, .ask RunRequest.gate rest⟩) (hclock : s.stage.clock ≤ wake)
    (hclosed : s.control.gateOpen = false) (n clock : Nat) :
    ((go setting)^[n] s).atTime clock =
      s.settled (.inr ⟨wake + n * setting.settings.pausePoll.toNat, .ask RunRequest.gate rest⟩,
        s.stage.atTime clock) := by
  induction n generalizing s wake with
  | zero =>
    rw [Nat.zero_mul, Nat.add_zero, Function.iterate_zero_apply, settled, ← h]
    rfl
  | succ n ih =>
    have hgo : s.go setting =
        s.settled (.inr ⟨wake + setting.settings.pausePoll.toNat, .ask RunRequest.gate rest⟩,
        s.stage.atTime wake) := by
      have hgate : (s.stage.atTime wake).control.gateOpen = false := hclosed
      rw [go_eq_settled h hclock, Stage.proceedOnce, hgate]
      rfl
    have hnext : (s.go setting).background =
        some ⟨wake + setting.settings.pausePoll.toNat, .ask RunRequest.gate rest⟩ := by
          rw [hgo, settled]
    have hlater : (s.go setting).stage.clock ≤ wake + setting.settings.pausePoll.toNat := by
      rw [hgo]
      exact Nat.le_add_right wake _
    have hstill : (s.go setting).control.gateOpen = false := by
      rw [hgo]
      exact hclosed
    rw [Function.iterate_succ_apply, ih hnext hlater hstill, hgo, settled_settled, Nat.succ_mul,
      Nat.add_comm (n * _), ← Nat.add_assoc]
    rfl

/-- The run of a session goes on, question by question, to where it is in another one; but for the
clock, that is the other session. -/
def GoesTo (setting : Setting σ) (s target : Session σ) : Prop :=
  ∃ n, ∀ clock, ((go setting)^[n] s).atTime clock = target.atTime clock

variable {wake moment : Nat} {program : RunProgram RunCompletion}

theorem GoesTo.head {later : Suspended RunCompletion} {stage : Stage σ}
    {played : (RunCompletion ⊕ Suspended RunCompletion) × Stage σ}
    (h : s.background = some ⟨wake, program⟩) (hclock : s.stage.clock ≤ wake)
    (honce : (s.stage.atTime wake).proceedOnce setting program = (.inr later, stage))
    (hrest : GoesTo setting (s.settled (.inr later, stage))
      ((s.settled (.inr later, stage)).settled played)) :
    GoesTo setting s (s.settled played) := by
  obtain ⟨n, hn⟩ := hrest
  refine ⟨n + 1, fun clock => ?_⟩
  rw [Function.iterate_succ_apply, go_eq_settled h hclock, honce, hn, settled_settled]

/-- What is played until a moment is played question by question. -/
theorem goesTo_proceedUntil (setting : Setting σ) (moment : Nat)
    (h : s.background = some ⟨wake, program⟩) (hclock : s.stage.clock ≤ wake) :
    GoesTo setting s (s.settled ((s.stage.atTime wake).proceedUntil setting moment program)) := by
  induction program generalizing s wake with
  | done result =>
    refine ⟨1, fun clock => ?_⟩
    rw [Function.iterate_one, go_eq_settled h hclock]
    rfl
  | ask request rest ih =>
    cases request using RunRequest.byTiming with
    | gate =>
      cases hgate : s.control.gateOpen with
      | false =>
        have hclosed : (s.stage.atTime wake).control.gateOpen = false := hgate
        refine ⟨(moment - wake + (setting.settings.pausePoll.toNat - 1)) /
          setting.settings.pausePoll.toNat,
          fun clock => ?_⟩
        rw [iterate_go_closedGate h hclock hgate, Stage.proceedUntil, hclosed]
        rfl
      | true =>
        have hopen : (s.stage.atTime wake).control.gateOpen = true := hgate
        have honce : (s.stage.atTime wake).proceedOnce setting (.ask RunRequest.gate rest) =
            (.inr ⟨wake, rest ()⟩, s.stage.atTime wake) := by
          rw [Stage.proceedOnce, hopen]
          rfl
        refine GoesTo.head h hclock honce ?_
        rw [Stage.proceedUntil, hopen, if_pos rfl]
        exact ih () rfl (Nat.le_refl _)
    | wait duration =>
      refine GoesTo.head h hclock rfl ?_
      rw [Stage.proceedUntil]
      split
      · exact ih () rfl (Nat.le_add_right wake duration)
      · exact ⟨0, fun clock => rfl⟩
    | immediate request himmediate =>
      refine GoesTo.head h hclock (Stage.proceedOnce_of_isImmediate himmediate _) ?_
      rw [Stage.proceedUntil_of_isImmediate himmediate]
      exact ih _ rfl (Nat.le_refl _)

/-- **While a session waits, its run goes on question by question.** -/
theorem exists_iterate_go_elapse (setting : Setting σ) (duration : Nat)
    (h : ∀ suspended ∈ s.background, s.stage.clock ≤ suspended.wake) :
    ∃ n, s.elapse setting duration = ((go setting)^[n] s).atTime (s.stage.clock + duration) := by
  obtain hstill | ⟨suspended, hbackground, -, hplayed⟩ :=
    advance_cases setting s (s.stage.clock + duration)
  · refine ⟨0, ?_⟩
    rw [elapse, hstill]
    rfl
  · obtain ⟨n, hn⟩ :=
      goesTo_proceedUntil setting (s.stage.clock + duration) hbackground (h suspended hbackground)
    refine ⟨n, ?_⟩
    rw [hn, elapse, hplayed]
    rfl

/-! ## What goes on by itself -/

end Session

/-- The same control state, but for the results. -/
structure Control.SameButResults (before after : Control) : Prop where
  isRunning : after.isRunning = before.isRunning
  isPaused : after.isPaused = before.isPaused
  isStopRequested : after.isStopRequested = before.isStopRequested
  vars : after.vars = before.vars
  seeds : after.seeds = before.seeds

/-- No request comes up by itself, and nothing waits for the next run but what was set for it. -/
structure Control.Ages (before after : Control) : Prop where
  isPaused : after.isPaused = true → before.isPaused = true
  isStopRequested : after.isStopRequested = before.isStopRequested
  seeds : after.seeds = before.seeds

namespace Control

variable {c c' c'' : Control}

theorem SameButResults.refl (c : Control) : c.SameButResults c := ⟨rfl, rfl, rfl, rfl, rfl⟩

theorem SameButResults.trans (h : c.SameButResults c') (h' : c'.SameButResults c'') :
    c.SameButResults c'' :=
  ⟨h'.isRunning.trans h.isRunning, h'.isPaused.trans h.isPaused,
    h'.isStopRequested.trans h.isStopRequested,
    h'.vars.trans h.vars, h'.seeds.trans h.seeds⟩

theorem SameButResults.ages (h : c.SameButResults c') : c.Ages c' :=
  ⟨fun hpaused => h.isPaused.symm.trans hpaused, h.isStopRequested, h.seeds⟩

theorem Ages.refl (c : Control) : c.Ages c := (SameButResults.refl c).ages

theorem Ages.trans (h : c.Ages c') (h' : c'.Ages c'') : c.Ages c'' :=
  ⟨fun hpaused => h.isPaused (h'.isPaused hpaused), h'.isStopRequested.trans h.isStopRequested,
    h'.seeds.trans h.seeds⟩

theorem Ages.isPaused_eq_false (h : c.Ages c') (hpaused : c.isPaused = false) :
    c'.isPaused = false := by
  rw [Bool.eq_false_iff] at hpaused ⊢
  exact fun hafter => hpaused (h.isPaused hafter)

theorem ages_finish (c : Control) (ctx : Context) : c.Ages (c.finish ctx) := ⟨nofun, rfl, rfl⟩

theorem ages_abandon (c : Control) : c.Ages c.abandon := ⟨id, rfl, rfl⟩

end Control

namespace Stage

variable {σ α : Type} {setting : Setting σ} {moment : Nat}

/-- A run changes nothing in the control state but the results. -/
theorem answer_sameButResults (devices : Devices σ) (request : RunRequest) (stage : Stage σ) :
    stage.control.SameButResults (answer devices request stage).2.control := by
  cases request with
  | effect e => cases e <;> exact .refl _
  | publish outcome => exact ⟨rfl, rfl, rfl, rfl, rfl⟩
  | _ => exact .refl _

theorem proceedOnce_sameButResults (program : RunProgram α) (stage : Stage σ) :
    stage.control.SameButResults (stage.proceedOnce setting program).2.control := by
  cases program with
  | done result => exact .refl _
  | ask request rest =>
    cases request using RunRequest.byTiming with
    | wait duration => exact .refl _
    | gate =>
      rw [proceedOnce]
      split <;> exact .refl _
    | immediate request himmediate =>
      rw [proceedOnce_of_isImmediate himmediate]
      exact answer_sameButResults setting.devices request stage

theorem proceedUntil_sameButResults (program : RunProgram α) (stage : Stage σ) :
    stage.control.SameButResults (stage.proceedUntil setting moment program).2.control := by
  induction program generalizing stage with
  | done result => exact .refl _
  | ask request rest ih =>
    cases request using RunRequest.byTiming with
    | wait duration =>
      rw [proceedUntil]
      split
      · exact ih () (stage.atTime (stage.clock + duration))
      · exact .refl _
    | gate =>
      rw [proceedUntil]
      split
      · exact ih () _
      · exact .refl _
    | immediate request himmediate =>
      rw [proceedUntil_of_isImmediate himmediate]
      exact (answer_sameButResults setting.devices request stage).trans (ih _ _)

end Stage

namespace Session

variable {σ : Type} {setting : Setting σ} {s : Session σ}

theorem ages_endRun (stage : Stage σ) (completion : RunCompletion) :
    stage.control.Ages (endRun stage completion).2.control := by
  cases completion with
  | result result => exact stage.control.ages_finish result.2
  | overflow => exact stage.control.ages_abandon

theorem ages_settled {played : (RunCompletion ⊕ Suspended RunCompletion) × Stage σ}
    (h : s.control.SameButResults played.2.control) :
    s.control.Ages (s.settled played).control := by
  obtain ⟨completion | _, stage⟩ := played
  · exact h.ages.trans (ages_endRun stage completion)
  · exact h.ages

theorem ages_go (setting : Setting σ) (s : Session σ) : s.control.Ages (s.go setting).control := by
  cases hbackground : s.background with
  | none =>
    rw [go_of_eq_none hbackground]
    exact .refl _
  | some suspended =>
    rw [go_of_eq_some hbackground]
    exact ages_settled (Stage.proceedOnce_sameButResults suspended.rest
      (s.stage.atTime (max suspended.wake s.stage.clock)))

theorem ages_elapse (setting : Setting σ) (s : Session σ) (duration : Nat) :
    s.control.Ages (s.elapse setting duration).control := by
  show s.control.Ages (s.advance setting (s.stage.clock + duration)).control
  obtain h | ⟨suspended, -, -, h⟩ := advance_cases setting s (s.stage.clock + duration)
  · rw [h]
    exact .refl _
  · rw [h]
    exact ages_settled
      (Stage.proceedUntil_sameButResults suspended.rest (s.stage.atTime suspended.wake))

theorem perform_of_isImmediate {α : Type} {request : RunRequest}
    {rest : request.Answer → RunProgram α} (h : request.IsImmediate) (s : Session σ) :
    s.perform setting (.ask request rest) =
      (s.withStage (s.stage.answer setting.devices request).2).perform setting
        (rest (s.stage.answer setting.devices request).1) := by
  cases request with
  | effect e =>
    cases e with
    | wait duration => exact h.elim
    | device call => rfl
    | log level message => rfl
    | overflow => rfl
  | gate => exact h.elim
  | handlerFor kind => rfl
  | stopRequested => rfl
  | publish outcome => rfl

theorem ages_perform {α : Type} (setting : Setting σ) (program : RunProgram α) (s : Session σ) :
    s.control.Ages (s.perform setting program).2.control := by
  induction program generalizing s with
  | done result => exact .refl _
  | ask request rest ih =>
    cases request using RunRequest.byTiming with
    | wait duration =>
      exact (ages_elapse setting s duration).trans (ih () (s.elapse setting duration))
    | gate =>
      rw [perform]
      split
      · exact ih () s
      · exact .refl _
    | immediate request himmediate =>
      rw [perform_of_isImmediate himmediate]
      exact (Stage.answer_sameButResults setting.devices request s.stage).ages.trans
        (ih _ (s.withStage (s.stage.answer setting.devices request).2))

end Session

end ActionBoard
