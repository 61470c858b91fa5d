import ActionBoard.Proofs.Engine.Endings

/-!
# Runs do not leak into each other

An engine is used for one run after another, and much of its state outlives a run: the request to
stop that ended it, its outcomes, the variables that it left, and the seeds that were set meanwhile.
All the same, what is done with an engine before a run has no part in it but through the seeds and
through the devices.  So an engine that has been used may be compared with a new one that gets the
same seeds and the same devices.

* `Session.renewed`: the session with a new engine.
* `Session.postponed`: the same session later, behind other events, and with other
  variables to be seen.
* `Session.Repeats`: a session goes as another one did before, but perhaps for the variables.
* `Session.Repeats.move`: it goes on like that, whatever the next move is.
* `Session.runs_do_not_leak`: a run on a used engine repeats the run on a new one.

The two sessions differ in the variables that are seen until the run ends, for a run does not hide
what the run before it left.  From its end on they do not differ any more, unless it was broken off.
This is why the relation between the two carries along whether there was an end (`ended`), and why
looking at variables is a move of its own kind before it.
-/

namespace ActionBoard

open Interleaving (Request)

/-! ## The same course of things at a later time -/

/-- The same event later. -/
def Event.postponed (delay : Nat) (event : Event) : Event :=
  { event with time := event.time + delay }

/-- The same program, to go on later. -/
def Suspended.postponed {α : Type} (delay : Nat) (suspended : Suspended α) : Suspended α :=
  { suspended with wake := suspended.wake + delay }

namespace Stage

variable {σ α : Type} {delay : Nat} {past : List Event} {vars : Variables}

/-- The same stage later, behind other events, and with other variables to be seen. -/
def postponed (delay : Nat) (past : List Event) (vars : Variables) (stage : Stage σ) : Stage σ :=
  { stage with
    clock := stage.clock + delay
    control := { stage.control with vars }
    events := stage.events.map (Event.postponed delay) ++ past }

/-- What a program has come to, and on what stage, later. -/
def postponedPlay (delay : Nat) (past : List Event) (vars : Variables)
    (played : (α ⊕ Suspended α) × Stage σ) : (α ⊕ Suspended α) × Stage σ :=
  (played.1.map id (Suspended.postponed delay), played.2.postponed delay past vars)

/-- No answer depends on the time, on earlier events, or on the variables to be seen. -/
theorem answer_postponed (devices : Devices σ) (request : RunRequest) (stage : Stage σ) :
    answer devices request (stage.postponed delay past vars) =
      ((answer devices request stage).1,
        (answer devices request stage).2.postponed delay past vars) := by
  cases request with
  | effect e =>
    cases e with
    | wait duration =>
      show ((), (stage.postponed delay past vars).atTime (stage.clock + delay + duration)) = _
      rw [Nat.add_right_comm]
      rfl
    | device call => rfl
    | log level message => rfl
    | overflow => rfl
  | _ => rfl

/-- Looks at a closed gate are as far apart as before. -/
theorem nextLook_add (poll clock moment delay : Nat) :
    nextLook poll (clock + delay) (moment + delay) = nextLook poll clock moment + delay := by
  have hwait : moment + delay - (clock + delay) = moment - clock := by omega
  rw [nextLook, nextLook, hwait, Nat.add_right_comm]

theorem proceedOnce_postponed (setting : Setting σ) (program : RunProgram α) (stage : Stage σ) :
    (stage.postponed delay past vars).proceedOnce setting program =
      postponedPlay delay past vars (stage.proceedOnce setting program) := by
  cases program with
  | done result => rfl
  | ask request rest =>
    cases request using RunRequest.byTiming with
    | wait duration =>
      have hwake : (stage.postponed delay past vars).clock + duration =
          stage.clock + duration + delay :=
        Nat.add_right_comm ..
      rw [proceedOnce, proceedOnce, hwake]
      rfl
    | gate =>
      have hgate : (stage.postponed delay past vars).control.gateOpen =
          stage.control.gateOpen := rfl
      have hlook : (stage.postponed delay past vars).clock + setting.settings.pausePoll.toNat =
          stage.clock + setting.settings.pausePoll.toNat + delay := Nat.add_right_comm ..
      rw [proceedOnce, proceedOnce, hgate, hlook]
      split <;> rfl
    | immediate request himmediate =>
      rw [proceedOnce_of_isImmediate himmediate, proceedOnce_of_isImmediate himmediate,
        answer_postponed]
      rfl

theorem proceedUntil_postponed (setting : Setting σ) (moment : Nat) (program : RunProgram α)
    (stage : Stage σ) :
    (stage.postponed delay past vars).proceedUntil setting (moment + delay) program =
      postponedPlay delay past vars (stage.proceedUntil setting moment program) := by
  induction program generalizing stage with
  | done result => rfl
  | ask request rest ih =>
    cases request using RunRequest.byTiming with
    | wait duration =>
      have hwake : (stage.postponed delay past vars).clock + duration =
          stage.clock + duration + delay :=
        Nat.add_right_comm ..
      rw [proceedUntil, proceedUntil, hwake]
      by_cases hless : stage.clock + duration < moment
      · rw [if_pos hless, if_pos (Nat.add_lt_add_right hless delay)]
        exact ih () (stage.atTime (stage.clock + duration))
      · have hnot : ¬stage.clock + duration + delay < moment + delay := by omega
        rw [if_neg hless, if_neg hnot]
        rfl
    | gate =>
      have hgate : (stage.postponed delay past vars).control.gateOpen =
          stage.control.gateOpen := rfl
      have hlook : nextLook setting.settings.pausePoll.toNat
          (stage.postponed delay past vars).clock (moment + delay) =
          nextLook setting.settings.pausePoll.toNat stage.clock moment + delay := nextLook_add ..
      rw [proceedUntil, proceedUntil, hgate]
      dsimp only
      rw [hlook]
      split
      · exact ih () stage
      · rfl
    | immediate request himmediate =>
      rw [proceedUntil_of_isImmediate himmediate, proceedUntil_of_isImmediate himmediate,
        answer_postponed]
      exact ih _ (answer setting.devices request stage).2

end Stage

/-- A caller looks at variables. -/
def Move.looksAtVariables : Move → Bool
  | look .variables | look (.variable _) => true
  | _ => false

namespace Session

variable {σ : Type} {setting : Setting σ} {delay : Nat} {past : List Event} {ended : Prop}
  {s first : Session σ}

/-- The same session later, behind other events, and with other variables to be seen. -/
def postponed (delay : Nat) (past : List Event) (vars : Variables) (s : Session σ) : Session σ :=
  { s with
    stage := s.stage.postponed delay past vars
    background := s.background.map (Suspended.postponed delay) }

theorem background_postponed_of_eq_none {vars : Variables} (h : s.background = none) :
    (s.postponed delay past vars).background = none := by
  rw [postponed, h]
  rfl

theorem background_postponed_of_eq_some {vars : Variables} {suspended : Suspended RunCompletion}
    (h : s.background = some suspended) :
    (s.postponed delay past vars).background = some (suspended.postponed delay) := by
  rw [postponed, h]
  rfl

/-- Only whoever looks at variables sees a difference. -/
theorem look_postponed {vars : Variables} {q : Query}
    (h : (Move.look q).looksAtVariables = true → vars = s.control.vars) :
    (s.postponed delay past vars).look q = s.look q := by
  cases hq : (Move.look q).looksAtVariables with
  | true =>
    rw [h hq]
    cases q <;> rfl
  | false =>
    cases q with
    | state | isRunning | results | task => rfl
    | _ => cases hq

/-- A session is where another one was before, but perhaps for the variables to be seen; these are
the same if a run is over. -/
structure Repeats (delay : Nat) (past : List Event) (ended : Prop)
    (s first : Session σ) : Prop where
  later : s = first.postponed delay past s.control.vars
  vars : ended → s.control.vars = first.control.vars

/-- With a step of the session the run in the background ends by itself. -/
structure EndsItself (step : Session σ → Session σ) (s : Session σ) : Prop where
  active : s.background.isSome = true
  gone : (step s).background = none
  fits : (step { s with task := .active }).task ≠ .done (.error .overflow)

theorem not_endsItself_of_eq_none {step : Session σ → Session σ} (h : s.background = none) :
    ¬s.EndsItself step := by
  rintro ⟨hactive, -, -⟩
  rw [h] at hactive
  cases hactive

theorem EndsWith.endsItself {m : Move} (h : s.EndsWith setting m) (hown : ¬s.BreaksOff setting m)
    (hreply : (s.move setting m).1 = .nothing) : s.EndsItself fun s => (s.move setting m).2 := by
  obtain ⟨hactive, hgone⟩ | ⟨result, hended, -⟩ := h
  · exact ⟨hactive, hgone, fun htold => hown (.inr (.inl ⟨hactive, htold⟩))⟩
  · rw [hreply] at hended
    cases hended

/-! ## Going on in the same way -/

namespace Repeats

theorem of_postponed {vars : Variables} (h : ended → vars = first.control.vars) :
    Repeats delay past ended (first.postponed delay past vars) first := ⟨rfl, h⟩

theorem mono {ended' : Prop} (h : Repeats delay past ended s first) (himp : ended' → ended) :
    Repeats delay past ended' s first := ⟨h.later, fun h' => h.vars (himp h')⟩

/-- A session that repeats another one, as what that one is later. -/
theorem exists_eq (h : Repeats delay past ended s first) :
    ∃ vars, s = first.postponed delay past vars ∧ (ended → vars = first.control.vars) :=
  ⟨s.control.vars, h.later, h.vars⟩

/-- What a run has come to is the same later.  If that is its own end, so are the variables. -/
theorem settled {vars : Variables} (hvars : ended → vars = first.control.vars)
    {played : (RunCompletion ⊕ Suspended RunCompletion) × Stage σ}
    (hplayed : first.control.SameButResults played.2.control) :
    Repeats delay past
      (ended ∨ ((first.settled played).background = none ∧
        ({ first with task := .active }.settled played).task ≠ .done (.error .overflow)))
      ((first.postponed delay past vars).settled (Stage.postponedPlay delay past vars played))
      (first.settled played) := by
  obtain ⟨(⟨outcomes, ctx⟩ | _) | suspended, stage⟩ := played
  case inl.result => exact ⟨rfl, fun _ => rfl⟩
  case inl.overflow =>
    refine ⟨rfl, fun h => ?_⟩
    obtain h | ⟨-, hfits⟩ := h
    · exact (hvars h).trans hplayed.vars.symm
    · exact absurd rfl hfits
  case inr =>
    refine ⟨rfl, fun h => ?_⟩
    obtain h | ⟨hgone, -⟩ := h
    · exact (hvars h).trans hplayed.vars.symm
    · cases hgone

theorem go (h : Repeats delay past ended s first) :
    Repeats delay past (ended ∨ first.EndsItself (·.go setting)) (s.go setting)
      (first.go setting) := by
  obtain ⟨vars, rfl, hvars⟩ := h.exists_eq
  cases hbackground : first.background with
  | none =>
    have hlater : (first.postponed delay past vars).background = none :=
      background_postponed_of_eq_none hbackground
    rw [go_of_eq_none hlater, go_of_eq_none hbackground]
    exact of_postponed fun h' => hvars (h'.resolve_right (not_endsItself_of_eq_none hbackground))
  | some suspended =>
    have hlater : (first.postponed delay past vars).background = some (suspended.postponed delay) :=
      background_postponed_of_eq_some hbackground
    have hmax : max (suspended.postponed delay).wake (first.postponed delay past vars).stage.clock =
        max suspended.wake first.stage.clock + delay := Nat.add_max_add_right ..
    have hplay : ((first.postponed delay past vars).stage.atTime
          (max suspended.wake first.stage.clock + delay)).proceedOnce setting
            (suspended.postponed delay).rest =
        Stage.postponedPlay delay past vars
          ((first.stage.atTime (max suspended.wake first.stage.clock)).proceedOnce setting
            suspended.rest) :=
      Stage.proceedOnce_postponed setting suspended.rest
        (first.stage.atTime (max suspended.wake first.stage.clock))
    have hplayed : first.control.SameButResults
        ((first.stage.atTime (max suspended.wake first.stage.clock)).proceedOnce
        setting suspended.rest).2.control :=
      Stage.proceedOnce_sameButResults suspended.rest
        (first.stage.atTime (max suspended.wake first.stage.clock))
    rw [go_of_eq_some hlater, hmax, hplay]
    have htold : ({ first with task := .active } : Session σ).background =
        some suspended := hbackground
    have hends : first.EndsItself (·.go setting) → _ := fun h' => And.intro h'.gone h'.fits
    rw [go_of_eq_some hbackground, go_of_eq_some htold] at hends
    rw [go_of_eq_some hbackground]
    exact (settled hvars hplayed).mono (Or.imp_right hends)

theorem advance (setting : Setting σ) (h : Repeats delay past ended s first) (moment : Nat) :
    Repeats delay past (ended ∨ first.EndsItself (·.advance setting moment))
      (s.advance setting (moment + delay)) (first.advance setting moment) := by
  obtain ⟨vars, rfl, hvars⟩ := h.exists_eq
  cases hbackground : first.background with
  | none =>
    have hlater : (first.postponed delay past vars).background = none :=
      background_postponed_of_eq_none hbackground
    rw [advance_of_eq_none hlater, advance_of_eq_none hbackground]
    exact of_postponed fun h' => hvars (h'.resolve_right (not_endsItself_of_eq_none hbackground))
  | some suspended =>
    have hlater : (first.postponed delay past vars).background = some (suspended.postponed delay) :=
      background_postponed_of_eq_some hbackground
    by_cases hwake : suspended.wake < moment
    · have hwakeLater : (suspended.postponed delay).wake < moment + delay :=
        Nat.add_lt_add_right hwake delay
      have hplay : ((first.postponed delay past vars).stage.atTime
          (suspended.postponed delay).wake).proceedUntil
            setting (moment + delay) (suspended.postponed delay).rest =
          Stage.postponedPlay delay past vars
            ((first.stage.atTime suspended.wake).proceedUntil setting moment suspended.rest) :=
        Stage.proceedUntil_postponed setting moment suspended.rest
          (first.stage.atTime suspended.wake)
      have hplayed : first.control.SameButResults
          ((first.stage.atTime suspended.wake).proceedUntil setting moment
          suspended.rest).2.control :=
        Stage.proceedUntil_sameButResults suspended.rest (first.stage.atTime suspended.wake)
      have htold : ({ first with task := .active } : Session σ).background = some suspended :=
        hbackground
      have hends : first.EndsItself (·.advance setting moment) → _ := fun h' =>
        And.intro h'.gone h'.fits
      rw [advance_eq_settled hbackground hwake, advance_eq_settled htold hwake] at hends
      rw [advance_eq_settled hlater hwakeLater, advance_eq_settled hbackground hwake, hplay]
      exact (settled hvars hplayed).mono (Or.imp_right hends)
    · have hle : moment ≤ suspended.wake := Nat.not_lt.mp hwake
      have hleLater : moment + delay ≤ (suspended.postponed delay).wake :=
        Nat.add_le_add_right hle delay
      have hstill : ¬first.EndsItself (·.advance setting moment) := by
        rintro ⟨-, hgone, -⟩
        rw [advance_of_le hbackground hle, hbackground] at hgone
        cases hgone
      rw [advance_of_le hlater hleLater, advance_of_le hbackground hle]
      exact of_postponed fun h' => hvars (h'.resolve_right hstill)

theorem elapse (h : Repeats delay past ended s first) (duration : Nat) :
    Repeats delay past (ended ∨ first.EndsItself (·.elapse setting duration))
      (s.elapse setting duration) (first.elapse setting duration) := by
  have hmoment : s.stage.clock + duration = first.stage.clock + duration + delay := by
    rw [h.later]
    exact Nat.add_right_comm ..
  obtain ⟨vars, hlater, hvars⟩ := (h.advance setting (first.stage.clock + duration)).exists_eq
  have helapse : s.elapse setting duration =
      (s.advance setting (first.stage.clock + duration + delay)).atTime (first.stage.clock +
        duration + delay) := by
    rw [← hmoment]
    rfl
  rw [helapse, hlater]
  show Repeats delay past _ ((first.elapse setting duration).postponed delay past vars) _
  exact of_postponed fun h' =>
    hvars (h'.imp_right fun hends => ⟨hends.active, hends.gone, hends.fits⟩)

/-! ## Playing in place -/

theorem perform {α : Type} (setting : Setting σ) (program : RunProgram α)
    (h : Repeats delay past ended s first) :
    (s.perform setting program).1 = (first.perform setting program).1 ∧
      Repeats delay past ended (s.perform setting program).2 (first.perform setting program).2 := by
  induction program generalizing s first with
  | done result => exact ⟨rfl, h⟩
  | ask request rest ih =>
    cases request using RunRequest.byTiming with
    | wait duration => exact ih () ((h.elapse duration).mono .inl)
    | gate =>
      have hgate : s.control.gateOpen = first.control.gateOpen := by
        rw [h.later]
        rfl
      rw [Session.perform, Session.perform, hgate]
      split
      · exact ih () h
      · exact ⟨rfl, h⟩
    | immediate request himmediate =>
      obtain ⟨vars, rfl, hvars⟩ := h.exists_eq
      have hanswer : (first.postponed delay past vars).stage.answer setting.devices request =
          ((first.stage.answer setting.devices request).1,
            (first.stage.answer setting.devices request).2.postponed delay past vars) :=
        Stage.answer_postponed setting.devices request first.stage
      have hsame :
          first.control.SameButResults (first.stage.answer setting.devices request).2.control :=
        Stage.answer_sameButResults setting.devices request first.stage
      have hnext : Repeats delay past ended
          ((first.withStage (first.stage.answer setting.devices request).2).postponed
            delay past vars)
          (first.withStage (first.stage.answer setting.devices request).2) :=
        of_postponed fun h' => (hvars h').trans hsame.vars.symm
      rw [perform_of_isImmediate himmediate, perform_of_isImmediate himmediate, hanswer]
      exact ih _ hnext

/-- A run that is undertaken goes the same way later.  If it comes to its own end, the variables are
the same as well. -/
theorem undertake (setting : Setting σ) (program : RunProgram RunCompletion) (inPlace : Bool)
    (h : Repeats delay past ended s first) :
    (s.undertake setting program inPlace).1 = (first.undertake setting program inPlace).1 ∧
      Repeats delay past
        (ended ∨ ∃ result, (first.undertake setting program inPlace).1 = .ended (some result) ∧
          result ≠ .error .overflow)
        (s.undertake setting program inPlace).2 (first.undertake setting program inPlace).2 := by
  cases inPlace with
  | false =>
    obtain ⟨vars, rfl, hvars⟩ := h.exists_eq
    have hlater : ((first.postponed delay past vars).undertake setting program false).2 =
        (first.undertake setting program false).2.postponed delay past vars := rfl
    rw [hlater]
    refine ⟨rfl, of_postponed fun h' => hvars (h'.resolve_right ?_)⟩
    rintro ⟨result, hreply, -⟩
    cases hreply
  | true =>
    obtain ⟨hresult, hafter⟩ := h.perform setting program
    rw [Session.undertake, Session.undertake, if_pos rfl, if_pos rfl]
    generalize s.perform setting program = played at hresult hafter ⊢
    generalize first.perform setting program = playedFirst at hresult hafter ⊢
    obtain ⟨result, after⟩ := played
    obtain ⟨resultFirst, afterFirst⟩ := playedFirst
    obtain rfl : result = resultFirst := hresult
    obtain ⟨vars, rfl, hvars⟩ := hafter.exists_eq
    obtain _ | ⟨outcomes, ctx⟩ | _ := result
    case none =>
      refine ⟨rfl, of_postponed fun h' => hvars (h'.resolve_right ?_)⟩
      rintro ⟨result, hreply, -⟩
      cases hreply
    case some.result => exact ⟨rfl, ⟨rfl, fun _ => rfl⟩⟩
    case some.overflow =>
      refine ⟨rfl, ⟨rfl, fun h' => hvars (h'.resolve_right ?_)⟩⟩
      rintro ⟨result, hreply, hfits⟩
      cases hreply
      exact hfits rfl

/-! ## Moves -/

/-- **A session that goes as another one did before gets the same replies and goes on as that one
did.**  Only whoever looks at variables before a run is over may see a difference. -/
theorem move (setting : Setting σ) (hfirst : first.IsSound) {m : Move}
    (hm : m.looksAtVariables = true → ended) (h : Repeats delay past ended s first) :
    (s.move setting m).1 = (first.move setting m).1 ∧
      Repeats delay past (ended ∨ (first.EndsWith setting m ∧ ¬first.BreaksOff setting m))
        (s.move setting m).2 (first.move setting m).2 := by
  cases m with
  | run board seed inPlace =>
    cases hrunning : first.control.isRunning with
    | true =>
      have hlater : s.control.isRunning = true := by
        rw [h.later]
        exact hrunning
      rw [move_run_of_isRunning hlater, move_run_of_isRunning hrunning]
      exact ⟨rfl, h.mono fun h' => h'.resolve_right fun hends => not_endsWith_run hrunning board
        seed inPlace hends.1⟩
    | false =>
      have hlater : s.control.isRunning = false := by
        rw [h.later]
        exact hrunning
      have hctx : s.control.startingContext board seed =
          first.control.startingContext board seed := by
        rw [h.later]
        rfl
      have hstarted :
          Repeats delay past ended (s.request Control.started) (first.request Control.started) := by
        obtain ⟨vars, rfl, hvars⟩ := h.exists_eq
        show Repeats delay past ended ((first.request Control.started).postponed delay past vars) _
        exact of_postponed hvars
      rw [EndsWith, BreaksOff, Overflows, move_run_of_idle hlater, move_run_of_idle hrunning, hctx]
      obtain ⟨hreply, hafter⟩ := hstarted.undertake setting (RunProgram.checked
        (runBoard setting.callDepthLimit board (first.control.startingContext board seed))) inPlace
      -- A run that begins ends with the same move only if it is played in place: there is none in
      -- the background.
      refine ⟨hreply, hafter.mono fun h' => ?_⟩
      obtain h' | ⟨⟨hactive, hnone⟩ | ⟨result, hended, -⟩, hown⟩ := h'
      · exact .inl h'
      · rw [hfirst hactive] at hrunning
        cases hrunning
      · refine .inr ⟨result, hended, fun hover => hown (.inr (.inr ?_))⟩
        rw [hended, hover]
  | request r =>
    obtain ⟨vars, rfl, hvars⟩ := h.exists_eq
    have hstill : ended ∨ (first.EndsWith setting (.request r) ∧
        ¬first.BreaksOff setting (.request r)) → ended := fun h' =>
      h'.resolve_right fun hends => not_endsWith_request r hends.1
    cases r with
    | setVariable name value =>
      refine ⟨rfl, rfl, fun h' => ?_⟩
      exact congrArg (fun vars => Dictionary.insert vars name value) (hvars (hstill h'))
    | _ => exact ⟨rfl, rfl, fun h' => hvars (hstill h')⟩
  | look q =>
    obtain ⟨vars, rfl, hvars⟩ := h.exists_eq
    exact ⟨look_postponed fun hq => hvars (hm hq),
      h.mono fun h' => h'.resolve_right fun hends => not_endsWith_look q hends.1⟩
  | abort =>
    obtain ⟨vars, rfl, hvars⟩ := h.exists_eq
    have htask : (first.postponed delay past vars).task = first.task := rfl
    show _ ∧ Repeats delay past _ (first.postponed delay past vars).abort first.abort
    refine ⟨rfl, ?_⟩
    rw [Session.abort, Session.abort, htask]
    split <;> exact ⟨rfl, fun h' => hvars (h'.resolve_right fun hends => hends.2 (.inl rfl))⟩
  | go =>
    exact ⟨rfl, h.go.mono fun h' => h'.imp_right fun hends => hends.1.endsItself hends.2 rfl⟩
  | elapse duration =>
    exact ⟨rfl, (h.elapse duration).mono fun h' =>
      h'.imp_right fun hends => hends.1.endsItself hends.2 rfl⟩

theorem moves (setting : Setting σ) (hfirst : first.IsSound) {list : List Move}
    (hlist : ∀ m ∈ list, m.looksAtVariables = true → ended) (h : Repeats delay past ended s first) :
    (s.moves setting list).1 = (first.moves setting list).1 ∧
      Repeats delay past ended (s.moves setting list).2 (first.moves setting list).2 := by
  induction list generalizing s first with
  | nil => exact ⟨rfl, h⟩
  | cons m rest ih =>
    obtain ⟨hreply, hafter⟩ := h.move setting hfirst (hlist m List.mem_cons_self)
    obtain ⟨hreplies, hend⟩ :=
      ih (hfirst.move m) (fun other member => hlist other (List.mem_cons_of_mem m member))
      (hafter.mono .inl)
    refine ⟨?_, hend⟩
    rw [Session.moves, Session.moves, hreply, hreplies]

/-- From the end of a run on, callers may look at variables as well. -/
theorem moves_of_endsWith (hfirst : first.IsSound) (h : Repeats delay past ended s first) {m : Move}
    (hends : first.EndsWith setting m) (hown : ¬first.BreaksOff setting m) (behind : List Move) :
    (s.moves setting (m :: behind)).1 = (first.moves setting (m :: behind)).1 ∧
      Repeats delay past True
        (s.moves setting (m :: behind)).2 (first.moves setting (m :: behind)).2 := by
  have hlook : m.looksAtVariables = true → ended := by
    cases m with
    | look q => exact absurd hends (not_endsWith_look q)
    | _ => exact nofun
  obtain ⟨hreply, hafter⟩ := h.move setting hfirst hlook
  have hsame : Repeats delay past True (s.move setting m).2 (first.move setting m).2 :=
    hafter.mono fun _ => .inr ⟨hends, hown⟩
  obtain ⟨hreplies, hend⟩ := hsame.moves setting (hfirst.move m) (fun _ _ _ => trivial)
  refine ⟨?_, hend⟩
  rw [Session.moves, Session.moves, hreply, hreplies]

end Repeats

end Session

/-! ## New engines -/

/-- The control state of a new engine for which variables were set. -/
def Control.seeded (seeds : Variables) : Control :=
  Request.applyAll (seeds.toList.map fun entry => .setVariable entry.1 entry.2) {}

theorem Control.applyAll_setVariable (entries : List (String × Value)) (c : Control) :
    Request.applyAll (entries.map fun entry => .setVariable entry.1 entry.2) c =
      { c with vars := c.vars.insertAll entries, seeds := c.seeds.insertAll entries } := by
  induction entries generalizing c with
  | nil => rfl
  | cons entry rest ih => exact ih (c.setVariable entry.1 entry.2)

theorem Control.seeded_eq (seeds : Variables) :
    Control.seeded seeds = { vars := seeds, seeds } := by
  rw [seeded, applyAll_setVariable]
  have hseeds : Dictionary.insertAll ∅ seeds.toList = seeds := seeds.ofList_toList
  simp only [hseeds]

namespace Session

variable {σ : Type} {setting : Setting σ}

/-- The session with a new engine that has the same handlers and devices, and for which the
variables were set that wait for the next run. -/
def renewed (s : Session σ) : Session σ :=
  { s with
    stage :=
      { devices := s.stage.devices
        control := .seeded s.control.seeds
        registry := s.stage.registry }
    background := none }

theorem control_renewed (s : Session σ) :
    s.renewed.control = { vars := s.control.seeds, seeds := s.control.seeds } :=
  Control.seeded_eq s.control.seeds

theorem isSound_renewed (s : Session σ) : s.renewed.IsSound :=
  isSound_of_eq_none rfl

variable {used : Session σ}

/-- The state in which a run begins on a used engine is the one in which it begins on a new
engine, but later. -/
theorem repeats_started (hnone : used.background = none) (hopen : used.control.isPaused = false) :
    Repeats used.stage.clock used.stage.events False (used.request Control.started)
      (used.renewed.request Control.started) := by
  have hcontrol : used.control.started =
      { used.renewed.control.started with vars := used.control.vars } := by
    rw [control_renewed, Control.started, hopen]
    rfl
  refine ⟨?_, False.elim⟩
  show used.request Control.started =
    { used with
      stage :=
        { used.stage with
          clock := 0 + used.stage.clock
          control := { used.renewed.control.started with vars := used.control.vars } }
      background := none }
  rw [request, hcontrol, Nat.zero_add, ← hnone]
  rfl

/-- A run begins on a used engine as on a new one. -/
theorem move_run_renewed (setting : Setting σ) (hidle : used.control.isRunning = false)
    (hnone : used.background = none)
    (hopen : used.control.isPaused = false) (board : Board) (seed : Variables) (inPlace : Bool) :
    (used.move setting (.run board seed inPlace)).1 =
      (used.renewed.move setting (.run board seed inPlace)).1 ∧
      Repeats used.stage.clock used.stage.events
        (∃ result, (used.renewed.move setting (.run board seed inPlace)).1 = .ended (some result) ∧
          result ≠ .error .overflow)
        (used.move setting (.run board seed inPlace)).2
          (used.renewed.move setting (.run board seed inPlace)).2 := by
  have hrenewed : used.renewed.control.isRunning = false := by rw [control_renewed]
  have hseeds : used.renewed.control.seeds = used.control.seeds := by rw [control_renewed]
  have hctx : used.renewed.control.startingContext board seed =
      used.control.startingContext board seed := by
    rw [Control.startingContext, Control.startingContext, hseeds]
  obtain ⟨hreply, hafter⟩ := (repeats_started hnone hopen).undertake setting
    (.checked (runBoard setting.callDepthLimit board (used.control.startingContext board seed)))
    inPlace
  rw [move_run_of_idle hidle, move_run_of_idle hrenewed, hctx]
  exact ⟨hreply, hafter.mono .inr⟩

/-- A new engine is not paused, so a run in place has an end. -/
theorem exists_move_renewed_eq_ended (setting : Setting σ) (used : Session σ) (board : Board)
    (seed : Variables) :
    ∃ result, (used.renewed.move setting (.run board seed true)).1 = .ended (some result) := by
  have hidle : used.renewed.control.isRunning = false := by rw [control_renewed]
  have hopen : (used.renewed.request Control.started).control.isPaused = false := by
    show used.renewed.control.isPaused = false
    rw [control_renewed]
  rw [move_run_of_idle hidle]
  exact exists_undertake_eq_ended _ rfl hopen

/-- A run in the background goes as on a new engine, as long as callers do not look at variables. -/
theorem moves_run_renewed (setting : Setting σ) (hidle : used.control.isRunning = false)
    (hnone : used.background = none) (hopen : used.control.isPaused = false) (board : Board)
    (seed : Variables) {during : List Move} (hduring : ∀ m ∈ during, m.looksAtVariables = false) :
    (used.moves setting (.run board seed false :: during)).1 =
        (used.renewed.moves setting (.run board seed false :: during)).1 ∧
      Repeats used.stage.clock used.stage.events False
        (used.moves setting (.run board seed false :: during)).2
        (used.renewed.moves setting (.run board seed false :: during)).2 := by
  obtain ⟨hreply, hafter⟩ := move_run_renewed setting hidle hnone hopen board seed false
  have hblind : ∀ m ∈ during, m.looksAtVariables = true → False := by
    intro m member hlook
    rw [hduring m member] at hlook
    cases hlook
  obtain ⟨hreplies, hend⟩ :=
    (hafter.mono False.elim).moves setting ((isSound_renewed used).move _) hblind
  refine ⟨?_, hend⟩
  rw [moves, moves, hreply, hreplies]

/-- The runs of a board in a session go as those in another one, but later by the clock of the
session and behind its events. -/
structure RunsAlike (setting : Setting σ) (board : Board) (seed : Variables)
    (used new : Session σ) : Prop where
  /-- A run in place has an end, with the same result, and from then on nobody can tell the two
  sessions apart; behind an overflow, nobody who does not look at variables. -/
  inPlace (behind : List Move) : ∃ result,
    (used.move setting (.run board seed true)).1 = .ended (some result) ∧
      (new.move setting (.run board seed true)).1 = .ended (some result) ∧
      ((∀ m ∈ behind, m.looksAtVariables = true → result ≠ .error .overflow) →
        (used.moves setting (.run board seed true :: behind)).1 =
            (new.moves setting (.run board seed true :: behind)).1 ∧
          Repeats used.stage.clock used.stage.events (result ≠ .error .overflow)
            (used.moves setting (.run board seed true :: behind)).2
            (new.moves setting (.run board seed true :: behind)).2)
  /-- While a run goes on in the background, callers get the same replies to whatever they do,
  unless they look at variables. -/
  meanwhile {during : List Move} : (∀ m ∈ during, m.looksAtVariables = false) →
    (used.moves setting (.run board seed false :: during)).1 =
        (new.moves setting (.run board seed false :: during)).1 ∧
      Repeats used.stage.clock used.stage.events False
        (used.moves setting (.run board seed false :: during)).2
        (new.moves setting (.run board seed false :: during)).2
  /-- Once such a run has ended by itself, they get the same replies to everything. -/
  afterwards {during behind : List Move} {m : Move} :
    (∀ other ∈ during, other.looksAtVariables = false) →
    (new.moves setting (.run board seed false :: during)).2.EndsWith setting m →
    ¬(new.moves setting (.run board seed false :: during)).2.BreaksOff setting m →
    (used.moves setting (.run board seed false :: during ++ m :: behind)).1 =
        (new.moves setting (.run board seed false :: during ++ m :: behind)).1 ∧
      Repeats used.stage.clock used.stage.events True
        (used.moves setting (.run board seed false :: during ++ m :: behind)).2
        (new.moves setting (.run board seed false :: during ++ m :: behind)).2

/-- **Runs do not leak into each other.**  Whatever was done with an engine, if no run is under way
and it is not paused, the run of a board goes as on a new engine with the same handlers, the same
devices and the same seeds: the same replies and outcomes, the same events with the same times
between them, the same devices and variables in the end. -/
theorem runs_do_not_leak (setting : Setting σ) {s : Session σ} (hs : s.IsSound)
    (earlier : List Move) (hidle : (s.moves setting earlier).2.control.isRunning = false)
    (hopen : (s.moves setting earlier).2.control.isPaused = false) (board : Board)
    (seed : Variables) :
    RunsAlike setting board seed
      (s.moves setting earlier).2 (s.moves setting earlier).2.renewed := by
  generalize hused : (s.moves setting earlier).2 = used at hidle hopen
  have hsound : used.IsSound := hused ▸ hs.moves earlier
  have hnone : used.background = none := hsound.background_eq_none hidle
  have hnew : used.renewed.IsSound := isSound_renewed used
  constructor
  case inPlace =>
    intro behind
    obtain ⟨hreply, hafter⟩ := move_run_renewed setting hidle hnone hopen board seed true
    obtain ⟨result, hended⟩ := exists_move_renewed_eq_ended setting used board seed
    refine ⟨result, hreply.trans hended, hended, fun hbehind => ?_⟩
    have hsame : Repeats used.stage.clock used.stage.events (result ≠ .error .overflow)
        (used.move setting (.run board seed true)).2
        (used.renewed.move setting (.run board seed true)).2 :=
      hafter.mono fun hown => ⟨result, hended, hown⟩
    obtain ⟨hreplies, hend⟩ := hsame.moves setting (hnew.move _) hbehind
    refine ⟨?_, hend⟩
    rw [moves, moves, hreply, hreplies]
  case meanwhile =>
    intro during hduring
    exact moves_run_renewed setting hidle hnone hopen board seed hduring
  case afterwards =>
    intro during behind m hduring hends hown
    obtain ⟨hreplies, hmid⟩ := moves_run_renewed setting hidle hnone hopen board seed hduring
    obtain ⟨hothers, hend⟩ := hmid.moves_of_endsWith (hnew.moves _) hends hown behind
    rw [moves_append, moves_append]
    refine ⟨?_, hend⟩
    rw [hreplies, hothers]

/-- An engine on which a run counted one skip less and another one was stopped, and for which a
variable waits. -/
theorem runs_do_not_leak_of_stopped :
    let setting : Setting Unit := ⟨fun _ s => (.error (.unavailable ""), s), {}⟩
    let s : Session Unit := { stage := CallStack.idleStage }
    let earlier : List Move :=
      [.run waitingBoard (Dictionary.empty.insert skipVariable (.nat 3)) true,
        .run waitingBoard ∅ false, .elapse 500,
        .request (.setVariable "x" (.nat 1)), .request .pause, .request .stop, .elapse 1000]
    let used := (s.moves setting earlier).2
    s.IsSound ∧ used.control.isRunning = false ∧ used.control.isPaused = false ∧
      used.control.isStopRequested = true ∧ used.control.results.length = 1 ∧
        used.stage.clock = 1500 ∧
      RunsAlike setting waitingBoard ∅ used used.renewed := by
  intro setting s earlier used
  have hs : s.IsSound := isSound_of_eq_none rfl
  have hidle : used.control.isRunning = false := by decide +kernel
  have hopen : used.control.isPaused = false := by decide +kernel
  have hrest : used.control.isStopRequested = true ∧ used.control.results.length = 1 ∧
      used.stage.clock = 1500 := by
    decide +kernel
  exact ⟨hs, hidle, hopen, hrest.1, hrest.2.1, hrest.2.2,
    runs_do_not_leak setting hs earlier hidle hopen waitingBoard ∅⟩

end Session

end ActionBoard
