import ActionBoard.Engine.Run
import ActionBoard.Proofs.Handler.Requests

/-!
# Handlers do all or nothing

A handler may read, call devices and set variables in any order, and any call of a device may fail.
Nothing rolls back what was done before a failure, so that nothing has to be rolled back is a
property of the order: everything that can fail comes before the first thing that lasts.  What lasts
is a variable that was set, and a record that was changed in the store.

Three kinds of programs make up a handler:

* `Handling.Quiet`: it may fail, but leaves the variables and the records as they are.
* `Handling.Sure`: it may change anything, but does not fail any more.
* `Handling.Atomic`: it is executed as a whole or rejected as a whole.  A program is atomic if a
  quiet part is followed by an atomic one, and in the end by a sure one.

The change of a record is both: it may fail, and then nothing has been changed, and if it does not
fail what follows has to be sure (`Handling.atomic_update`).  `Handler.atomic_program` is that every
standard handler is atomic.
-/

namespace ActionBoard

/-- The answer to an effect says that a record may have been changed. -/
def Effect.Updates : (e : Effect) → e.Answer → Prop
  | .device (.updateRecord ..), answer => ∃ updated, answer = .ok updated
  | _, _ => False

namespace Outcome

/-- The outcome of an action without an error. -/
def IsClean (a : Action) (o : Outcome) : Prop :=
  o.IsOf a ∧ o.error = none

/-- The outcome of an action with an error: a failure that says nothing else. -/
def IsRejection (a : Action) (o : Outcome) : Prop :=
  o.IsOf a ∧ o.success = false ∧ o.message = "" ∧ o.error ≠ none

theorem isClean_succeeded (a : Action) (message : String) : (succeeded a message).IsClean a :=
  ⟨isOf_succeeded a message, rfl⟩

theorem isClean_unmet (a : Action) (message : String) : (unmet a message).IsClean a :=
  ⟨isOf_unmet a message, rfl⟩

theorem isRejection_failed (a : Action) (error : String) : (failed a error).IsRejection a :=
  ⟨isOf_failed a error, rfl, rfl, Option.some_ne_none error⟩

/-- An action is executed without an error, or rejected with nothing changed. -/
def IsAtomic (a : Action) (before : Variables) (o : Outcome) (after : Variables) : Prop :=
  o.IsClean a ∨ o.IsRejection a ∧ after = before

end Outcome

namespace Handling

variable {α β : Type} {P : α → Prop} {R : β → Prop} {a : Action}

/-- Whatever the answers are, the variables and the records are left as they are. -/
def Quiet (program : Handling α) : Prop :=
  ∀ vars, (program.run vars).Commits Effect.Updates (fun ending => ending.2 = vars) fun _ => False

/-- Whatever the answers are, there is no error. -/
def Sure (P : α → Prop) (program : Handling α) : Prop :=
  ∀ vars, (program.run vars).Ensures fun ending => ∃ result, ending.1 = .ok result ∧ P result

/-- Whatever the answers are, the action is executed or rejected as a whole; once a record has been
changed, it is executed. -/
def Atomic (a : Action) (program : Handling Outcome) : Prop :=
  ∀ vars, (program.run vars).Commits Effect.Updates
    (fun ending => (outcomeOf a ending.1).IsAtomic a vars ending.2)
    fun ending => (outcomeOf a ending.1).IsClean a

/-! ## Quiet programs -/

theorem quiet_pure (result : α) : Quiet (pure result) :=
  fun _ => rfl

theorem quiet_fail (e : HandlerError) : Quiet (fail e : Handling α) :=
  fun _ => rfl

theorem Quiet.bind {program : Handling α} {next : α → Handling β} (hp : Quiet program)
    (hn : ∀ result, Quiet (next result)) : Quiet (program >>= next) := by
  intro vars
  refine Dialogue.Commits.bind (hp vars) ?_ fun _ h => h.elim
  rintro ⟨result, after⟩ rfl
  cases result with
  | error e => rfl
  | ok result => exact hn result after

/-- Of the calls of devices only the update of a record is not quiet. -/
theorem quiet_device (call : DeviceCall) (h : ∀ answer, ¬ Effect.Updates (.device call) answer) :
    Quiet (device call) := by
  intro vars answer
  refine ⟨fun hact => absurd hact (h answer), fun _ => ?_⟩
  cases answer with
  | error e => rfl
  | ok result => rfl

theorem quiet_wait (duration : Nat) : Quiet (wait duration) :=
  fun _ _ => ⟨fun hact => hact.elim, fun _ => rfl⟩

theorem quiet_getVariables : Quiet getVariables :=
  fun _ => rfl

theorem quiet_getVariable? (name : String) : Quiet (getVariable? name) :=
  quiet_getVariables.bind fun _ => quiet_pure _

theorem quiet_require (value : Option α) (e : HandlerError) : Quiet (require value e) := by
  cases value with
  | none => exact quiet_fail e
  | some result => exact quiet_pure result

theorem quiet_requirePort (present : Bool) (port : String) : Quiet (requirePort present port) := by
  cases present with
  | false => exact quiet_fail (.portMissing port)
  | true => exact quiet_pure ()

/-- Polling is quiet if every attempt is. -/
theorem quiet_pollFrom {attempt : Handling (Option α)} (h : Quiet attempt) (p : Polling)
    (elapsed : Nat) : Quiet (pollFrom p attempt elapsed) := by
  induction elapsed using pollFrom.induct p with
  | case1 elapsed hwithin ih =>
    rw [pollFrom, if_pos hwithin]
    refine h.bind fun found => ?_
    cases found with
    | some result => exact quiet_pure (some result)
    | none => exact (quiet_wait p.interval).bind fun _ => ih
  | case2 elapsed hpast =>
    rw [pollFrom, if_neg hpast]
    exact quiet_pure none

/-! ## Sure programs -/

theorem sure_pure {result : α} (h : P result) : Sure P (pure result) :=
  fun _ => ⟨result, rfl, h⟩

theorem Sure.bind {program : Handling α} {next : α → Handling β} (hp : Sure P program)
    (hn : ∀ result, P result → Sure R (next result)) : Sure R (program >>= next) := by
  intro vars
  refine Dialogue.Ensures.bind (hp vars) ?_
  rintro ⟨ending, after⟩ ⟨result, rfl, hresult⟩
  exact hn result hresult after

theorem sure_modifyVariables (change : Variables → Variables) :
    Sure (fun _ => True) (modifyVariables change) :=
  fun _ => ⟨(), rfl, trivial⟩

theorem sure_setVariable (name : String) (value : Value) :
    Sure (fun _ => True) (setVariable name value) :=
  sure_modifyVariables _

theorem sure_wait (duration : Nat) : Sure (fun _ => True) (wait duration) :=
  fun _ _ => ⟨(), rfl, trivial⟩

theorem sure_overflowIf (tooGreat : Variables → Bool) :
    Sure (fun _ => True) (overflowIf tooGreat) := by
  intro vars
  rw [Handling.run, overflowIf]
  split
  · exact fun _ => ⟨(), rfl, trivial⟩
  · exact ⟨(), rfl, trivial⟩

theorem sure_log (level : LogLevel) (message : String) : Sure (fun _ => True) (log level message) :=
  fun _ _ => ⟨(), rfl, trivial⟩

/-! ## Atomic programs -/

theorem Sure.atomic {program : Handling Outcome} (h : Sure (Outcome.IsClean a) program) :
    Atomic a program := by
  intro vars
  refine Dialogue.Ensures.commits (fun _ hclean => .inl hclean) ((h vars).mono ?_)
  rintro ⟨ending, after⟩ ⟨outcome, rfl, hclean⟩
  exact hclean

/-- Setting a variable may come last. -/
theorem atomic_setVariable (name : String) (value : Value) {outcome : Outcome}
    (h : outcome.IsClean a) :
    Atomic a do
      setVariable name value
      return outcome :=
  Sure.atomic ((sure_setVariable name value).bind fun _ _ => sure_pure h)

theorem atomic_of_isClean {outcome : Outcome} (h : outcome.IsClean a) : Atomic a (pure outcome) :=
  Sure.atomic (sure_pure h)

/-- An outcome with an error rejects the action, as long as nothing has been changed. -/
theorem atomic_failed (a : Action) (error : String) : Atomic a (pure (.failed a error)) :=
  fun _ => .inr ⟨Outcome.isRejection_failed a error, rfl⟩

/-- What is quiet may come before. -/
theorem Quiet.bind_atomic {program : Handling α} {next : α → Handling Outcome} (hp : Quiet program)
    (hn : ∀ result, Atomic a (next result)) : Atomic a (program >>= next) := by
  intro vars
  refine Dialogue.Commits.bind (hp vars) ?_ fun _ h => h.elim
  rintro ⟨result, after⟩ rfl
  cases result with
  | error e => exact .inr ⟨Outcome.isRejection_failed a e.message, rfl⟩
  | ok result => exact hn result after

/-- After the change of a record nothing may fail. -/
theorem atomic_update {store column value target : String} {new : Value}
    {next : Bool → Handling Outcome} (h : ∀ updated, Sure (Outcome.IsClean a) (next updated)) :
    Atomic a (device (.updateRecord store column value target new) >>= next) := by
  intro vars answer
  cases answer with
  | error e =>
    refine ⟨fun hact => ?_, fun _ => .inr ⟨Outcome.isRejection_failed a _, rfl⟩⟩
    obtain ⟨updated, hupdated⟩ := hact
    cases hupdated
  | ok updated =>
    refine ⟨fun _ => ?_, fun hnot => absurd ⟨updated, rfl⟩ hnot⟩
    refine Dialogue.Ensures.mono ?_ (h updated vars)
    rintro ⟨ending, after⟩ ⟨outcome, rfl, hclean⟩
    exact hclean

end Handling

/-! ## Standard handlers -/

namespace Handler

open Handling Outcome

variable (enumeration : Enumeration) (ports : PortSet) (settings : EngineSettings) (a : Action)

theorem quiet_pointerTarget : Quiet (pointerTarget ports a) :=
  (quiet_requirePort _ _).bind fun _ => quiet_require _ _

theorem atomic_click : Atomic a (click ports a) := by
  refine (quiet_pointerTarget ports a).bind_atomic fun target => ?_
  refine (quiet_device (.moveTo target 0) fun _ => id).bind_atomic fun _ => ?_
  refine (quiet_device (.click a.button) fun _ => id).bind_atomic fun _ => ?_
  exact atomic_of_isClean (isClean_succeeded a _)

theorem atomic_move : Atomic a (move ports a) := by
  refine (quiet_pointerTarget ports a).bind_atomic fun target => ?_
  refine (quiet_device (.moveTo target _) fun _ => id).bind_atomic fun _ => ?_
  exact atomic_of_isClean (isClean_succeeded a _)

theorem quiet_pressKeys (keys : List String) : Quiet (pressKeys keys) := by
  unfold pressKeys
  split
  · exact quiet_device _ fun _ => id
  · exact quiet_device _ fun _ => id

theorem atomic_press : Atomic a (press ports a) := by
  refine (quiet_requirePort _ _).bind_atomic fun _ =>
    (quiet_require _ _).bind_atomic fun descriptor => ?_
  refine (quiet_pressKeys _).bind_atomic fun _ => ?_
  exact atomic_of_isClean (isClean_succeeded a _)

theorem atomic_pause : Atomic a (pause settings a) :=
  (quiet_wait _).bind_atomic fun _ => atomic_of_isClean (isClean_succeeded a _)

/-! ### Waiting -/

theorem quiet_watchedPixel : Quiet (watchedPixel ports a) :=
  (quiet_requirePort _ _).bind fun _ => quiet_require _ _

theorem quiet_watchPixel (p : Polling) (place : Coordinates) (wanted : Color → Bool) :
    Quiet (watchPixel p place wanted) := by
  have hattempt : Quiet do
      let sample ← Handling.device (.samplePixel place)
      return sample.filter wanted :=
    (quiet_device (.samplePixel place) fun _ => id).bind fun _ => quiet_pure _
  exact (quiet_pollFrom hattempt p 0).bind fun _ => quiet_pure _

theorem isClean_pixelOutcome (p : Polling) (place : Coordinates) (what : String) (met : Bool) :
    (pixelOutcome p place what a met).IsClean a := by
  cases met with
  | false => exact isClean_unmet a _
  | true => exact isClean_succeeded a _

theorem atomic_awaitColor : Atomic a (awaitColor ports settings a) := by
  refine (quiet_watchedPixel ports a).bind_atomic fun place => ?_
  dsimp only
  split
  · refine (quiet_device (.samplePixel place) fun _ => id).bind_atomic fun sample => ?_
    cases sample with
    | none => exact atomic_failed a _
    | some initial =>
      exact (quiet_watchPixel _ _ _).bind_atomic fun met => atomic_of_isClean
        (isClean_pixelOutcome a _ _ _ met)
  · exact (quiet_watchPixel _ _ _).bind_atomic fun met => atomic_of_isClean
      (isClean_pixelOutcome a _ _ _ met)

theorem atomic_awaitChange : Atomic a (awaitChange ports settings a) := by
  refine (quiet_watchedPixel ports a).bind_atomic fun place => ?_
  refine (quiet_device (.samplePixel place) fun _ => id).bind_atomic fun sample => ?_
  cases sample with
  | none => exact atomic_failed a _
  | some initial =>
    refine (quiet_watchPixel _ _ _).bind_atomic fun met => ?_
    cases met with
    | true => exact atomic_of_isClean (isClean_succeeded a _)
    | false => exact atomic_of_isClean (isClean_unmet a _)

theorem atomic_awaitImage : Atomic a (awaitImage ports settings a) := by
  refine (quiet_requirePort _ _).bind_atomic fun _ => (quiet_require _ _).bind_atomic fun path => ?_
  refine (quiet_pollFrom (quiet_device (.findImage path _) fun _ => id) _ 0).bind_atomic
    fun found => ?_
  cases found with
  | none => exact atomic_of_isClean (isClean_unmet a _)
  | some place =>
    have hfound : Sure (IsClean a) do
        Handling.setVariable "last_image_x" (.int (.ofInt32 place.x))
        Handling.setVariable "last_image_y" (.int (.ofInt32 place.y))
        return .succeeded a ("image found at " ++ place.text) :=
      (sure_setVariable _ _).bind fun _ _ => (sure_setVariable _ _).bind fun _ _ =>
        sure_pure (isClean_succeeded a _)
    exact hfound.atomic

theorem atomic_awaitText : Atomic a (awaitText a) := by
  refine (quiet_getVariable? _).bind_atomic fun recognized => ?_
  dsimp only
  split
  · exact atomic_of_isClean (isClean_succeeded a _)
  · exact atomic_of_isClean (isClean_unmet a _)

/-! ### Conditions and loops -/

/-- A condition is found out quietly. -/
theorem quiet_conditionHolds : Quiet (conditionHolds ports a) := by
  unfold conditionHolds
  split
  · exact (quiet_getVariable? _).bind fun _ => quiet_pure _
  · unfold imageExists
    split
    · exact (quiet_device _ fun _ => id).bind fun _ => quiet_pure _
    · exact quiet_pure false
  · unfold pixelHasColor
    split
    · exact (quiet_device _ fun _ => id).bind fun _ => quiet_pure _
    · exact quiet_pure false
  · exact quiet_pure false

theorem sure_follow (d : Decision) : Sure (fun _ => True) (follow d) :=
  (sure_overflowIf _).bind fun _ _ => sure_modifyVariables _

theorem atomic_conditional : Atomic a (conditional ports a) := by
  refine (quiet_conditionHolds ports a).bind_atomic fun holds => ?_
  have hdecided : Sure (IsClean a) do
      follow (decisionFor a holds)
      return .succeeded a ("condition=" ++ (Value.bool holds).text ++ "; decision=" ++
        (decisionFor a holds).name) :=
    (sure_follow _).bind fun _ _ => sure_pure (isClean_succeeded a _)
  exact hdecided.atomic

/-- Rounds are counted surely: there is nothing in them that can fail. -/
theorem sure_countRounds (duration first n : Nat) :
    Sure (fun _ => True) (countRounds duration first n) := by
  induction n generalizing first with
  | zero => exact sure_pure trivial
  | succ n ih =>
    exact (sure_setVariable _ _).bind fun _ _ => (sure_wait duration).bind fun _ _ => ih (first + 1)

theorem atomic_loop : Atomic a (loop a) := by
  have hloop : Sure (IsClean a) (loop a) :=
    (sure_countRounds _ _ _).bind fun _ _ => (sure_setVariable _ _).bind fun _ _ =>
      sure_pure (isClean_succeeded a _)
  exact hloop.atomic

/-! ### Pictures and messages -/

theorem atomic_capture : Atomic a (capture ports a) := by
  refine (quiet_requirePort _ _).bind_atomic fun _ => ?_
  refine (quiet_device (.capture (region? a)) fun _ => id).bind_atomic fun path => ?_
  cases path with
  | none => exact atomic_of_isClean (isClean_unmet a _)
  | some path => exact atomic_setVariable _ _ (isClean_succeeded a _)

theorem atomic_journal : Atomic a (journal a) := by
  have hjournal : Sure (IsClean a) (journal a) :=
    (sure_log _ _).bind fun _ _ => (sure_setVariable _ _).bind fun _ _ =>
      (sure_setVariable _ _).bind fun _ _ =>
      sure_pure (isClean_succeeded a _)
  exact hjournal.atomic

/-! ### Records -/

theorem quiet_requireTable (name : String) : Quiet (requireTable ports name) :=
  (quiet_requirePort _ _).bind fun _ => (quiet_device (.readTable name) fun _ => id).bind fun _ =>
    quiet_require _ _

theorem atomic_dbSearch : Atomic a (dbSearch ports a) := by
  refine (quiet_requirePort _ _).bind_atomic fun _ => ?_
  refine (quiet_device (.searchRecord _ _ _) fun _ => id).bind_atomic fun found => ?_
  cases found with
  | none => exact atomic_setVariable _ _ (isClean_unmet a _)
  | some record => exact atomic_setVariable _ _ (isClean_succeeded a _)

theorem atomic_dbGetValue : Atomic a (dbGetValue a) := by
  refine (quiet_getVariable? _).bind_atomic fun holder => ?_
  split
  · exact atomic_setVariable _ _ (isClean_succeeded a _)
  · exact atomic_failed a _

theorem atomic_dbIterate : Atomic a (dbIterate ports a) := by
  refine (quiet_requireTable ports _).bind_atomic fun table => quiet_getVariables.bind_atomic
    fun vars => ?_
  exact Sure.atomic ((sure_modifyVariables _).bind fun _ _ => sure_pure (isClean_succeeded a _))

theorem atomic_dbSave : Atomic a (dbSave enumeration ports a) := by
  refine (quiet_requirePort _ _).bind_atomic fun _ => quiet_getVariables.bind_atomic fun vars => ?_
  refine (quiet_requireTable ports _).bind_atomic fun _ => atomic_update fun updated => ?_
  cases updated with
  | false => exact sure_pure (isClean_unmet a _)
  | true => exact (sure_setVariable _ _).bind fun _ _ => sure_pure (isClean_succeeded a _)

theorem atomic_checkValue : Atomic a (checkValue ports a) := by
  refine (quiet_requireTable ports _).bind_atomic fun table =>
    (quiet_getVariable? _).bind_atomic fun current => ?_
  dsimp only
  split
  · exact atomic_setVariable _ _ (isClean_succeeded a _)
  · exact atomic_setVariable _ _ (isClean_unmet a _)

/-- **Every standard handler does all or nothing.** -/
theorem atomic_program : Atomic a (program enumeration ports settings a) := by
  unfold program
  cases a.kind with
  | mouseClick => exact atomic_click ports a
  | mouseMove => exact atomic_move ports a
  | keyPress => exact atomic_press ports a
  | waitTime => exact atomic_pause settings a
  | waitPixelColor => exact atomic_awaitColor ports settings a
  | waitPixelChange => exact atomic_awaitChange ports settings a
  | waitImage => exact atomic_awaitImage ports settings a
  | waitText => exact atomic_awaitText a
  | conditional => exact atomic_conditional ports a
  | loop => exact atomic_loop a
  | screenshot => exact atomic_capture ports a
  | log => exact atomic_journal a
  | dbSearch => exact atomic_dbSearch ports a
  | dbGetValue => exact atomic_dbGetValue a
  | dbIterate => exact atomic_dbIterate ports a
  | dbSave => exact atomic_dbSave enumeration ports a
  | checkValue => exact atomic_checkValue ports a
  | runRow => exact atomic_of_isClean (isClean_succeeded a _)

end Handler
end ActionBoard
