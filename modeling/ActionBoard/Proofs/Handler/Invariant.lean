import ActionBoard.Handler.Standard
import ActionBoard.Proofs.Engine.Checked

/-!
# Invariants of handlers

A handler's program meets an invariant of the variables if it keeps it along every sequence of
answers, and what it gives in the end may be described as well.  There is a rule for each piece that
handlers are written with, and the proof for a handler goes through its program as it is written.

* `Handling.Meets`: what is kept, and what is given unless there is an error.  No sum
  overflows on the way.
* `Handler.meets_isClear_of_mem_plain`: actions that only act, wait and log leave alone the two
  variables by which the engine is asked for something.
-/

namespace ActionBoard

namespace Handling

variable {α β : Type} {I : Variables → Prop} {P : α → Prop} {R : β → Prop}

/-- Whatever the answers are, no sum overflows, the invariant is kept, and unless there is an error
the result is as described. -/
def Meets (I : Variables → Prop) (P : α → Prop) (program : Handling α) : Prop :=
  ∀ vars, I vars → (program.run vars).Asks Effect.Fits ∧
    (program.run vars).Ensures fun ending => I ending.2 ∧ ∀ a, ending.1 = .ok a → P a

theorem meets_pure {a : α} (h : P a) : Meets I P (pure a) := by
  intro vars hv
  refine ⟨trivial, hv, ?_⟩
  rintro _ ⟨⟩
  exact h

theorem meets_fail (e : HandlerError) : Meets I P (fail e) :=
  fun _ hv => ⟨trivial, hv, nofun⟩

/-- An error ends a program; otherwise the rest of it keeps the invariant on. -/
theorem Meets.bind {program : Handling α} {next : α → Handling β} (hp : Meets I P program)
    (hn : ∀ a, P a → Meets I R (next a)) : Meets I R (program >>= next) := by
  intro vars hv
  obtain ⟨hasks, hensures⟩ := hp vars hv
  refine ⟨hasks.bind_of_ensures hensures fun ending he => ?_,
    Dialogue.Ensures.bind hensures fun ending he => ?_⟩
  · obtain ⟨e | a, vars'⟩ := ending
    · trivial
    · exact (hn a (he.2 a rfl) vars' he.1).1
  · obtain ⟨e | a, vars'⟩ := ending
    · exact ⟨he.1, nofun⟩
    · exact (hn a (he.2 a rfl) vars' he.1).2

theorem meets_device (call : DeviceCall) : Meets I (fun _ => True) (device call) := by
  refine fun vars hv => ⟨⟨trivial, ?_⟩, ?_⟩
  · rintro (e | answer) <;> trivial
  · rintro (e | answer)
    · exact ⟨hv, nofun⟩
    · exact ⟨hv, fun _ _ => trivial⟩

theorem meets_log (level : LogLevel) (message : String) :
    Meets I (fun _ => True) (log level message) :=
  fun _ hv => ⟨⟨trivial, fun _ => trivial⟩, fun _ => ⟨hv, fun _ _ => trivial⟩⟩

theorem meets_wait (duration : Nat) : Meets I (fun _ => True) (wait duration) :=
  fun _ hv => ⟨⟨trivial, fun _ => trivial⟩, fun _ => ⟨hv, fun _ _ => trivial⟩⟩

theorem meets_setVariable {name : String} {value : Value}
    (h : ∀ vars, I vars → I (vars.insert name value)) :
    Meets I (fun _ => True) (setVariable name value) :=
  fun vars hv => ⟨trivial, h vars hv, fun _ _ => trivial⟩

theorem meets_require (value : Option α) (e : HandlerError) :
    Meets I (fun _ => True) (require value e) := by
  cases value with
  | none => exact meets_fail e
  | some a => exact meets_pure trivial

theorem meets_requirePort (present : Bool) (port : String) :
    Meets I (fun _ => True) (requirePort present port) := by
  cases present with
  | false => exact meets_fail (.portMissing port)
  | true => exact meets_pure trivial

/-- Polling keeps what every attempt keeps. -/
theorem meets_pollFrom {attempt : Handling (Option α)}
    (h : Meets I (fun _ => True) attempt) (p : Polling)
    (elapsed : Nat) : Meets I (fun _ => True) (pollFrom p attempt elapsed) := by
  induction elapsed using pollFrom.induct p with
  | case1 elapsed hwithin ih =>
    rw [pollFrom, if_pos hwithin]
    refine h.bind fun found _ => ?_
    cases found with
    | some a => exact meets_pure trivial
    | none => exact (meets_wait p.interval).bind fun _ _ => ih
  | case2 elapsed hpast =>
    rw [pollFrom, if_neg hpast]
    exact meets_pure trivial

end Handling

/-! ## Outcomes and their actions -/

/-- An outcome that carries the identifier and the name of an action. -/
def Outcome.IsOf (a : Action) (o : Outcome) : Prop :=
  o.actionId = a.id ∧ o.actionName = a.name

theorem Outcome.isOf_succeeded (a : Action) (message : String) :
    (succeeded a message).IsOf a := ⟨rfl, rfl⟩

theorem Outcome.isOf_unmet (a : Action) (message : String) : (unmet a message).IsOf a := ⟨rfl, rfl⟩

theorem Outcome.isOf_failed (a : Action) (error : String) : (failed a error).IsOf a := ⟨rfl, rfl⟩

namespace Handler

open Handling

variable {I : Variables → Prop} (enumeration : Enumeration) (ports : PortSet)
  (settings : EngineSettings) (a : Action)

theorem meets_pointerTarget : Meets I (fun _ => True) (pointerTarget ports a) :=
  (meets_requirePort _ _).bind fun _ _ => meets_require _ _

theorem meets_click : Meets I (Outcome.IsOf a) (click ports a) :=
  (meets_pointerTarget ports a).bind fun _ _ => (meets_device _).bind fun _ _ =>
    (meets_device _).bind fun _ _ => meets_pure (Outcome.isOf_succeeded a _)

theorem meets_move : Meets I (Outcome.IsOf a) (move ports a) :=
  (meets_pointerTarget ports a).bind fun _ _ => (meets_device _).bind fun _ _ =>
    meets_pure (Outcome.isOf_succeeded a _)

theorem meets_pressKeys (keys : List String) : Meets I (fun _ => True) (pressKeys keys) := by
  unfold pressKeys
  split
  · exact meets_device _
  · exact meets_device _

theorem meets_press : Meets I (Outcome.IsOf a) (press ports a) :=
  (meets_requirePort _ _).bind fun _ _ => (meets_require _ _).bind fun _ _ =>
    (meets_pressKeys _).bind fun _ _ => meets_pure (Outcome.isOf_succeeded a _)

theorem meets_pause : Meets I (Outcome.IsOf a) (pause settings a) :=
  (meets_wait _).bind fun _ _ => meets_pure (Outcome.isOf_succeeded a _)

theorem meets_watchPixel (p : Polling) (place : Coordinates) (wanted : Color → Bool) :
    Meets I (fun _ => True) (watchPixel p place wanted) := by
  refine (meets_pollFrom ?_ p 0).bind fun _ _ => meets_pure trivial
  exact (meets_device (.samplePixel place)).bind fun _ _ => meets_pure trivial

theorem meets_watchedPixel : Meets I (fun _ => True) (watchedPixel ports a) :=
  (meets_requirePort _ _).bind fun _ _ => meets_require _ _

theorem meets_awaitChange : Meets I (Outcome.IsOf a) (awaitChange ports settings a) := by
  refine (meets_watchedPixel ports a).bind fun place _ => ?_
  refine (meets_device (.samplePixel place)).bind fun sample _ => ?_
  cases sample with
  | none => exact meets_pure (Outcome.isOf_failed a _)
  | some initial =>
    refine (meets_watchPixel _ _ _).bind fun met _ => ?_
    cases met with
    | true => exact meets_pure (Outcome.isOf_succeeded a _)
    | false => exact meets_pure (Outcome.isOf_unmet a _)

/-- Logging sets two variables. -/
theorem meets_journal (h : ∀ vars value, I vars → I (vars.insert "last_log_message" value))
    (h' : ∀ vars value, I vars → I (vars.insert "last_log_level" value)) :
    Meets I (Outcome.IsOf a) (journal a) :=
  (meets_log _ _).bind fun _ _ => (meets_setVariable fun vars hv => h vars _ hv).bind fun _ _ =>
    (meets_setVariable fun vars hv => h' vars _ hv).bind fun _ _ =>
      meets_pure (Outcome.isOf_succeeded a _)

/-! ## Plain actions -/

/-- The program by which an action is executed that calls no row. -/
def program (enumeration : Enumeration) (ports : PortSet) (settings : EngineSettings) (a : Action) :
    Handling Outcome :=
  match standard enumeration ports settings a.kind with
  | .leaf execute => execute a {}
  | .rowCall => return .succeeded a ""

/-- Only the call of a row needs more than the variables. -/
theorem standard_eq_leaf (h : a.kind ≠ .runRow) :
    ∃ execute, standard enumeration ports settings a.kind = .leaf execute ∧
      ∀ ctx, execute a ctx = program enumeration ports settings a := by
  unfold program
  cases hkind : a.kind with
  | runRow => exact absurd hkind h
  | _ => exact ⟨_, rfl, fun _ => rfl⟩

theorem standard_runRow : standard enumeration ports settings .runRow = .rowCall := rfl

end Handler

/-- The kinds of actions that only act, wait and log. -/
def ActionKind.plain : List ActionKind :=
  [.mouseClick, .mouseMove, .keyPress, .waitTime, .waitPixelChange, .log]

/-- No variable asks for a skip or for a break. -/
structure Variables.IsClear (vars : Variables) : Prop where
  noSkip : vars.find? skipVariable = none
  noBreak : vars.find? breakVariable = none

namespace Variables.IsClear

variable {vars : Variables}

theorem insert {name : String} (h : vars.IsClear) (value : Value) (hskip : skipVariable ≠ name)
    (hbreak : breakVariable ≠ name) : IsClear (vars.insert name value) :=
  ⟨(Dictionary.find?_insert_of_ne vars value hskip).trans h.noSkip,
    (Dictionary.find?_insert_of_ne vars value hbreak).trans h.noBreak⟩

theorem breakRequested (h : vars.IsClear) : vars.breakRequested = false := by
  rw [Variables.breakRequested, h.noBreak]
  rfl

theorem takeSkip? (h : vars.IsClear) : vars.takeSkip? = none := by
  rw [takeSkip?_eq_none, skipCount, h.noSkip]
  rfl

end Variables.IsClear

namespace Handler

/-- Plain actions set no variables but the two in which messages are kept. -/
theorem meets_program_of_mem_plain {I : Variables → Prop} (enumeration : Enumeration)
    (ports : PortSet) (settings : EngineSettings) {a : Action}
    (hmessage : ∀ vars value, I vars → I (vars.insert "last_log_message" value))
    (hlevel : ∀ vars value, I vars → I (vars.insert "last_log_level" value))
    (h : a.kind ∈ ActionKind.plain) :
    Handling.Meets I (Outcome.IsOf a) (program enumeration ports settings a) := by
  simp only [ActionKind.plain, List.mem_cons, List.not_mem_nil, or_false] at h
  unfold program
  rcases h with h | h | h | h | h | h <;> rw [h]
  · exact meets_click ports a
  · exact meets_move ports a
  · exact meets_press ports a
  · exact meets_pause settings a
  · exact meets_awaitChange ports settings a
  · exact meets_journal a hmessage hlevel

/-- Plain actions ask for no skip and no break. -/
theorem meets_isClear_of_mem_plain (enumeration : Enumeration) (ports : PortSet)
    (settings : EngineSettings) {a : Action} (h : a.kind ∈ ActionKind.plain) :
    Handling.Meets Variables.IsClear (Outcome.IsOf a) (program enumeration ports settings a) :=
  meets_program_of_mem_plain enumeration ports settings
    (fun _ value hv => hv.insert value (by decide) (by decide))
    (fun _ value hv => hv.insert value (by decide) (by decide)) h

/-- No sum overflows in plain actions. -/
theorem asks_program_of_mem_plain (enumeration : Enumeration) (ports : PortSet)
    (settings : EngineSettings) {a : Action} (h : a.kind ∈ ActionKind.plain) (vars : Variables) :
    ((program enumeration ports settings a).run vars).Asks Effect.Fits :=
  (meets_program_of_mem_plain (I := fun _ => True) enumeration ports settings (fun _ _ _ => trivial)
    (fun _ _ _ => trivial) h vars trivial).1

end Handler

end ActionBoard
