import ActionBoard.Proofs.Engine.Rejection
import Mathlib.Data.List.DropRight

/-!
# What is set for a run reaches it, and no other one

A variable that is set goes to two places: among the variables that callers see, and among the
seeds of the next run.  A run that begins takes all seeds with it, and a run that ends writes
over the variables.  So a variable that is set during a run is seen, is then no longer seen, and
has to reach the next run all the same; and a request for a run that is rejected has to leave
the seeds where they are.

* `Part`, `Session.part_setVariable`: what may happen next, where the two writes of setting a
  variable may fall apart.
* `Session.history`: what has happened in a session, with the replies.
* `sinceRun`, `given`: what has happened since a run began for the last time, and the values
  that were set in it.
* `Session.seeds_history`: these values are the seeds, at every moment.
* `StartsWith`, `Session.runs_start_with_what_was_given`: the variables in which a run begins.

That a value is not seeded twice is a statement about the history and not about the seeds of one
run.  It rests on the equation for the seeds: whatever a run begins with can be read off what has
happened since the run before it.
-/

namespace ActionBoard

open Interleaving (Request)

/-! ## Setting a variable in two writes -/

namespace Control

/-- Setting a variable, as far as callers see it. -/
def showVariable (c : Control) (name : String) (value : Value) : Control :=
  { c with vars := c.vars.insert name value }

/-- Setting a variable, as far as the next run gets it. -/
def seedVariable (c : Control) (name : String) (value : Value) : Control :=
  { c with seeds := c.seeds.insert name value }

end Control

/-- What may happen next: a move, or one of the two writes of a variable that is set. -/
inductive Part where
  | move (m : Move)
  | showing (name : String) (value : Value)
  | seeding (name : String) (value : Value)

/-- The value that is given to the next run, with its name. -/
def Part.gives? : Part → Option (String × Value)
  | move (.request (.setVariable name value)) => some (name, value)
  | seeding name value => some (name, value)
  | _ => none

/-- A run was asked for and did not begin. -/
def Reply.isRejection : Reply → Bool
  | ended (some (.error .alreadyRunning)) => true
  | _ => false

/-- What has happened, and what came back from it. -/
abbrev Step := Part × Reply

/-- A run was asked for and began. -/
def Step.begins : Step → Bool
  | (.move (.run ..), reply) => !reply.isRejection
  | _ => false

def Step.gives? (step : Step) : Option (String × Value) :=
  step.1.gives?

/-- A run that began took the seeds, so it is not a step that gives something. -/
theorem Step.gives?_of_begins {step : Step} (h : step.begins = true) : step.gives? = none := by
  obtain ⟨m | _ | _, reply⟩ := step
  · cases m with
    | run board seed inPlace => rfl
    | _ => cases h
  · cases h
  · cases h

/-- What has happened since a run began for the last time. -/
def sinceRun (past : List Step) : List Step :=
  past.rtakeWhile fun step => !step.begins

/-- The values that were given, with their names. -/
def given (past : List Step) : List (String × Value) :=
  past.filterMap Step.gives?

/-- The value that was given last under a name since a run began for the last time. -/
def lastGiven (name : String) (past : List Step) : Option Value :=
  lookupEntry name (given (sinceRun past)).reverse

/-! ## Looking back -/

section

variable {past before behind : List Step} {step : Step} {name : String} {value : Value}

theorem sinceRun_of_begins (h : step.begins = true) : sinceRun (past ++ [step]) = [] :=
  List.rtakeWhile_concat_neg _ _ _ (by simp [h])

theorem sinceRun_of_not_begins (h : step.begins = false) :
    sinceRun (past ++ [step]) = sinceRun past ++ [step] :=
  List.rtakeWhile_concat_pos _ _ _ (by simp [h])

theorem given_append (before behind : List Step) :
    given (before ++ behind) = given before ++ given behind :=
  List.filterMap_append ..

/-- What happened before a run began does not count any more. -/
theorem sinceRun_append_of_begins (h : step.begins = true) :
    sinceRun (before ++ step :: behind) = sinceRun behind := by
  induction behind using List.reverseRecOn with
  | nil => exact sinceRun_of_begins h
  | append_singleton rest last ih =>
    have hsplit : before ++ step :: (rest ++ [last]) = (before ++ step :: rest) ++ [last] := by
      rw [List.append_assoc, List.cons_append]
    rw [hsplit]
    cases hlast : last.begins with
    | true => rw [sinceRun_of_begins hlast, sinceRun_of_begins hlast]
    | false => rw [sinceRun_of_not_begins hlast, sinceRun_of_not_begins hlast, ih]

/-- What happened when no run began still counts. -/
theorem sinceRun_append_of_forall (h : ∀ other ∈ behind, other.begins = false) :
    sinceRun (before ++ behind) = sinceRun before ++ behind := by
  induction behind using List.reverseRecOn with
  | nil => rw [List.append_nil, List.append_nil]
  | append_singleton rest last ih =>
    have hlast : last.begins = false := h last (by simp)
    have hrest : ∀ other ∈ rest, other.begins = false :=
      fun other member => h other (by simp [member])
    rw [← List.append_assoc, sinceRun_of_not_begins hlast, ih hrest, List.append_assoc]

theorem lookupEntry_given_reverse_eq_none (h : ∀ other ∈ past, ∀ v, other.gives? ≠ some (name, v)) :
    lookupEntry name (given past).reverse = none := by
  induction past using List.reverseRecOn with
  | nil => rfl
  | append_singleton rest last ih =>
    have hlast : ∀ v, last.gives? ≠ some (name, v) := h last (by simp)
    have hrest := ih fun other member => h other (by simp [member])
    rw [given_append, List.reverse_append, lookupEntry_append, hrest, Option.or_none]
    cases hgives : last.gives? with
    | none => simp [given, hgives, lookupEntry]
    | some entry =>
      have hne : entry.1 ≠ name := by
        rintro rfl
        exact hlast entry.2 hgives
      simp [given, hgives, lookupEntry, hne]

/-- A value that is given stays the last one of its name until another one is given, or a run
begins. -/
theorem lastGiven_of_gives (hstep : step.gives? = some (name, value))
    (hruns : ∀ other ∈ behind, other.begins = false)
    (hbehind : ∀ other ∈ behind, ∀ v, other.gives? ≠ some (name, v)) :
    lastGiven name (before ++ step :: behind) = some value := by
  have hnot : step.begins = false := by
    cases hbegins : step.begins with
    | false => rfl
    | true =>
      rw [Step.gives?_of_begins hbegins] at hstep
      cases hstep
  have hsince : sinceRun (before ++ step :: behind) = (sinceRun before ++ [step]) ++ behind := by
    rw [← sinceRun_of_not_begins hnot, ← sinceRun_append_of_forall hruns, List.append_assoc,
      List.singleton_append]
  rw [lastGiven, hsince, given_append, List.reverse_append, lookupEntry_append,
    lookupEntry_given_reverse_eq_none hbehind, Option.none_or, given_append, List.reverse_append]
  simp [given, hstep, lookupEntry]

/-- Nothing is left under a name under which nothing was given since a run began. -/
theorem lastGiven_of_begins (hstep : step.begins = true)
    (hbehind : ∀ other ∈ behind, ∀ v, other.gives? ≠ some (name, v)) :
    lastGiven name (before ++ step :: behind) = none := by
  rw [lastGiven, sinceRun_append_of_begins hstep]
  refine lookupEntry_given_reverse_eq_none fun other member => hbehind other ?_
  exact (List.rtakeWhile_suffix _ behind).subset member

end

namespace Session

variable {σ : Type} {setting : Setting σ} {s : Session σ}

/-! ## What has happened -/

def part (setting : Setting σ) (s : Session σ) : Part → Reply × Session σ
  | .move m => s.move setting m
  | .showing name value => (.nothing, s.request fun c => c.showVariable name value)
  | .seeding name value => (.nothing, s.request fun c => c.seedVariable name value)

/-- Parts one after the other, as what has happened when they are over. -/
def history (setting : Setting σ) : List Part → Session σ → List Step × Session σ
  | [], s => ([], s)
  | p :: rest, s =>
    let first := s.part setting p
    let others := history setting rest first.2
    ((p, first.1) :: others.1, others.2)

theorem history_concat (parts : List Part) (p : Part) (s : Session σ) :
    history setting (parts ++ [p]) s =
      let past := history setting parts s
      let last := past.2.part setting p
      (past.1 ++ [(p, last.1)], last.2) := by
  induction parts generalizing s with
  | nil => rfl
  | cons first rest ih =>
    rw [List.cons_append, history, ih]
    rfl

/-- Setting a variable is its two writes one after the other. -/
theorem part_setVariable (name : String) (value : Value) (s : Session σ) :
    s.part setting (.move (.request (.setVariable name value))) =
      (s.part setting (.showing name value)).2.part setting (.seeding name value) := rfl

/-! ## The seeds -/

theorem isRejection_undertake (program : RunProgram RunCompletion) (inPlace : Bool) :
    (s.undertake setting program inPlace).1.isRejection = false := by
  rw [undertake]
  split
  · generalize s.perform setting program = played
    obtain ⟨_ | _ | _, _⟩ := played <;> rfl
  · rfl

theorem seeds_abort (s : Session σ) : s.abort.control.seeds = s.control.seeds := by
  rw [abort]
  split <;> rfl

/-- What one part does to the seeds: a run that begins takes them, and what is given
comes in addition. -/
theorem seeds_part (s : Session σ) (p : Part) :
    (s.part setting p).2.control.seeds =
      if Step.begins (p, (s.part setting p).1) then ∅
        else s.control.seeds.insertAll p.gives?.toList := by
  cases p with
  | showing name value => rfl
  | seeding name value => rfl
  | move m =>
    cases m with
    | run board seed inPlace =>
      cases hrunning : s.control.isRunning with
      | true =>
        rw [part, move_run_of_isRunning hrunning]
        rfl
      | false =>
        rw [part, move_run_of_idle hrunning, (ages_undertake _ inPlace).seeds, Step.begins,
          isRejection_undertake]
        rfl
    | request r => cases r <;> rfl
    | look q => rfl
    | abort => exact seeds_abort s
    | go => exact (ages_go setting s).seeds
    | elapse duration => exact (ages_elapse setting s duration).seeds

/-- **The seeds are what was given since a run began for the last time.** -/
theorem seeds_history (setting : Setting σ) (hnew : s.control.seeds = ∅) (parts : List Part) :
    (s.history setting parts).2.control.seeds = .ofList
      (given (sinceRun (s.history setting parts).1)) := by
  -- Whether the last part was the beginning of a run decides what still counts, so the induction
  -- is from the end.
  induction parts using List.reverseRecOn with
  | nil => exact hnew
  | append_singleton earlier p ih =>
    rw [history_concat]
    dsimp only
    rw [seeds_part, ih]
    cases hbegins : Step.begins (p, ((s.history setting earlier).2.part setting p).1) with
    | true =>
      rw [sinceRun_of_begins hbegins, if_pos rfl]
      rfl
    | false =>
      have hlast : given [(p, ((s.history setting earlier).2.part setting p).1)] =
          p.gives?.toList := by
        cases hgives : p.gives? with
        | none => simp [given, Step.gives?, hgives]
        | some entry => simp [given, Step.gives?, hgives]
      rw [sinceRun_of_not_begins hbegins, given_append, hlast, if_neg Bool.false_ne_true]
      exact (List.foldl_append ..).symm

end Session

/-! ## What runs start with -/

/-- The variables that every run starts with. -/
def reserved (board : Board) : Variables :=
  .ofList [(boardVariable, .string board.id), (runningVariable, .bool true)]

theorem find?_startingContext (c : Control) (board : Board) (seed : Variables) (name : String) :
    (c.startingContext board seed).vars.find? name =
      (seed.find? name).or ((c.seeds.find? name).or ((reserved board).find? name)) := by
  show (((reserved board).insertAll c.seeds.toList).insertAll seed.toList).find? name = _
  rw [Dictionary.find?_insertAll_toList, Dictionary.find?_insertAll_toList]

/-- The variables of a run that begins with a seed after some steps. -/
structure StartsWith (past : List Step) (board : Board) (seed vars : Variables) : Prop where
  /-- The reserved variables are under those that were given since the run before, and these are
  under the seed. -/
  overlaid (name : String) :
    vars.find? name = (seed.find? name).or ((lastGiven name past).or ((reserved board).find? name))
  /-- A value is not lost that was given, whenever that was, and neither replaced since nor
  taken by a run. -/
  reaches {before behind : List Step} {step : Step} {name : String} {value : Value} :
    past = before ++ step :: behind → step.gives? = some (name, value) →
      (∀ other ∈ behind, other.begins = false) →
        (∀ other ∈ behind, ∀ v, other.gives? ≠ some (name, v)) →
      vars.find? name = (seed.find? name).or (some value)
  /-- A value is not seeded again that was given before another run began. -/
  once {before behind : List Step} {step : Step} {name : String} :
    past = before ++ step :: behind → step.begins = true →
      (∀ other ∈ behind, ∀ v, other.gives? ≠ some (name, v)) →
      vars.find? name = (seed.find? name).or ((reserved board).find? name)

theorem StartsWith.of_overlaid {past : List Step} {board : Board} {seed vars : Variables}
    (h : ∀ name, vars.find? name =
      (seed.find? name).or ((lastGiven name past).or ((reserved board).find? name))) :
    StartsWith past board seed vars where
  overlaid := h
  reaches hpast hstep hruns hbehind := by
    rw [h, hpast, lastGiven_of_gives hstep hruns hbehind, Option.some_or]
  once hpast hstep hbehind := by
    rw [h, hpast, lastGiven_of_begins hstep hbehind, Option.none_or]

namespace Session

variable {σ : Type} {setting : Setting σ} {s : Session σ}

/-- **What is set for a run reaches it, and no other one.**  In a session of a new engine variables
are set, in one piece or in two, and runs begin, are rejected, stopped, dropped and completed, in
any order.  A run that is asked for then is rejected and changes nothing, if there is one; otherwise
it begins.  The variables in which it begins are the reserved ones, over them for every name the
value that was given last since a run began, and over these its seed: what was given meanwhile is
not missing, even if that was during a run, and what was given earlier does not come back. -/
theorem runs_start_with_what_was_given (setting : Setting σ) (hnew : s.control.seeds = ∅)
    (parts : List Part) (board : Board) (seed : Variables) (inPlace : Bool) :
    let past := s.history setting parts
    let asked := past.2.move setting (.run board seed inPlace)
    (past.2.control.isRunning = true → asked = (.ended (some (.error .alreadyRunning)), past.2)) ∧
      (past.2.control.isRunning = false →
        asked.1.isRejection = false ∧ asked.2.control.seeds = ∅ ∧
          ∃ vars, StartsWith past.1 board seed vars ∧
            asked = (past.2.request Control.started).undertake setting
              (.checked (runBoard setting.callDepthLimit board
                ((Context.forBoard board).withVariables vars))) inPlace) := by
  intro past asked
  refine ⟨fun hrunning => move_run_of_isRunning hrunning board seed inPlace, fun hidle => ?_⟩
  have hasked : asked = (past.2.request Control.started).undertake setting
      (.checked (runBoard setting.callDepthLimit board (past.2.control.startingContext board seed)))
      inPlace :=
    move_run_of_idle hidle board seed inPlace
  have hseeds : past.2.control.seeds = .ofList (given (sinceRun past.1)) :=
    seeds_history setting hnew parts
  have hoverlaid : ∀ name, (past.2.control.startingContext board seed).vars.find? name =
      (seed.find? name).or ((lastGiven name past.1).or ((reserved board).find? name)) := by
    intro name
    rw [find?_startingContext, hseeds, Dictionary.find?_ofList]
    rfl
  refine ⟨?_, ?_, _, StartsWith.of_overlaid hoverlaid, hasked⟩
  · rw [hasked, isRejection_undertake]
  · rw [hasked, (ages_undertake _ inPlace).seeds]
    rfl

/-- A variable is set, another one is only shown when the run begins and is set for good during
it, a third one is set during the run and after it; meanwhile a run is rejected, and the one under
way is stopped. -/
theorem runs_start_with_what_was_given_of_overlapping :
    let setting : Setting Unit := ⟨fun _ s => (.error (.unavailable ""), s), {}⟩
    let s : Session Unit := { stage := CallStack.idleStage }
    let parts : List Part :=
      [.move (.request (.setVariable "early" (.nat 1))), .showing "late" (.nat 2),
        .move (.run waitingBoard ∅ false),
        .move (.elapse 500), .seeding "late" (.nat 2), .move (.run waitingBoard ∅ true),
        .move (.request (.setVariable "twice" (.nat 3))), .move (.request .stop),
          .move (.elapse 1000),
        .move (.request (.setVariable "twice" (.nat 4)))]
    let seed : Variables := Dictionary.empty.insert boardVariable (.nat 5)
    let past := s.history setting parts
    s.control.seeds = ∅ ∧ past.2.control.isRunning = false ∧
      (given (sinceRun past.1)).map Prod.fst = ["late", "twice", "twice"] ∧
      ∃ vars, StartsWith past.1 waitingBoard seed vars ∧
        past.2.move setting (.run waitingBoard seed false) =
          (past.2.request Control.started).undertake setting
            (.checked (runBoard setting.callDepthLimit waitingBoard
              ((Context.forBoard waitingBoard).withVariables vars))) false := by
  intro setting s parts seed past
  have hnew : s.control.seeds = ∅ := rfl
  have hidle : past.2.control.isRunning = false := by decide +kernel
  have hgiven : (given (sinceRun past.1)).map Prod.fst = ["late", "twice", "twice"] := by
    decide +kernel
  obtain ⟨-, -, hstarts⟩ :=
    (runs_start_with_what_was_given setting hnew parts waitingBoard seed false).2 hidle
  exact ⟨hnew, hidle, hgiven, hstarts⟩

end Session

end ActionBoard
