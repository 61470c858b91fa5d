import ActionBoard.Proofs.Runner.Containment

/-!
# The gate before a run

A script is refused or it is run, and the report says which.  What is said here holds of a runner in
any world: the host and the engine answer as they like, and each answer may depend on the answers
before.  So the file that is read need not be the one that was there when the path was settled, and
the engine may be busy by the time it is asked.

* `run_execute`: an execution is the gate and then the run of what passed it, each in the world that
  the one before has left.
* `exists_refusal_iff`: the gate refuses what is outside of the root, what cannot be read and what
  has an error, and always says so by an error.
* `runAdmitted_cases`: the three ways in which an admitted script comes to its report.
* `report_tells`: how the report tells what happened, for every runner, path and world.

Before the gate there are only looks at the host (`RunnerRequest.IsLook`).  They are no
requests to the engine and start no program, so whatever looking leaves alone is left alone by
a refused execution.
-/

namespace ActionBoard

/-- A request that only looks at the host. -/
def RunnerRequest.IsLook : RunnerRequest → Prop
  | .host (.readFile _) | .host (.realLocation _) | .host .workingDirectory | .host (.isFile _)
  | .host (.environmentVariable _) => True
  | .host (.makeDirectories _) | .host (.writeFile _ _) | .host (.launch _ _ _) | .emulate _ =>
    False

/-- Whether there is an error among diagnostics. -/
def HasError (diagnostics : List Diagnostic) : Prop :=
  ∃ d ∈ diagnostics, d.severity = .error

theorem hasError_append {first second : List Diagnostic} :
    HasError (first ++ second) ↔ HasError first ∨ HasError second := by
  simp [HasError, or_and_right, exists_or]

theorem hasError_error (message : String) (line : Nat) : HasError [.error message line] :=
  ⟨_, List.mem_singleton_self _, rfl⟩

theorem not_hasError_nil : ¬ HasError [] := by
  rintro ⟨d, hd, -⟩
  cases hd

theorem not_hasError_flatMap {α : Type} {found : α → List Diagnostic}
    (h : ∀ a, ¬ HasError (found a)) (l : List α) : ¬ HasError (l.flatMap found) := by
  rintro ⟨d, hd, herror⟩
  obtain ⟨a, -, ha⟩ := List.mem_flatMap.mp hd
  exact h a ⟨d, ha, herror⟩

theorem Validation.isValid_iff (v : Validation) : v.isValid = true ↔ ¬ HasError v.diagnostics := by
  simp [isValid, HasError]

/-! ## Translations report no errors -/

namespace Script

theorem not_hasError_coordinate (c : Command) (n : Int) : ¬ HasError (coordinate c n).2 := by
  unfold coordinate
  split
  · exact not_hasError_nil
  · simp [HasError, Diagnostic.warning]

theorem not_hasError_pointArgument (c : Command) : ¬ HasError (pointArgument c).2 := by
  unfold pointArgument
  split
  · rename_i x y rest _
    rw [hasError_append]
    exact not_or.mpr ⟨not_hasError_coordinate c x, not_hasError_coordinate c y⟩
  · exact not_hasError_nil

theorem not_hasError_loggedCommand (c : Command) : ¬ HasError (loggedCommand c).2 := by
  unfold loggedCommand
  dsimp only
  repeat' split
  · exact not_hasError_nil
  · exact not_hasError_nil
  · exact not_hasError_nil
  · simp [HasError, Diagnostic.info]

theorem not_hasError_commandAction (functions : Declarations Function) (c : Command) :
    ¬ HasError (commandAction functions c).2 := by
  unfold commandAction
  split
  · exact not_hasError_nil
  · unfold builtinCommand
    dsimp only
    split
    all_goals first
      | exact not_hasError_nil
      | exact not_hasError_pointArgument c
      | exact not_hasError_loggedCommand c

/-- Translating a script gives no error. -/
theorem not_hasError_report (script : Script) : ¬ HasError script.report := by
  have hcommands : ∀ commands, ¬ HasError (reportOf script.functions commands) := fun commands =>
    not_hasError_flatMap (not_hasError_commandAction script.functions) commands
  rw [report, hasError_append]
  exact not_or.mpr ⟨hcommands _, not_hasError_flatMap (fun entry => hcommands _) _⟩

end Script

/-! ## Reports -/

namespace Execution

/-- An execution with an error is no success. -/
def Consistent (e : Execution) : Prop :=
  HasError e.diagnostics → e.success = false

theorem consistent_ofProcess {diagnostics : List Diagnostic} (h : ¬ HasError diagnostics)
    (result : Except FileError ProcessReport) : (ofProcess diagnostics result).Consistent := by
  intro herror
  cases result with
  | error e => rfl
  | ok report =>
    have hending : HasError (endingDiagnostics report.ending) :=
      (hasError_append.mp herror).resolve_left h
    show decide (report.ending = .exited 0) = false
    cases hreport : report.ending with
    | exited code =>
      rw [hreport] at hending
      exact absurd hending not_hasError_nil
    | killed => rfl
    | timedOut => rfl
    | lost e => rfl

theorem consistent_ofEmulation {diagnostics : List Diagnostic} (h : ¬ HasError diagnostics)
    (board : Board) (result : RunResult) : (ofEmulation board diagnostics result).Consistent := by
  intro herror
  cases result with
  | error e => rfl
  | ok outcomes => exact absurd herror h

/-- An emulation succeeds exactly if the engine took it on and everything it gave is a success. -/
theorem success_ofEmulation (board : Board) (diagnostics : List Diagnostic) (result : RunResult) :
    (ofEmulation board diagnostics result).success = true ↔
      ∃ outcomes, result = .ok outcomes ∧
        (ofEmulation board diagnostics result).outcomes = outcomes ∧
        ∀ o ∈ outcomes, o.success = true := by
  cases result with
  | error e => simp [ofEmulation]
  | ok outcomes => simp [ofEmulation]

end Execution

namespace Gate

open Containment (onHost_bind verdict check_eq asks_resolve asks_isAllowed touchesNone_resolve
  touchesNone_isAllowed)

/-! ## Looks -/

theorem isLook_resolve (path : String) :
    (RunnerProgram.onHost (HostProgram.resolve path)).Asks RunnerRequest.IsLook :=
  asks_resolve (P := RunnerRequest.IsLook) trivial trivial

theorem isLook_isAllowed (route : Route) (root : Option String) :
    (RunnerProgram.onHost (Runner.isAllowed route root)).Asks RunnerRequest.IsLook :=
  asks_isAllowed (P := RunnerRequest.IsLook) (fun _ => trivial) trivial route root

theorem isLook_check (runner : Runner) (route : Route) :
    (RunnerProgram.onHost (runner.check route)).Asks RunnerRequest.IsLook := by
  rw [check_eq]
  exact ⟨trivial, fun _ => trivial⟩

/-- At the gate there are only looks. -/
theorem isLook_pass (runner : Runner) (route : Route) (root : Option String) :
    (RunnerProgram.onHost (runner.pass route root)).Asks RunnerRequest.IsLook := by
  rw [Runner.pass, Dialogue.bind_eq, onHost_bind]
  refine (isLook_isAllowed route root).bind fun allowed => ?_
  split
  · exact isLook_check runner route
  · trivial

/-! ## What is seen at the gate -/

variable {σ : Type} (answer : (q : RunnerRequest) → σ → q.Answer × σ) (runner : Runner)
  (path : String) (options : RunOptions) (world : σ)

/-- What a look at the host finds, and the world behind it. -/
def look {α : Type} (program : HostProgram α) (world : σ) : α × σ :=
  (RunnerProgram.onHost program).run answer world

/-- The route that is settled for the path. -/
def located : Route × σ :=
  look answer (HostProgram.resolve path) world

/-- Whether the root that is in force allows the route. -/
def allowed : Bool × σ :=
  look answer (Runner.isAllowed (located answer path world).1 (runner.root? options))
    (located answer path world).2

/-- What is read at its end. -/
def content : Except FileError String × σ :=
  look answer (HostProgram.readText (located answer path world).1.path)
    (allowed answer runner path options world).2

/-- What the gate says. -/
def judgment : Except (List Diagnostic) Admission × σ :=
  look answer (runner.pass (located answer path world).1 (runner.root? options))
    (located answer path world).2

/-- The world in which an admitted script is handed on, after the interpreter was looked for. -/
def ready : σ :=
  (look answer (runner.interpreterFor options.mode) (content answer runner path options world).2).2

/-- The route leads outside of the root that is in force. -/
def IsOutside : Prop :=
  ∃ root, runner.root? options = some root ∧ (located answer path world).1.isWithin
    (look answer (HostProgram.resolve root) (located answer path world).2).1 = false

/-- The file at its end cannot be read. -/
def IsUnreadable : Prop :=
  ∃ e, (content answer runner path options world).1 = .error e

/-- The check of the script finds an error in it. -/
def IsFaulty : Prop :=
  ∃ text, (content answer runner path options world).1 = .ok text ∧
    HasError ((Script.ofText text).validate runner.nativePlatform).diagnostics

variable {answer runner path options world}

theorem allowed_eq_false_iff :
    (allowed answer runner path options world).1 = false ↔
      IsOutside answer runner path options world := by
  unfold allowed IsOutside
  cases hroot : runner.root? options with
  | none =>
    refine iff_of_false (fun h => Bool.noConfusion h) ?_
    rintro ⟨root, hsome, -⟩
    cases hsome
  | some root =>
    have hrun : look answer (Runner.isAllowed (located answer path world).1 (some root))
        (located answer path world).2 =
        ((located answer path world).1.isWithin
            (look answer (HostProgram.resolve root) (located answer path world).2).1,
          (look answer (HostProgram.resolve root) (located answer path world).2).2) := by
      rw [look, Runner.isAllowed, Dialogue.bind_eq, onHost_bind, Dialogue.run_bind]
      rfl
    rw [hrun]
    constructor
    · intro h
      exact ⟨root, rfl, h⟩
    · rintro ⟨other, hother, h⟩
      cases hother
      exact h

/-- A route that is not allowed is refused without another look. -/
theorem judgment_of_not_allowed (h : (allowed answer runner path options world).1 = false) :
    judgment answer runner path options world =
      (.error [.error ("Path outside allowed root: " ++ (located answer path world).1.path) 0],
        (allowed answer runner path options world).2) := by
  rw [judgment, look, Runner.pass, Dialogue.bind_eq, onHost_bind, Dialogue.run_bind]
  show Dialogue.run answer (RunnerProgram.onHost (if (allowed answer runner path options world).1 =
      true then _ else _))
    _ = _
  rw [h]
  rfl

/-- On an allowed route the file is read, and its content is judged. -/
theorem judgment_of_allowed (h : (allowed answer runner path options world).1 = true) :
    judgment answer runner path options world =
      (verdict runner (located answer path world).1 (content answer runner path options world).1,
        (content answer runner path options world).2) := by
  rw [judgment, look, Runner.pass, Dialogue.bind_eq, onHost_bind, Dialogue.run_bind]
  show Dialogue.run answer (RunnerProgram.onHost (if (allowed answer runner path options world).1 =
      true then _ else _))
    _ = _
  rw [h, if_pos rfl, check_eq, onHost_bind, Dialogue.run_bind]
  rfl

/-! ## What the gate says -/

theorem exists_verdict_error_iff (route : Route) (read : Except FileError String) :
    (∃ diagnostics, verdict runner route read = .error diagnostics) ↔
      (∃ e, read = .error e) ∨ ∃ text, read = .ok text ∧
        HasError ((Script.ofText text).validate runner.nativePlatform).diagnostics := by
  cases read with
  | error e => simp [verdict]
  | ok text =>
    have hvalid := Validation.isValid_iff ((Script.ofText text).validate runner.nativePlatform)
    by_cases herror : HasError ((Script.ofText text).validate runner.nativePlatform).diagnostics
    · have hjudged : ((Script.ofText text).validate runner.nativePlatform).isValid = false :=
        Bool.eq_false_iff.mpr fun h => hvalid.mp h herror
      simp [verdict, Runner.judge, hjudged, herror]
    · simp [verdict, Runner.judge, hvalid.mpr herror, herror]

/-- A verdict against a script names an error. -/
theorem hasError_of_verdict {route : Route} {read : Except FileError String}
    {diagnostics : List Diagnostic}
    (h : verdict runner route read = .error diagnostics) : HasError diagnostics := by
  cases read with
  | error e =>
    cases h
    exact hasError_error _ 0
  | ok text =>
    rw [verdict, Runner.judge] at h
    split at h
    · cases h
    · rename_i hinvalid
      cases h
      rw [Validation.isValid_iff] at hinvalid
      exact Classical.not_not.mp hinvalid

/-- A script that is admitted is the one that was read, and there is no error in it. -/
theorem of_verdict_ok {route : Route} {read : Except FileError String} {admission : Admission}
    (h : verdict runner route read = .ok admission) :
    (∃ text, read = .ok text ∧ admission.script = Script.ofText text) ∧
      ¬ HasError admission.diagnostics := by
  cases read with
  | error e => cases h
  | ok text =>
    rw [verdict, Runner.judge] at h
    split at h
    · rename_i hvalid
      cases h
      exact ⟨⟨text, rfl, rfl⟩, (Validation.isValid_iff _).mp hvalid⟩
    · cases h

/-- **The gate refuses** what is outside of the root in force, what cannot be read and
what has an error. -/
theorem exists_refusal_iff :
    (∃ diagnostics, (judgment answer runner path options world).1 = .error diagnostics) ↔
      IsOutside answer runner path options world ∨ IsUnreadable answer runner path options world ∨
        IsFaulty answer runner path options world := by
  by_cases hout : IsOutside answer runner path options world
  · have hrefused := judgment_of_not_allowed (allowed_eq_false_iff.mpr hout)
    exact iff_of_true ⟨_, congrArg Prod.fst hrefused⟩ (.inl hout)
  · have hallowed : (allowed answer runner path options world).1 = true :=
      Bool.not_eq_false _ ▸ mt allowed_eq_false_iff.mp hout
    rw [judgment_of_allowed hallowed, exists_verdict_error_iff]
    exact (or_iff_right hout).symm

/-- Whatever the gate refuses, it names an error. -/
theorem hasError_of_judgment {diagnostics : List Diagnostic}
    (h : (judgment answer runner path options world).1 = .error diagnostics) :
    HasError diagnostics := by
  cases hallowed : (allowed answer runner path options world).1 with
  | false =>
    rw [judgment_of_not_allowed hallowed] at h
    cases h
    exact hasError_error _ 0
  | true =>
    rw [judgment_of_allowed hallowed] at h
    exact hasError_of_verdict h

/-! ## Executions -/

/-- What comes behind the gate. -/
def conclude (runner : Runner) (options : RunOptions) (route : Route) :
    Except (List Diagnostic) Admission → RunnerProgram Execution
  | .error diagnostics => .done (.refused diagnostics)
  | .ok admission => runner.runAdmitted route options admission

theorem execute_eq (runner : Runner) (path : String) (options : RunOptions) :
    runner.execute path options =
      (RunnerProgram.onHost (HostProgram.resolve path)).bind fun route =>
        (RunnerProgram.onHost (runner.pass route (runner.root? options))).bind
          (conclude runner options route) := by
  rw [Runner.execute, Dialogue.bind_eq]
  rfl

/-- An execution is the gate, and then the run of what passed it. -/
theorem run_execute (answer : (q : RunnerRequest) → σ → q.Answer × σ) (runner : Runner)
    (path : String) (options : RunOptions) (world : σ) :
    (runner.execute path options).run answer world =
      (conclude runner options (located answer path world).1 (judgment answer runner path options
        world).1).run answer
        (judgment answer runner path options world).2 := by
  rw [execute_eq, Dialogue.run_bind, Dialogue.run_bind]
  rfl

/-- What is asked is what the gate asks, and then what is asked behind it. -/
theorem asked_execute (answer : (q : RunnerRequest) → σ → q.Answer × σ) (runner : Runner)
    (path : String) (options : RunOptions) (world : σ) :
    (runner.execute path options).asked answer world =
      (RunnerProgram.onHost (HostProgram.resolve path)).asked answer world ++
        ((RunnerProgram.onHost
          (runner.pass (located answer path world).1 (runner.root? options))).asked answer
            (located answer path world).2 ++
          (conclude runner options (located answer path world).1
            (judgment answer runner path options world).1).asked answer
            (judgment answer runner path options world).2) := by
  rw [execute_eq, Dialogue.asked_bind, Dialogue.asked_bind]
  rfl

/-- How an admitted script is run, where the interpreter for it is known or there is none. -/
def runBy (runner : Runner) (route : Route) (options : RunOptions) (admission : Admission) :
    Option String → RunnerProgram Execution
  | some interpreter => runner.runNative interpreter route options.limit admission.diagnostics
  | none =>
    if options.mode = .native then .done (.withoutInterpreter admission.diagnostics)
    else runner.runEmulated admission

theorem runAdmitted_eq (runner : Runner) (route : Route) (options : RunOptions)
    (admission : Admission) :
    runner.runAdmitted route options admission =
      (RunnerProgram.onHost (runner.interpreterFor options.mode)).bind
        (runBy runner route options admission) := by
  obtain ⟨mode, limit, root⟩ := options
  rw [Runner.runAdmitted, Dialogue.bind_eq]
  congr 1
  funext interpreter
  cases interpreter with
  | some interpreter => rfl
  | none => cases mode <;> rfl

/-- The board that an admitted script is emulated as. -/
def boardOf (runner : Runner) (script : Script) : Board :=
  script.toBoard runner.stamp.scriptBoardId Runner.boardName runner.stamp.now

/-- The ways in which an admitted script comes to its report: there is no interpreter for it, it is
handed to one, or its board is handed to the engine. -/
inductive Concluded (answer : (q : RunnerRequest) → σ → q.Answer × σ) (runner : Runner)
    (admission : Admission) (later : σ) (asked : List RunnerRequest) : Execution × σ → Prop
  | withoutInterpreter (after : σ) :
      Concluded answer runner admission later asked
        (.withoutInterpreter admission.diagnostics, after)
  | native (result : Except FileError ProcessReport) (after : σ) :
      Concluded answer runner admission later asked (.ofProcess admission.diagnostics result, after)
  | emulated (h : RunnerRequest.emulate (boardOf runner admission.script) ∈ asked) :
      Concluded answer runner admission later asked
        (.ofEmulation (boardOf runner admission.script)
          (admission.diagnostics ++ admission.script.report)
            (answer (.emulate (boardOf runner admission.script)) later).1,
          (answer (.emulate (boardOf runner admission.script)) later).2)

/-- **There is no other way to a report.** -/
theorem concluded_runAdmitted (answer : (q : RunnerRequest) → σ → q.Answer × σ) (runner : Runner)
    (route : Route) (options : RunOptions) (admission : Admission) (world : σ) :
    Concluded answer runner admission (look answer (runner.interpreterFor options.mode) world).2
      ((runner.runAdmitted route options admission).asked answer world)
      ((runner.runAdmitted route options admission).run answer world) := by
  rw [runAdmitted_eq, Dialogue.run_bind, Dialogue.asked_bind]
  show Concluded answer runner admission (look answer (runner.interpreterFor options.mode) world).2
    (_ ++ (runBy runner route options admission
      (look answer (runner.interpreterFor options.mode) world).1).asked
      answer (look answer (runner.interpreterFor options.mode) world).2)
    ((runBy runner route options admission
      (look answer (runner.interpreterFor options.mode) world).1).run answer
      (look answer (runner.interpreterFor options.mode) world).2)
  cases look answer (runner.interpreterFor options.mode) world with
  | mk interpreter later =>
    cases interpreter with
    | some interpreter => exact .native _ _
    | none =>
      by_cases hnative : options.mode = .native
      · simp only [runBy, if_pos hnative]
        exact .withoutInterpreter later
      · simp only [runBy, if_neg hnative]
        exact .emulated (List.mem_append_right _ List.mem_cons_self)

theorem Concluded.mono {admission : Admission} {later : σ} {asked more : List RunnerRequest}
    {run : Execution × σ}
    (h : Concluded answer runner admission later asked run) (hmore : asked ⊆ more) :
    Concluded answer runner admission later more run := by
  cases h with
  | withoutInterpreter after => exact .withoutInterpreter after
  | native result after => exact .native result after
  | emulated hasked => exact .emulated (hmore hasked)

theorem Concluded.mode_ne_refused {admission : Admission} {later : σ} {asked : List RunnerRequest}
    {run : Execution × σ} (h : Concluded answer runner admission later asked run) :
    run.1.mode ≠ .refused := by
  cases h with
  | withoutInterpreter after => exact ExecutedMode.noConfusion
  | native result after => cases result <;> exact ExecutedMode.noConfusion
  | emulated hasked =>
    cases (answer (.emulate (boardOf runner admission.script)) later).1 <;>
      exact ExecutedMode.noConfusion

theorem Concluded.consistent {admission : Admission} {later : σ} {asked : List RunnerRequest}
    {run : Execution × σ} (h : Concluded answer runner admission later asked run)
    (hadmitted : ¬ HasError admission.diagnostics) : run.1.Consistent := by
  cases h with
  | withoutInterpreter after => exact fun _ => rfl
  | native result after => exact Execution.consistent_ofProcess hadmitted result
  | emulated hasked =>
    refine Execution.consistent_ofEmulation ?_ _ _
    rw [hasError_append]
    exact not_or.mpr ⟨hadmitted, Script.not_hasError_report _⟩

/-- What an emulation reports is what the engine gave. -/
theorem Concluded.of_emulated {admission : Admission} {later : σ} {asked : List RunnerRequest}
    {run : Execution × σ}
    (h : Concluded answer runner admission later asked run) (hmode : run.1.mode = .emulated) :
    RunnerRequest.emulate (boardOf runner admission.script) ∈ asked ∧
      (run.1.success = true ↔
        ∃ outcomes, (answer (.emulate (boardOf runner admission.script)) later).1 = .ok outcomes ∧
          run.1.outcomes = outcomes ∧ ∀ o ∈ outcomes, o.success = true) := by
  cases h with
  | withoutInterpreter after => cases hmode
  | native result after => cases result <;> cases hmode
  | emulated hasked => exact ⟨hasked, Execution.success_ofEmulation _ _ _⟩

/-! ## Refusals -/

variable (answer runner path options world) in
/-- The report about the script. -/
def report : Execution :=
  ((runner.execute path options).run answer world).1

variable (answer runner path options world) in
/-- The world after the report. -/
def after : σ :=
  ((runner.execute path options).run answer world).2

variable (answer runner path options world) in
/-- What was asked for on the way to the report. -/
def requests : List RunnerRequest :=
  (runner.execute path options).asked answer world

theorem of_judgment_error {diagnostics : List Diagnostic}
    (h : (judgment answer runner path options world).1 = .error diagnostics) :
    report answer runner path options world = .refused diagnostics ∧
      after answer runner path options world = (judgment answer runner path options world).2 ∧
      requests answer runner path options world =
        (RunnerProgram.onHost (HostProgram.resolve path)).asked answer world ++
          (RunnerProgram.onHost
            (runner.pass (located answer path world).1 (runner.root? options))).asked answer
            (located answer path world).2 := by
  rw [report, after, requests, run_execute, asked_execute]
  rw [h]
  exact ⟨rfl, rfl, congrArg _ (List.append_nil _)⟩

/-- A script that the gate lets pass comes to its report in one of the ways there are. -/
theorem of_judgment_ok {admission : Admission}
    (h : (judgment answer runner path options world).1 = .ok admission) :
    (∃ text, (content answer runner path options world).1 = .ok text ∧ admission.script =
      Script.ofText text) ∧
      ¬ HasError admission.diagnostics ∧
      Concluded answer runner admission (ready answer runner path options world)
        (requests answer runner path options world)
          ((runner.execute path options).run answer world) := by
  have hallowed : (allowed answer runner path options world).1 = true := by
    refine Bool.not_eq_false _ ▸ fun hout => ?_
    rw [judgment_of_not_allowed hout] at h
    cases h
  have hjudged := judgment_of_allowed hallowed
  obtain ⟨hread, hclean⟩ := of_verdict_ok ((congrArg Prod.fst hjudged).symm.trans h)
  refine ⟨hread, hclean, ?_⟩
  rw [requests, run_execute, asked_execute, h, congrArg Prod.snd hjudged, ready]
  have hconcluded :=
    concluded_runAdmitted answer runner (located answer path world).1 options admission
    (content answer runner path options world).2
  exact hconcluded.mono
    (List.Subset.trans (List.subset_append_right _ _) (List.subset_append_right _ _))

/-- A script is reported as refused exactly if the gate said so. -/
theorem refused_iff_judgment :
    (report answer runner path options world).mode = .refused ↔
      ∃ diagnostics, (judgment answer runner path options world).1 = .error diagnostics := by
  cases hjudged : (judgment answer runner path options world).1 with
  | error diagnostics =>
    rw [(of_judgment_error hjudged).1]
    exact iff_of_true rfl ⟨diagnostics, rfl⟩
  | ok admission =>
    refine iff_of_false (of_judgment_ok hjudged).2.2.mode_ne_refused ?_
    rintro ⟨diagnostics, h⟩
    cases h

/-- On the way to a refusal there are only looks. -/
theorem isLook_of_refused (h : (report answer runner path options world).mode = .refused) :
    ∀ request ∈ requests answer runner path options world, request.IsLook := by
  obtain ⟨diagnostics, hjudged⟩ := refused_iff_judgment.mp h
  intro request hrequest
  rw [(of_judgment_error hjudged).2.2] at hrequest
  rcases List.mem_append.mp hrequest with hrequest | hrequest
  · exact (isLook_resolve path).asked world request hrequest
  · exact (isLook_pass runner _ _).asked _ request hrequest

/-- What looking leaves alone, a refused execution leaves alone. -/
theorem part_after_of_refused (h : (report answer runner path options world).mode = .refused)
    {τ : Type}
    {part : σ → τ} (hpart : ∀ request, request.IsLook → ∀ s, part (answer request s).2 = part s) :
    part (after answer runner path options world) = part world := by
  obtain ⟨diagnostics, hjudged⟩ := refused_iff_judgment.mp h
  have hgate : part (judgment answer runner path options world).2 =
      part (located answer path world).2 :=
    (isLook_pass runner _ _).part_run hpart _
  rw [(of_judgment_error hjudged).2.1, hgate]
  exact (isLook_resolve path).part_run hpart world

/-- Outside of the root no script is touched. -/
theorem touchesNone_of_isOutside (h : IsOutside answer runner path options world) :
    ∀ request ∈ requests answer runner path options world, Containment.TouchesNone request := by
  have hnot : (allowed answer runner path options world).1 = false := allowed_eq_false_iff.mpr h
  have hjudged := judgment_of_not_allowed hnot
  intro request hrequest
  rw [(of_judgment_error (congrArg Prod.fst hjudged)).2.2] at hrequest
  rcases List.mem_append.mp hrequest with hrequest | hrequest
  · exact (touchesNone_resolve path).asked world request hrequest
  · rw [Runner.pass, Dialogue.bind_eq, onHost_bind, Dialogue.asked_bind] at hrequest
    rcases List.mem_append.mp hrequest with hrequest | hrequest
    · exact (touchesNone_isAllowed _ _).asked _ request hrequest
    · have hnothing : Dialogue.run answer (RunnerProgram.onHost
          (Runner.isAllowed (located answer path world).1 (runner.root? options)))
            (located answer path world).2 =
          allowed answer runner path options world := rfl
      rw [hnothing, hnot] at hrequest
      cases hrequest

/-! ## Scenes -/

/-- Looking leaves a scene as it is: its engine, its devices and its machine. -/
theorem answer_of_isLook {request : RunnerRequest} (h : request.IsLook) (scene : Scene σ) :
    (Scene.answer request scene).2 = scene := by
  cases request with
  | emulate board => exact h.elim
  | host request =>
    cases request with
    | readFile | realLocation | workingDirectory | isFile | environmentVariable => rfl
    | makeDirectories | writeFile | launch => exact h.elim

/-- A refused execution leaves a scene as it is. -/
theorem execute_of_refused {scene : Scene σ}
    (h : (scene.execute runner path options).1.mode = .refused) :
    (scene.execute runner path options).2 = scene := by
  have hlook : ∀ request : RunnerRequest, request.IsLook → ∀ s : Scene σ,
      id (Scene.answer request s).2 = id s := by
    intro request hrequest s
    exact answer_of_isLook hrequest s
  exact part_after_of_refused h hlook

/-! ## Reports and what happened -/

variable (answer runner path options world) in
/-- How the report about a script tells what happened to it: when it was refused and what was
touched then, what errors in it mean, and when an emulation was a success. -/
structure Tells : Prop where
  refused_iff : (report answer runner path options world).mode = .refused ↔
    IsOutside answer runner path options world ∨ IsUnreadable answer runner path options world ∨
      IsFaulty answer runner path options world
  looks : (report answer runner path options world).mode = .refused →
    ∀ request ∈ requests answer runner path options world, request.IsLook
  untouched : (report answer runner path options world).mode = .refused →
    ∀ {τ : Type} {part : σ → τ},
      (∀ request, request.IsLook → ∀ s, part (answer request s).2 = part s) →
      part (after answer runner path options world) = part world
  unread : IsOutside answer runner path options world →
    ∀ file, RunnerRequest.host (.readFile file) ∉ requests answer runner path options world
  explained : (report answer runner path options world).mode = .refused →
    HasError (report answer runner path options world).diagnostics
  consistent : HasError (report answer runner path options world).diagnostics →
    (report answer runner path options world).success = false
  emulated : (report answer runner path options world).mode = .emulated →
    ∃ text, (content answer runner path options world).1 = .ok text ∧
      RunnerRequest.emulate (boardOf runner (Script.ofText text)) ∈
        requests answer runner path options world ∧
      ((report answer runner path options world).success = true ↔
        ∃ outcomes, (answer (.emulate (boardOf runner (Script.ofText text)))
            (ready answer runner path options world)).1 = .ok outcomes ∧
          (report answer runner path options world).outcomes = outcomes ∧ ∀ o ∈ outcomes,
            o.success = true)

theorem tells (answer : (q : RunnerRequest) → σ → q.Answer × σ) (runner : Runner) (path : String)
    (options : RunOptions) (world : σ) : Tells answer runner path options world where
  refused_iff := refused_iff_judgment.trans exists_refusal_iff
  looks := isLook_of_refused
  untouched := part_after_of_refused
  unread := fun hout file hread => nomatch touchesNone_of_isOutside hout _ hread
  explained := by
    intro h
    obtain ⟨diagnostics, hjudged⟩ := refused_iff_judgment.mp h
    rw [(of_judgment_error hjudged).1]
    exact hasError_of_judgment hjudged
  consistent := by
    cases hjudged : (judgment answer runner path options world).1 with
    | error diagnostics =>
      rw [(of_judgment_error hjudged).1]
      exact fun _ => rfl
    | ok admission =>
      obtain ⟨-, hclean, hconcluded⟩ := of_judgment_ok hjudged
      exact hconcluded.consistent hclean
  emulated := by
    intro hmode
    cases hjudged : (judgment answer runner path options world).1 with
    | error diagnostics =>
      rw [(of_judgment_error hjudged).1] at hmode
      cases hmode
    | ok admission =>
      obtain ⟨⟨text, hread, hscript⟩, -, hconcluded⟩ := of_judgment_ok hjudged
      refine ⟨text, hread, ?_⟩
      rw [← hscript]
      exact hconcluded.of_emulated hmode

/-- **Reports tell what happened**, for every runner, path, mode, limit and root, whatever the
host and the engine answer.  Where a runner shares a scene with an engine, a refused script leaves
all of it as it was: the results and the variables of the engine, what it was seeded with, its
flags, and the devices. -/
theorem report_tells (runner : Runner) (path : String) (options : RunOptions) :
    (∀ {σ : Type} (answer : (q : RunnerRequest) → σ → q.Answer × σ) (world : σ),
        Tells answer runner path options world) ∧
      ∀ {σ : Type} (scene : Scene σ), (scene.execute runner path options).1.mode = .refused →
        (scene.execute runner path options).2 = scene := by
  constructor
  · intro σ answer world
    exact tells answer runner path options world
  · intro σ scene hrefused
    exact execute_of_refused hrefused

/-- A script that is missing is refused, and the machine and the engine are as they were. -/
theorem report_tells_of_missing_script :
    let ended := Containment.linkedScene.execute Containment.rootedRunner "root/missing" {}
    ended.1.mode = .refused ∧ ended.2 = Containment.linkedScene := by
  intro ended
  have hrefused : ended.1.mode = .refused := by decide +kernel
  exact ⟨hrefused,
    (report_tells Containment.rootedRunner "root/missing" {}).2 Containment.linkedScene hrefused⟩

end Gate
end ActionBoard
