import ActionBoard.Proofs.Shell.Clock
import ActionBoard.Simulation.Installed

/-!
# Time limits of programs

No program goes on longer than it is given, whatever its script says (`keepsTime_execute`), and a
program that is reported as stopped for its time was not stopped before that was over
(`exists_inTime_of_launch`).

The induction is on how deep commands are executed inside each other: everything that executes a
command is shown to stay in time if that execution does.  Of a process of its own nothing of the
kind is needed.  It may go on beyond the limit of the shell that has started it, and a shell that
waits for it does so within its own.
-/

namespace ActionBoard

namespace Shell

variable {start limit : Nat} {s t : State} {α β : Type}

/-! ## Expansions -/

/-- An expansion that stays in time wherever it is not at fault. -/
def Expansion.KeepsTime (e : Expansion α) : Prop :=
  ∀ ⦃start limit s a t⦄, InTime start limit s → e s = .ok (a, t) → InTime start limit t

/-- Execution for what is written that stays in time. -/
def Capture.KeepsTime (capture : Capture) : Prop :=
  ∀ script, Shell.KeepsTime fun s => (capture script s).2

namespace Expansion

theorem keepsTime_pure (a : α) : KeepsTime (pure a) := by
  intro start limit s b t hs h
  cases h
  exact hs

theorem keepsTime_throw (text : String) : KeepsTime (throw text : Expansion α) := by
  intro start limit s b t hs h
  cases h

theorem keepsTime_get : KeepsTime (get : Expansion State) := by
  intro start limit s b t hs h
  cases h
  exact hs

theorem keepsTime_modify {f : State → State} (hf : Shell.KeepsTime f) :
    KeepsTime (modify f : Expansion PUnit) := by
  intro start limit s b t hs h
  cases h
  exact hf hs

theorem KeepsTime.bind {e : Expansion α} {f : α → Expansion β} (he : e.KeepsTime)
    (hf : ∀ a, (f a).KeepsTime) : (e >>= f).KeepsTime := by
  intro start limit s b u hs h
  obtain ⟨⟨a, t⟩, hfirst, hrest⟩ := exists_of_bind_eq_ok (x := e s) h
  exact hf a (he hs hfirst) hrest

/-- What is done with the state at hand, which may be replaced. -/
theorem keepsTime_get_bind {f : State → Expansion α}
    (hf : ∀ ⦃start limit s a t⦄, InTime start limit s → f s s = .ok (a, t) → InTime start limit t) :
    KeepsTime (get >>= f) :=
  fun _ _ _ _ _ hs h => hf hs h

end Expansion

/-! ## Words -/

section Words

variable {capture : Capture}

open Expansion

theorem keepsTime_substituteOutput (h : capture.KeepsTime) (script : List Char) :
    (substituteOutput capture script).KeepsTime := by
  refine keepsTime_get_bind fun start limit s a t hs hrun => ?_
  have hcaptured : InTime start limit (capture script s).2 := h script hs
  cases hcapture : capture script s with
  | mk bytes u =>
    rw [hcapture] at hrun hcaptured
    cases hrun
    exact hcaptured

theorem keepsTime_substituteNumber (expression : List Char) :
    (substituteNumber expression).KeepsTime := by
  refine keepsTime_get_bind fun start limit s a t hs hrun => ?_
  dsimp only at hrun
  cases hread : Expression.ofText expression with
  | error text =>
    rw [hread] at hrun
    cases hrun
  | ok e =>
    rw [hread] at hrun
    dsimp only at hrun
    cases hvalue : e.evaluate (fun name => (s.value? name).getD "") [] with
    | error problem =>
      rw [hvalue] at hrun
      cases problem <;> cases hrun
    | ok result =>
      rw [hvalue] at hrun
      cases hrun
      exact KeepsTime.foldl (fun _ _ _ _ h => (State.inTime_assign _ _).mpr h) _ hs

theorem keepsTime_parameterValue (name : String) : (parameterValue name).KeepsTime := by
  refine keepsTime_get.bind fun s => ?_
  split
  · exact keepsTime_pure _
  · split
    · exact keepsTime_throw _
    · exact keepsTime_pure _

theorem keepsTime_applyOperator {evaluate : List Char → Expansion (List Marked)}
    (h : ∀ argument, (evaluate argument).KeepsTime) (name operator : String)
    (argument : List Char) : (applyOperator evaluate name operator argument).KeepsTime := by
  have hevaluated (f : List Marked → List Char ⊕ Unit) :
      (do return f (← evaluate argument) : Expansion _).KeepsTime :=
    (h argument).bind fun _ => keepsTime_pure _
  refine keepsTime_get.bind fun s => ?_
  extract_lets value present
  clear_value present
  split
  · exact keepsTime_pure _
  · exact keepsTime_pure _
  · exact keepsTime_pure _
  · exact keepsTime_pure _
  iterate 2
    cases present with
    | some value => exact keepsTime_pure _
    | none =>
      refine (h argument).bind fun marked => ?_
      exact (keepsTime_modify fun _ _ _ h => (State.inTime_assign _ _).mpr h).bind fun _ =>
        keepsTime_pure _
  iterate 2
    cases present with
    | some value => exact keepsTime_pure _
    | none => exact (h argument).bind fun _ => keepsTime_throw _
  · exact (keepsTime_parameterValue name).bind fun _ => keepsTime_pure _
  · exact hevaluated _
  · exact hevaluated _
  · exact hevaluated _
  · exact hevaluated _
  · exact (keepsTime_parameterValue name).bind fun _ => keepsTime_pure _
  · exact keepsTime_throw _

theorem keepsTime_expandPieces (h : capture.KeepsTime) (splits : Bool) (fuel : Nat) (word : Word)
    (fields : Fields) : (expandPieces capture splits fuel word fields).KeepsTime := by
  induction fuel generalizing splits word fields with
  | zero => exact keepsTime_pure _
  | succ fuel ih =>
    cases word with
    | nil => exact keepsTime_pure _
    | cons piece rest =>
      unfold expandPieces
      extract_lets evaluate add next
      have hnext (fields : Fields) : (next fields).KeepsTime := ih _ _ _
      have hevaluate (argument : List Char) : (evaluate argument).KeepsTime :=
        (ih _ _ _).bind fun _ => keepsTime_pure _
      have hadd (quoted : Bool) (value : List Char) : (add quoted value >>= next).KeepsTime :=
        (keepsTime_get.bind fun _ => keepsTime_pure _).bind hnext
      split
      · exact (keepsTime_pure _).bind hnext
      · exact (keepsTime_substituteOutput h _).bind fun _ => hadd _ _
      · exact (ih _ _ _).bind fun _ => (keepsTime_substituteNumber _).bind fun _ => hadd _ _
      · exact keepsTime_get.bind fun _ => (keepsTime_pure _).bind hnext
      · refine (keepsTime_applyOperator hevaluate _ _ _).bind fun result => ?_
        cases result with
        | inl value => exact hadd _ _
        | inr u =>
          dsimp only
          split
          · exact (hevaluate _).bind fun _ => (keepsTime_pure _).bind hnext
          · exact (ih _ _ _).bind hnext

theorem keepsTime_expandMarked (h : capture.KeepsTime) (word : Word) :
    (expandMarked capture word).KeepsTime :=
  (keepsTime_expandPieces h _ _ _ _).bind fun _ => keepsTime_pure _

theorem keepsTime_expandText (h : capture.KeepsTime) (word : Word) :
    (expandText capture word).KeepsTime :=
  keepsTime_get.bind fun _ => (keepsTime_expandMarked h _).bind fun _ => keepsTime_pure _

theorem keepsTime_expandWord (h : capture.KeepsTime) (word : Word) :
    (expandWord capture word).KeepsTime :=
  keepsTime_get.bind fun _ => (keepsTime_expandPieces h _ _ _ _).bind fun _ =>
    keepsTime_get.bind fun _ => keepsTime_pure _

theorem keepsTime_expandWords (h : capture.KeepsTime) (words : List Word) :
    (expandWords capture words).KeepsTime := by
  induction words with
  | nil => exact keepsTime_pure _
  | cons word rest ih =>
    exact (keepsTime_expandWord h word).bind fun _ => ih.bind fun _ => keepsTime_pure _

end Words

/-! ## Processes -/

/-- How commands are executed, where every execution stays in time. -/
def Execute.KeepsTime (execute : Execute) : Prop :=
  ∀ isTested command, Shell.KeepsTime (execute isTested command)

theorem keepsTime_conclude : KeepsTime conclude := by
  intro start limit s h
  rw [conclude]
  split
  · exact h
  · exact State.keepsTime_exit _ h

theorem exists_flow_conclude (s : State) : ∃ ending, (conclude s).flow = .ended ending := by
  rw [conclude]
  split
  · rename_i ending hflow
    exact ⟨ending, hflow⟩
  · exact ⟨_, rfl⟩

/-- What a shell starts beside itself does not take its time. -/
theorem inTime_besides (inner : State) (h : InTime start limit s) :
    InTime start limit (besides s inner) :=
  h.congr rfl rfl rfl

/-- **A shell waits in its own time**, however long another process takes. -/
theorem inTime_joined (inner : State) (h : InTime start limit s) :
    InTime start limit (joined s inner) := by
  unfold joined
  extract_lets seen ended waited
  have hended : InTime start limit ended := h.congr rfl rfl rfl
  have hwaited : InTime start limit waited := State.keepsTime_waitUntil inner.clock hended
  split
  · split
    · exact State.keepsTime_finish (by decide) hwaited
    · simpa using hwaited
  · exact hwaited

/-! ## Texts -/

section Texts

variable {execute : Execute} (h : execute.KeepsTime)

include h

theorem keepsTime_executeLines (isTested : Bool) (commands : List Command)
    (failure : Option Failure) : KeepsTime (executeLines execute isTested commands failure) := by
  intro start limit s hs
  unfold executeLines
  extract_lets executed
  have hexecuted : InTime start limit executed := by
    refine KeepsTime.foldl (fun command start limit s hs => ?_) commands hs
    dsimp only
    split
    · exact h isTested command hs
    · exact hs
  split
  · exact State.keepsTime_abort _ (hexecuted.congr rfl rfl rfl)
  · exact hexecuted

theorem keepsTime_executeText (isTested : Bool) (line : Nat) (text : List Char) :
    KeepsTime (executeText execute isTested line text) :=
  keepsTime_executeLines h isTested _ _

theorem keepsTime_executeWord (text : String) : KeepsTime (executeWord execute text) :=
  keepsTime_executeText h false 1 _

theorem keepsTime_atEnd : KeepsTime (atEnd execute) := by
  intro start limit s hs
  unfold atEnd
  extract_lets concluded traps before
  have hconcluded : InTime start limit concluded := keepsTime_conclude hs
  split
  · extract_lets after
    have hbefore : InTime start limit before := hconcluded.withFlow rfl rfl Flow.noConfusion
    have hafter : InTime start limit after := keepsTime_executeWord h _ hbefore
    split
    · exact hafter
    · exact State.keepsTime_exit _ hafter
  · exact hconcluded

theorem keepsTime_doPending : KeepsTime (doPending execute) := by
  intro start limit s hs
  unfold doPending
  split
  · exact hs
  · extract_lets after
    have hafter : InTime start limit after := keepsTime_executeWord h _ (hs.congr rfl rfl rfl)
    split
    · simpa using hafter
    · exact hafter

end Texts

/-- A script that is executed for what it writes is a process of its own. -/
theorem keepsTime_capture (execute : Execute) : (capture execute).KeepsTime :=
  fun _ _ _ _ hs => (inTime_joined _ hs).congr rfl rfl rfl

/-! ## Redirections -/

theorem inTime_redirectToFile (isAppended : Bool) (descriptor : Nat) (path : String)
    (hs : InTime start limit s) :
    InTime start limit (redirectToFile isAppended descriptor path s).1 := by
  unfold redirectToFile
  extract_lets cannot
  split
  · simpa using hs
  · simpa using hs
  · exact hs
  · split
    · exact hs
    · exact hs
    · exact hs
    · split
      · exact hs
      · split
        · simpa using hs
        · refine (State.inTime_redirect _ _).mpr ?_
          split
          · exact hs
          · simpa using hs

theorem inTime_redirectFromFile (path : String) (hs : InTime start limit s) :
    InTime start limit (redirectFromFile path s).1 := by
  unfold redirectFromFile
  split
  · exact hs.congr rfl rfl rfl
  · exact hs.congr rfl rfl rfl
  · exact hs
  · exact hs
  · exact hs

theorem inTime_redirectToDescriptor (descriptor : Nat) (text : String) (hs : InTime start limit s) :
    InTime start limit (redirectToDescriptor descriptor text s).1 := by
  unfold redirectToDescriptor
  repeat' split
  · simpa using hs
  · exact hs
  · simpa using hs
  · exact hs
  · exact hs

/-- What was tried to redirect, and the other redirections if nothing was wrong with it. -/
def followed (rest : Expansion (Option String)) (tried : State × Option String) :
    Expansion (Option String) := do
  set tried.1
  match tried.2 with
  | some problem => return some problem
  | none => rest

theorem inTime_of_followed {rest : Expansion (Option String)} (hrest : rest.KeepsTime)
    {tried : State × Option String} (htried : InTime start limit tried.1)
    {problem : Option String} (h : followed rest tried s = .ok (problem, t)) :
    InTime start limit t := by
  obtain ⟨u, found⟩ := tried
  cases found with
  | some text =>
    cases h
    exact htried
  | none => exact hrest htried h

theorem keepsTime_redirectAll {capture : Capture} (hcapture : capture.KeepsTime)
    (redirections : List Redirection) : (redirectAll capture redirections).KeepsTime := by
  induction redirections with
  | nil => exact Expansion.keepsTime_pure _
  | cons redirection rest ih =>
    obtain ⟨descriptor, target⟩ := redirection
    refine (keepsTime_expandText hcapture _).bind fun text => ?_
    refine Expansion.keepsTime_get_bind fun start limit s a t hs hrun => ?_
    cases target with
    | input path => exact inTime_of_followed ih (inTime_redirectFromFile text hs) hrun
    | output path => exact inTime_of_followed ih (inTime_redirectToFile false _ text hs) hrun
    | append path => exact inTime_of_followed ih (inTime_redirectToFile true _ text hs) hrun
    | same other => exact inTime_of_followed ih (inTime_redirectToDescriptor _ text hs) hrun
    | here content =>
      have hread : InTime start limit
          ({ s with input := text.toUTF8.toList, inputTime := 0 }, (none : Option String)).1 :=
        hs.congr rfl rfl rfl
      exact inTime_of_followed ih hread hrun

theorem inTime_withOutletsOf (outer : State) (redirections : List Redirection)
    (hs : InTime start limit s) : InTime start limit (withOutletsOf outer redirections s) := by
  unfold withOutletsOf
  extract_lets after
  split
  · exact hs.congr rfl rfl rfl
  · exact hs.congr rfl rfl rfl

theorem keepsTime_withRedirections (execute : Execute) (redirections : List Redirection)
    {work : State → State} (hwork : KeepsTime work) :
    KeepsTime (withRedirections execute redirections work) := by
  intro start limit s hs
  have hredirected {problem : Option String} {t : State}
      (hrun : (redirectAll (capture execute) redirections).run s = .ok (problem, t)) :
      InTime start limit t :=
    keepsTime_redirectAll (keepsTime_capture execute) redirections hs hrun
  unfold withRedirections
  split
  · exact State.keepsTime_abort _ hs
  · rename_i problem t hrun
    have ht := hredirected hrun
    simpa using inTime_withOutletsOf s redirections ((State.inTime_complain problem).mpr ht)
  · rename_i t hrun
    have ht := hredirected hrun
    split
    · exact inTime_withOutletsOf s redirections (hwork ht)
    · exact ht

/-! ## Loops -/

theorem inTime_settle (hs : InTime start limit s) : InTime start limit (settle s).1 := by
  unfold settle
  split
  · exact hs
  iterate 4
    exact hs.withFlow rfl rfl (by simp)
  · exact hs

theorem keepsTime_repeatWhile (whileTrue : Bool) {condition body : State → State}
    (hcondition : KeepsTime condition) (hbody : KeepsTime body) (fuel status : Nat) :
    KeepsTime (repeatWhile whileTrue condition body fuel status) := by
  induction fuel generalizing status with
  | zero => exact State.keepsTime_hang
  | succ fuel ih =>
    intro start limit s hs
    have htested := inTime_settle (hcondition hs)
    unfold repeatWhile
    cases hsettled : settle (condition s) with
    | mk tested goesOn =>
      rw [hsettled] at htested
      have hdone := inTime_settle (hbody htested)
      dsimp only
      split
      · exact htested
      · split
        · simpa using htested
        · cases hturned : settle (body tested) with
          | mk turned goesOn =>
            rw [hturned] at hdone
            dsimp only
            split
            · exact ih _ hdone
            · exact hdone

theorem keepsTime_repeatFor (name : String) {body : State → State} (hbody : KeepsTime body)
    (values : List String) : KeepsTime (repeatFor name body values) := by
  induction values with
  | nil => exact KeepsTime.id
  | cons value rest ih =>
    intro start limit s hs
    have hdone := inTime_settle (hbody (Builtin.keepsTime_assign name value hs))
    unfold repeatFor
    cases hturned : settle (body (Builtin.assign name value s)) with
    | mk turned goesOn =>
      rw [hturned] at hdone
      dsimp only
      split
      · exact ih hdone
      · exact hdone

theorem keepsTime_insideLoop {work : State → State} (hwork : KeepsTime work) :
    KeepsTime fun s => insideLoop s work := by
  intro start limit s hs
  have hinside : InTime start limit { s with loops := s.loops + 1 } := hs.congr rfl rfl rfl
  exact (hwork hinside).congr rfl rfl rfl

/-! ## Programs and simple commands -/

section Commands

variable {execute : Execute} (h : execute.KeepsTime)

include h

omit h in
/-- A shell that takes its options has not done anything yet. -/
theorem eq_of_options (letters : List Char) (s : State) :
    let t := letters.foldl (fun s letter => (Builtin.setOption true letter s).getD s) s
    t.limit = s.limit ∧ t.clock = s.clock ∧ t.flow = s.flow := by
  induction letters generalizing s with
  | nil => exact ⟨rfl, rfl, rfl⟩
  | cons letter rest ih =>
    cases hset : Builtin.setOption true letter s with
    | none => simpa [hset] using ih s
    | some t =>
      obtain ⟨hlimit, hclock, hflow⟩ := Builtin.eq_of_setOption hset
      simpa [hset, hlimit, hclock, hflow] using ih t

theorem keepsTime_runShell (name : String) (arguments : List String) :
    KeepsTime (runShell execute name arguments) := by
  intro start limit s hs
  unfold runShell
  extract_lets options letters others begins run
  have hbegun (name : String) (arguments : List String) :
      (begins name arguments).limit = s.limit ∧ (begins name arguments).clock = s.clock ∧
        (begins name arguments).flow = .next :=
    eq_of_options letters (started s name arguments)
  have hbegins (name : String) (arguments : List String) :
      InTime start limit (begins name arguments) := by
    obtain ⟨hlimit, hclock, hflow⟩ := hbegun name arguments
    refine hs.withFlow hlimit hclock ?_
    rw [hflow]
    exact Flow.noConfusion
  have hrun (text : String) : KeepsTime (run text) :=
    (keepsTime_atEnd h).comp (keepsTime_executeWord h text)
  clear_value others
  split
  · split
    · exact State.keepsTime_exit 2 ((State.inTime_report _).mpr hs)
    · have hwaited := State.keepsTime_takeInput hs
      obtain ⟨hlimit, -, hflow⟩ := hbegun name []
      refine hrun _ ⟨hlimit.trans hs.limit_eq, hwaited.start_le, hwaited.clock_le,
        fun hstopped => ?_⟩
      exact absurd (hflow.symm.trans hstopped) Flow.noConfusion
  · split
    · exact hrun _ (hbegins _ _)
    · split
      · exact State.keepsTime_exit 2 ((State.inTime_report _).mpr hs)
      · exact State.keepsTime_exit 2 ((State.inTime_report _).mpr hs)
      · exact State.keepsTime_exit 2 ((State.inTime_report _).mpr hs)
      · exact hrun _ (hbegins _ _)

omit h in
theorem keepsTime_withEnvironment {run : String → List String → State → State}
    (hrun : ∀ name arguments, KeepsTime (run name arguments)) (words : List String) :
    KeepsTime (withEnvironment run words) := by
  intro start limit s hs
  induction words generalizing s with
  | nil =>
    refine State.keepsTime_exit 0 ?_
    exact KeepsTime.foldl (fun entry _ _ _ h => (State.inTime_putLine _).mpr h) _ hs
  | cons text rest ih =>
    unfold withEnvironment
    split
    · exact ih (by simpa using hs)
    · split
      · exact ih (hs.congr rfl rfl rfl)
      · exact hrun text rest hs

omit h in
theorem keepsTime_of_programNamed? {name : String} {work : Utility}
    (hnamed : programNamed? name = some (.utility work)) (arguments : List String) :
    KeepsTime (work arguments) := by
  unfold programNamed? at hnamed
  split at hnamed
  iterate 3
    cases hnamed
  obtain ⟨other, hother, heq⟩ := Option.map_eq_some_iff.mp hnamed
  cases heq
  exact Utility.keepsTime_of_named? hother arguments

omit h in
/-- A program that is found works on texts or files only if it is one of those that stay in time. -/
theorem keepsTime_of_findProgram {name : String} {work : Utility}
    (hfound : findProgram s name = .ok (.utility work)) (arguments : List String) :
    KeepsTime (work arguments) := by
  unfold findProgram at hfound
  split at hfound
  · obtain ⟨location, -, hfound⟩ := exists_of_bind_eq_ok hfound
    split at hfound
    · split at hfound
      · rename_i program hinstalled
        cases hfound
        obtain ⟨installed, -, hnamed⟩ := Option.bind_eq_some_iff.mp hinstalled
        exact keepsTime_of_programNamed? hnamed arguments
      · cases hfound
      · cases hfound
    · cases hfound
  · split at hfound
    · rename_i hnamed
      cases hfound
      exact keepsTime_of_programNamed? hnamed arguments
    · cases hfound

/-- A program of a name is a shell, or one of the others that stay in time. -/
theorem inTime_of_runProgram (fuel : Nat) {name : String} {arguments : List String}
    (hrun : runProgram execute fuel name arguments s = .ok t) (hs : InTime start limit s) :
    InTime start limit t := by
  induction fuel generalizing name arguments s t start limit with
  | zero => cases hrun
  | succ fuel ih =>
    unfold runProgram at hrun
    extract_lets runOther at hrun
    have hother (name : String) (arguments : List String) :
        KeepsTime (runOther name arguments) := by
      intro start limit s hs
      dsimp only [runOther]
      split
      · rename_i after hafter
        exact ih hafter hs
      · exact State.keepsTime_exit 127 ((State.inTime_report _).mpr hs)
    obtain ⟨program, hfound, hrun⟩ := exists_of_bind_eq_ok hrun
    cases program with
    | shell =>
      cases hrun
      exact keepsTime_runShell h _ _ hs
    | environment =>
      cases hrun
      exact keepsTime_withEnvironment hother _ hs
    | utility work =>
      cases hrun
      exact keepsTime_conclude (keepsTime_of_findProgram hfound arguments hs)
    | script path interpreter =>
      cases interpreter with
      | nil => cases hrun
      | cons interpreter options => exact ih hrun hs

theorem keepsTime_runCommand (name : String) (arguments : List String) :
    KeepsTime (runCommand execute name arguments) := by
  intro start limit s hs
  unfold runCommand
  split
  · rename_i after hrun
    exact inTime_of_runProgram h _ hrun hs
  · exact State.keepsTime_exit 127 ((State.inTime_complain _).mpr hs)
  · exact State.keepsTime_exit 127 ((State.inTime_complain _).mpr hs)
  · exact keepsTime_runShell h _ _ hs
  · exact State.keepsTime_exit 126 ((State.inTime_complain _).mpr hs)

omit h in
/-- Behind what has gone back a shell goes on. -/
theorem inTime_goingOn (hs : InTime start limit s) :
    InTime start limit { s with flow := if s.flow = .back then .next else s.flow } := by
  by_cases hback : s.flow = .back
  · exact hs.withFlow rfl rfl (by simp [hback])
  · exact hs.congr rfl rfl (if_neg hback)

theorem keepsTime_call (isTested : Bool) (body : Command) (arguments : List String) :
    KeepsTime (call execute isTested body arguments) := by
  intro start limit s hs
  unfold call
  split
  · exact State.keepsTime_abort _ hs
  · extract_lets inner restored
    have hinner : InTime start limit inner := h isTested body (hs.congr rfl rfl rfl)
    have hrestored : InTime start limit restored :=
      KeepsTime.foldl (fun entry _ _ _ h => (State.inTime_restore entry).mpr h) inner.locals hinner
    exact (inTime_goingOn hrestored).congr rfl rfl rfl

theorem keepsTime_executeFile (isTested : Bool) (path : String) :
    KeepsTime (executeFile execute isTested path) := by
  intro start limit s hs
  unfold executeFile
  extract_lets content
  clear_value content
  split
  · extract_lets inner
    have hinner : InTime start limit inner :=
      keepsTime_executeText h isTested 1 _ (hs.congr rfl rfl rfl)
    exact inTime_goingOn hinner
  · exact State.keepsTime_abort _ hs
  · exact State.keepsTime_abort _ hs

theorem keepsTime_invoke (isTested canBeFunction : Bool) (outer : State) (name : String)
    (arguments : List String) :
    KeepsTime (invoke execute isTested canBeFunction outer name arguments) := by
  intro start limit s hs
  unfold invoke
  extract_lets named
  have hnamed {work : State → State} (hwork : KeepsTime work) :
      InTime start limit (named work) := by
    have hcommand : InTime start limit { s with command := name } := hs.congr rfl rfl rfl
    exact (hwork hcommand).congr rfl rfl rfl
  split
  · exact keepsTime_call h _ _ _ hs
  · exact hnamed ((keepsTime_executeText h _ _ _).comp fun _ _ _ h =>
      (State.inTime_withStatus 0).mpr h)
  · have hfile : KeepsTime fun s =>
        arguments.head?.elim s fun path => executeFile execute isTested path (s.withStatus 0) := by
      intro start limit s hs
      cases arguments with
      | nil => exact hs
      | cons path rest =>
        exact keepsTime_executeFile h isTested path ((State.inTime_withStatus 0).mpr hs)
    exact hnamed hfile
  · split
    · simpa using hs
    · exact hnamed (keepsTime_runCommand h _ _)
  · split
    · rename_i work hwork
      exact hnamed (Builtin.keepsTime_of_named? hwork arguments)
    · exact inTime_joined _ (hs.congr rfl rfl rfl)

theorem keepsTime_invokePlain (isTested : Bool) (outer : State) (words : List String) :
    KeepsTime (invokePlain execute isTested outer words) := by
  intro start limit s hs
  fun_induction invokePlain execute isTested outer words s with
  | case1 => simpa using hs
  | case2 rest s ih => exact ih hs
  | case3 names s => exact Builtin.keepsTime_locate names hs
  | case4 names s => exact Builtin.keepsTime_locate names hs
  | case5 => exact keepsTime_invoke h _ _ _ _ _ hs

omit h in
theorem keepsTime_assignAll {capture : Capture} (hcapture : capture.KeepsTime)
    (assignments : List (String × Word)) : (assignAll capture assignments).KeepsTime := by
  induction assignments with
  | nil => exact Expansion.keepsTime_pure _
  | cons assignment rest ih =>
    obtain ⟨name, word⟩ := assignment
    refine (keepsTime_expandText hcapture word).bind fun value => ?_
    refine (Expansion.keepsTime_modify (Builtin.keepsTime_assign name value)).bind fun _ => ?_
    exact ih.bind fun _ => Expansion.keepsTime_pure _

omit h in
theorem inTime_trace (texts : List String) (hs : InTime start limit s) :
    InTime start limit (trace texts s) := by
  rw [trace]
  split
  · simpa using hs
  · exact hs

/-- A command with its assignments and redirections. -/
theorem keepsTime_executeFields (isTested : Bool) (assignments : List (String × Word))
    (fields : List String) (redirections : List Redirection) :
    KeepsTime (executeFields execute isTested assignments fields redirections) := by
  intro start limit s hs
  have hredirected {problem : Option String} {t : State}
      (hrun : (redirectAll (capture execute) redirections).run s = .ok (problem, t)) :
      InTime start limit t :=
    keepsTime_redirectAll (keepsTime_capture execute) redirections hs hrun
  have houtlets {t : State} (ht : InTime start limit t) :
      InTime start limit (withOutletsOf s redirections t) :=
    inTime_withOutletsOf s redirections ht
  unfold executeFields
  split
  · exact State.keepsTime_abort _ hs
  · rename_i problem t hrun
    extract_lets restored isSpecial
    have hrestored : InTime start limit restored :=
      houtlets ((State.inTime_complain problem).mpr (hredirected hrun))
    split
    · exact State.keepsTime_exit 2 hrestored
    · simpa using hrestored
  · rename_i t hrun
    have ht := hredirected hrun
    split
    · exact State.keepsTime_abort _ (houtlets ht)
    · rename_i texts u hassigned
      have hu : InTime start limit u :=
        keepsTime_assignAll (keepsTime_capture execute) assignments ht hassigned
      extract_lets traced names exported
      have htraced : InTime start limit traced := inTime_trace _ hu
      split
      · exact houtlets htraced
      · split
        · exact houtlets (by simpa using htraced)
        · rename_i first rest
          extract_lets invoked isSpecial restored limited
          have hexported : InTime start limit exported :=
            KeepsTime.foldl (fun name _ _ _ h => (State.inTime_withExport name).mpr h) names htraced
          have hinvoked : InTime start limit invoked := by
            dsimp only [invoked]
            split
            · exact keepsTime_invokePlain h _ _ _ hexported
            · exact keepsTime_invoke h _ _ _ _ _ hexported
          have hrestored : InTime start limit restored := by
            dsimp only [restored]
            split
            · exact hinvoked
            · exact KeepsTime.foldl (fun name _ _ _ h => (State.inTime_restore _).mpr h)
                names hinvoked
          have hlimited : InTime start limit limited := by
            dsimp only [limited]
            split
            · exact hrestored
            · exact hrestored.congr rfl rfl rfl
          split
          · exact hlimited
          · exact houtlets hlimited

theorem keepsTime_executeSimple (isTested : Bool) (assignments : List (String × Word))
    (words : List Word) (redirections : List Redirection) :
    KeepsTime (executeSimple execute isTested assignments words redirections) := by
  intro start limit s hs
  unfold executeSimple
  split
  · exact State.keepsTime_abort _ hs
  · rename_i fields t hrun
    have hcleared : InTime start limit { s with substituted := 0 } := hs.congr rfl rfl rfl
    have ht : InTime start limit t :=
      keepsTime_expandWords (keepsTime_capture execute) words hcleared hrun
    split
    · exact ht
    · exact keepsTime_doPending h (keepsTime_executeFields h _ _ _ _ ht)

end Commands

/-! ## Compound commands -/

theorem inTime_executePipe (first second : State → State) (hs : InTime start limit s) :
    InTime start limit (executePipe first second s) := by
  unfold executePipe
  extract_lets
  exact inTime_joined _ hs

theorem inTime_executeBehind (command : State → State) (hs : InTime start limit s) :
    InTime start limit (executeBehind command s) := by
  unfold executeBehind
  extract_lets inner job
  exact (inTime_besides inner hs).congr rfl rfl rfl

theorem keepsTime_findCase {capture : Capture} (hcapture : capture.KeepsTime) (subject : List Char)
    (cases : List (List Word × Command)) : (findCase capture subject cases).KeepsTime := by
  have hfits (words : List Word) : (findCase.fits capture subject words).KeepsTime := by
    induction words with
    | nil => exact Expansion.keepsTime_pure _
    | cons word rest ih =>
      refine (keepsTime_expandMarked hcapture word).bind fun marked => ?_
      split
      · exact Expansion.keepsTime_pure _
      · exact ih
  induction cases with
  | nil => exact Expansion.keepsTime_pure _
  | cons entry rest ih =>
    refine (hfits entry.1).bind fun isFitting => ?_
    split
    · exact Expansion.keepsTime_pure _
    · exact ih

theorem inTime_checkFailure (isTested : Bool) (hs : InTime start limit s) :
    InTime start limit (checkFailure isTested s) := by
  rw [checkFailure]
  split
  · exact State.keepsTime_exit _ hs
  · exact hs

theorem inTime_withExpansion {expansion : Expansion α} (hexpansion : expansion.KeepsTime)
    {work : α → State → State} (hwork : ∀ a, KeepsTime (work a)) (hs : InTime start limit s) :
    InTime start limit (withExpansion expansion work s) := by
  unfold withExpansion
  split
  · exact State.keepsTime_abort _ hs
  · rename_i value t hrun
    have ht : InTime start limit t := hexpansion hs hrun
    split
    · exact hwork value ht
    · exact ht

/-- **Every command stays in time**, whatever it executes and however deep that goes. -/
theorem keepsTime_execute (fuel : Nat) : (execute fuel).KeepsTime := by
  induction fuel with
  | zero => exact fun _ _ => State.keepsTime_hang
  | succ fuel ih =>
    intro isTested command start limit s hs
    have hcapture := keepsTime_capture (execute fuel)
    have hcontinued {work : State → State} (hwork : KeepsTime work) {t : State}
        (ht : InTime start limit t) :
        InTime start limit (if t.flow = .next then work t else t) := by
      split
      · exact hwork ht
      · exact ht
    have hline (line : Nat) : InTime start limit { s with line } := hs.congr rfl rfl rfl
    cases command with
    | nothing => exact hs
    | simple line assignments words redirections =>
      exact inTime_checkFailure _ (keepsTime_executeSimple ih _ _ _ _ (hline line))
    | sequence first second => exact hcontinued (ih _ _) (ih _ first hs)
    | both first second =>
      have hsecond := (ih isTested second).ite KeepsTime.id fun s => s.status = 0
      exact hcontinued hsecond (ih true first hs)
    | either first second =>
      have hsecond := KeepsTime.id.ite (ih isTested second) fun s => s.status = 0
      exact hcontinued hsecond (ih true first hs)
    | pipe first second => exact inTime_checkFailure _ (inTime_executePipe _ _ hs)
    | opposite command =>
      exact hcontinued (fun _ _ _ h => (State.inTime_ofTruth _).mpr h) (ih _ command hs)
    | background command =>
      exact inTime_executeBehind (fun s => atEnd (execute fuel) (execute fuel isTested command s))
        hs
    | subshell command => exact inTime_checkFailure _ (inTime_joined _ hs)
    | redirected line command redirections =>
      exact keepsTime_withRedirections _ _ (ih _ _) (hline line)
    | branch condition yes no =>
      have hno : KeepsTime fun s => execute fuel isTested no (s.withStatus 0) :=
        fun _ _ _ h => ih isTested no ((State.inTime_withStatus 0).mpr h)
      have hbranches := (ih isTested yes).ite hno fun s => s.status = 0
      exact hcontinued hbranches (ih true condition hs)
    | loop whileTrue condition body =>
      exact keepsTime_insideLoop (keepsTime_repeatWhile _ (ih _ _) (ih _ _) _ _) hs
    | forEach line name words body =>
      refine inTime_withExpansion (keepsTime_expandWords hcapture words)
        (fun values => ?_) (hline line)
      refine keepsTime_insideLoop fun start limit t ht => ?_
      exact keepsTime_repeatFor name (ih _ _) values ((State.inTime_withStatus 0).mpr ht)
    | choice line subject cases =>
      refine inTime_withExpansion ?_ (fun found start limit t ht => ?_) (hline line)
      · exact (keepsTime_expandText hcapture subject).bind fun _ => keepsTime_findCase hcapture _ _
      · cases found with
        | none => exact (State.inTime_withStatus 0).mpr ht
        | some command => exact ih _ _ ((State.inTime_withStatus 0).mpr ht)
    | define name body => exact hs.congr rfl rfl rfl

/-! ## Whole programs -/

/-- **No program goes on longer than it is given.**  What is reported of a program that was started
is what is known of it at some moment behind its start and within its limit; if it was stopped
because its time was over, that is the moment at which it was. -/
theorem exists_inTime_of_launch {name : String} {arguments : List String} {s : State}
    (hle : s.clock ≤ s.limit) (hflow : s.flow = .next) {report : ProcessReport} {tree : FileTree}
    (h : launch name arguments s = .ok (report, tree)) :
    ∃ after, InTime s.clock s.limit after ∧ after.flow = .ended report.ending ∧
      report = Shell.report after report.ending ∧ tree = after.tree := by
  have hs : InTime s.clock s.limit s :=
    ⟨rfl, Nat.le_refl _, hle, fun hstopped => absurd (hflow.symm.trans hstopped) Flow.noConfusion⟩
  obtain ⟨ended, hrun, h⟩ := exists_of_bind_eq_ok h
  have hended : InTime s.clock s.limit (conclude ended) :=
    keepsTime_conclude (inTime_of_runProgram (keepsTime_execute executionDepth) _ hrun hs)
  obtain ⟨ending, hending⟩ := exists_flow_conclude ended
  dsimp only at h
  rw [hending] at h
  cases h
  exact ⟨conclude ended, hended, hending, rfl, rfl⟩

end Shell

/-- The programs that are installed on a machine do not go on longer than they are given. -/
theorem Programs.exists_inTime_of_installed {start : Launch} {report : ProcessReport}
    {tree : FileTree} (h : Programs.installed start = .ok (report, tree)) :
    ∃ after, Shell.InTime 0 start.limit after ∧ after.flow = .ended report.ending ∧
      report = Shell.report after report.ending ∧ tree = after.tree :=
  Shell.exists_inTime_of_launch (Nat.zero_le _) rfl h

/-- A program that sleeps for five seconds and is given one. -/
example :
    (Programs.installed ⟨"sleep", ["5"], 1000, [], {}, []⟩).toOption.map (·.1.ending) =
      some .timedOut := by
  decide +kernel

end ActionBoard
