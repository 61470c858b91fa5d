import ActionBoard.Engine.Run
import ActionBoard.Proofs.Script.Names
import Mathlib.Data.List.Forall2

/-!
# The row that a call finds

Functions of a script are told apart by the case of their names, but the row of a function is named
in small letters, and of several rows with one identifier a board gives the first.  So a call need
not find the row of the function that it names: it finds the row of whichever function was declared
first among those whose names agree in small letters.

* `firstNamed?`: the first function whose name agrees with a name in small letters.
* `row?_functionRowId_eq`: its row is the one that is found, whatever the names of the functions
  are.
* `Leads`: no function with the same small letters is declared before; `firstNamed?_of_leads` and
  `leads_of_firstNamed?` say that it is exactly then that a function is found under its own name.
* `calls_run_first_named`: what becomes of the calls on the board of a script, for every
  command of every row.
-/

namespace ActionBoard.Script

variable {functions : Declarations Function} {name : String} {f g : Function}

/-! ## Names that agree in small letters -/

/-- The first function whose name agrees with a name in small letters. -/
def firstNamed? (functions : Declarations Function) (name : String) : Option (String × Function) :=
  List.find? (fun entry => Text.lower entry.1 == Text.lower name) functions

/-- No name that agrees with this one in small letters is declared before it. -/
def Leads (functions : Declarations Function) (name : String) : Prop :=
  ∀ other ∈ functions.names.takeWhile (· != name), Text.lower other ≠ Text.lower name

instance (functions : Declarations Function) (name : String) : Decidable (Leads functions name) :=
  inferInstanceAs (Decidable (∀ other ∈ functions.names.takeWhile (· != name), _))

theorem leads_cons_self (f : Function) (rest : Declarations Function) :
    Leads ((name, f) :: rest) name := by
  intro other hother
  simp [Declarations.names] at hother

theorem leads_cons_of_ne {key : String} (hne : key ≠ name) (f : Function)
    (rest : Declarations Function) :
    Leads ((key, f) :: rest) name ↔ Text.lower key ≠ Text.lower name ∧ Leads rest name := by
  simp [Leads, Declarations.names, hne]

/-- Where no two names agree in small letters, every declared function leads. -/
theorem leads_of_nodup (hnames : (functions.names.map Text.lower).Nodup)
    (h : functions.find? name = some f) : Leads functions name := by
  induction functions with
  | nil => cases h
  | cons entry rest ih =>
    obtain ⟨key, g⟩ := entry
    obtain ⟨hfresh, hothers⟩ := List.nodup_cons.mp hnames
    rw [Declarations.find?, lookupEntry] at h
    by_cases hkey : key = name
    · subst key
      exact leads_cons_self g rest
    · rw [if_neg hkey] at h
      have hname : name ∈ Declarations.names rest :=
        List.mem_map.mpr ⟨(name, f), Declarations.mem_of_find?_eq_some h, rfl⟩
      refine (leads_cons_of_ne hkey g rest).mpr ⟨fun hsame => ?_, ih hothers h⟩
      exact hfresh (hsame ▸ List.mem_map_of_mem hname)

/-- A function that leads is found under its own name. -/
theorem firstNamed?_of_leads (h : functions.find? name = some f) (hleads : Leads functions name) :
    firstNamed? functions name = some (name, f) := by
  induction functions with
  | nil => cases h
  | cons entry rest ih =>
    obtain ⟨key, g⟩ := entry
    rw [Declarations.find?, lookupEntry] at h
    by_cases hkey : key = name
    · subst key
      rw [if_pos rfl] at h
      cases h
      simp [firstNamed?]
    · rw [if_neg hkey] at h
      obtain ⟨hlower, hrest⟩ := (leads_cons_of_ne hkey g rest).mp hleads
      have hskip : firstNamed? ((key, g) :: rest) name = firstNamed? rest name := by
        simp [firstNamed?, hlower]
      rw [hskip]
      exact ih h hrest

/-- Only a function that leads is found under its own name. -/
theorem leads_of_firstNamed? (h : firstNamed? functions name = some (name, g)) :
    Leads functions name := by
  induction functions with
  | nil => cases h
  | cons entry rest ih =>
    obtain ⟨key, f⟩ := entry
    by_cases hkey : key = name
    · subst key
      exact leads_cons_self f rest
    · have hlower : Text.lower key ≠ Text.lower name := by
        intro hsame
        have hfirst : firstNamed? ((key, f) :: rest) name = some (key, f) := by
          simp [firstNamed?, hsame]
        rw [hfirst] at h
        cases h
        exact hkey rfl
      have hskip : firstNamed? ((key, f) :: rest) name = firstNamed? rest name := by
        simp [firstNamed?, hlower]
      rw [hskip] at h
      exact (leads_cons_of_ne hkey f rest).mpr ⟨hlower, ih h⟩

/-- Where a function is declared under a name, some function is found under it. -/
theorem exists_firstNamed?_eq_some (h : functions.find? name = some f) :
    ∃ entry, firstNamed? functions name = some entry := by
  have hmem : (name, f) ∈ functions := Declarations.mem_of_find?_eq_some h
  rw [← Option.isSome_iff_exists, firstNamed?, List.find?_isSome]
  exact ⟨(name, f), hmem, beq_self_eq_true _⟩

/-! ## Rows of functions -/

variable {script : Script} {id boardName : String} {now : UtcTime} {c : Command}

/-- **The row that the identifier of a function leads to** is the one of the first function whose
name agrees in small letters. -/
theorem row?_functionRowId_eq (script : Script) (id boardName : String) (now : UtcTime)
    (name : String) :
    (script.toBoard id boardName now).row? (functionRowId name) =
      (firstNamed? script.functions name).map (functionRow script.functions) := by
  have hmain : ¬ (mainRowId == functionRowId name) = true := by
    rw [beq_iff_eq]
    exact (functionRowId_ne_mainRowId name).symm
  have hsame : ∀ entry : String × Function,
      (functionRowId entry.1 == functionRowId name) = (Text.lower entry.1 == Text.lower name) := by
    intro entry
    rw [Bool.eq_iff_iff, beq_iff_eq, beq_iff_eq]
    exact String.append_right_inj "row_fn_"
  show script.rows.find? _ = _
  rw [rows, List.find?_cons_of_neg, List.find?_map, firstNamed?]
  · congr 2
    funext entry
    exact hsame entry
  · exact hmain

/-- Rows of functions with different names are different. -/
theorem eq_of_functionRow_eq {first second : String × Function}
    (h : functionRow functions first = functionRow functions second) : first.1 = second.1 := by
  have hname : "Fn: " ++ first.1 = "Fn: " ++ second.1 := congrArg Row.name h
  exact (String.append_right_inj "Fn: ").mp hname

theorem commandAction_of_mem (h : c.name ∈ functions.names) :
    (commandAction functions c).1 = callAction c := by
  rw [commandAction, if_pos (List.contains_iff_mem.mpr h)]

/-! ## Calls on a board -/

/-- What becomes of the call of a function on the board of a script: it calls the row of the
function that was declared first among those whose names agree in small letters, and that is the row
of the called function exactly if that one leads. -/
structure CallsFirstNamed (script : Script) (board : Board) (c : Command) (f : Function)
    (a : Action) : Prop where
  kind : a.kind = .runRow
  runs : ∃ entry, firstNamed? script.functions c.name = some entry ∧
    board.row? (a.metaTextOr "row_id" "") = some (functionRow script.functions entry) ∧
    ∀ ctx : Context, ctx.board = some board → calledRow a ctx =
      .ok (functionRow script.functions entry)
  own : board.row? (a.metaTextOr "row_id" "") = some (functionRow script.functions (c.name, f)) ↔
    Leads script.functions c.name

theorem callsFirstNamed_callAction (id boardName : String) (now : UtcTime) (hword : IsWord c.name)
    (hf : script.functions.find? c.name = some f) :
    CallsFirstNamed script (script.toBoard id boardName now) c f (callAction c) := by
  obtain ⟨entry, hentry⟩ := exists_firstNamed?_eq_some hf
  have hrow : (script.toBoard id boardName now).row? ((callAction c).metaTextOr "row_id" "") =
      some (functionRow script.functions entry) := by
    rw [metaTextOr_callAction hword, row?_functionRowId_eq, hentry]
    rfl
  refine ⟨rfl, ⟨entry, hentry, hrow, ?_⟩, ?_⟩
  · intro ctx hctx
    have henabled : (functionRow script.functions entry).enabled = true := rfl
    simp [calledRow, hctx, hrow, henabled]
  · rw [hrow, Option.some.injEq]
    constructor
    · intro hown
      obtain ⟨key, g⟩ := entry
      have hkey : key = c.name := eq_of_functionRow_eq hown
      subst hkey
      exact leads_of_firstNamed? hentry
    · intro hleads
      rw [firstNamed?_of_leads hf hleads] at hentry
      cases hentry
      rfl

/-- The commands that the rows of the board are made from, row by row. -/
def commandRows (script : Script) : List (List Command) :=
  script.mainCommands :: script.functions.values.map Function.body

/-- The rows of a board are those of its commands, with an action for each of them. -/
theorem forall₂_commandRows (script : Script) (id boardName : String) (now : UtcTime) :
    List.Forall₂ (fun commands row => row.actions =
      commands.map fun c => (commandAction script.functions c).1)
      script.commandRows (script.toBoard id boardName now).rows := by
  have hfunctions : ∀ entries : Declarations Function,
      List.Forall₂ (fun commands row => row.actions =
        commands.map fun c => (commandAction script.functions c).1)
        (entries.values.map Function.body) (entries.map (functionRow script.functions)) := by
    intro entries
    induction entries with
    | nil => exact .nil
    | cons entry rest ih => exact .cons rfl ih
  exact .cons rfl (hfunctions script.functions)

/-- **A call runs the first function whose name agrees in small letters.**  This is so for every
command in every row of the board of a text that names a declared function.  It is the
function's own row that is called exactly if no function whose name agrees in small letters is
declared before it. -/
theorem calls_run_first_named (text id boardName : String) (now : UtcTime) :
    let script := ofText text
    let board := script.toBoard id boardName now
    List.Forall₂ (fun commands row => List.Forall₂ (fun c a =>
        ∀ f, script.functions.find? c.name = some f → CallsFirstNamed script board c f a)
          commands row.actions)
      script.commandRows board.rows := by
  intro script board
  refine (forall₂_commandRows script id boardName now).imp fun commands row hrow => ?_
  rw [hrow, List.forall₂_map_right_iff]
  refine List.forall₂_same.mpr fun c _ f hf => ?_
  have hdeclared : c.name ∈ script.functions.names :=
    List.mem_map.mpr ⟨(c.name, f), Declarations.mem_of_find?_eq_some hf, rfl⟩
  rw [commandAction_of_mem hdeclared]
  exact callsFirstNamed_callAction id boardName now
    (isWord_of_mem_names_ofText text c.name hdeclared) hf

/-! ## Two functions with one name in small letters -/

/-- A script with two functions whose names differ in case, and a call of each. -/
def twinScript : String :=
  "Tap() \x7b\nSend(\"a\")\n\x7d\ntap() \x7b\nSend(\"b\")\n\x7d\nTap()\ntap()\n"

/-- The function that is declared first. -/
def firstTwin : Function :=
  ⟨"Tap", [], [⟨"Send", ["\"a\""], "Send(\"a\")", 2⟩]⟩

/-- The function that is declared after it. -/
def secondTwin : Function :=
  ⟨"tap", [], [⟨"Send", ["\"b\""], "Send(\"b\")", 5⟩]⟩

theorem ofText_twinScript :
    ofText twinScript =
      { topLevel := [⟨"Tap", [], "Tap()", 7⟩, ⟨"tap", [], "tap()", 8⟩]
        functions := [("Tap", firstTwin), ("tap", secondTwin)] } := by
  decide +kernel

/-- Its first call is of a function that leads, its second call is not. -/
theorem calls_run_first_named_of_twins :
    let script := ofText twinScript
    let board := script.toBoard "board" "" .epoch
    script.functions.find? "Tap" = some firstTwin ∧ Leads script.functions "Tap" ∧
      script.functions.find? "tap" = some secondTwin ∧ ¬ Leads script.functions "tap" ∧
      List.Forall₂ (fun c a => ∀ f, script.functions.find? c.name = some f →
        CallsFirstNamed script board c f a)
        [⟨"Tap", [], "Tap()", 7⟩, ⟨"tap", [], "tap()", 8⟩]
          ((board.rows.map Row.actions).headD []) := by
  have hcalls := calls_run_first_named twinScript "board" "" .epoch
  rw [ofText_twinScript] at hcalls ⊢
  refine ⟨rfl, by decide, rfl, by decide, ?_⟩
  exact (List.forall₂_cons.mp hcalls).1

/-- **A call need not run the function that it names**: the second call of the script leads to a row
that was not made from the body of `tap`. -/
theorem other_twin_runs :
    let script := ofText twinScript
    let board := script.toBoard "board" "" .epoch
    ∃ c ∈ script.mainCommands, ∃ f row, script.functions.find? c.name = some f ∧
      board.row? ((commandAction script.functions c).1.metaTextOr "row_id" "") = some row ∧
      row.actions ≠ f.body.map fun inner => (commandAction script.functions inner).1 := by
  have hword : IsWord "tap" :=
    isWord_of_mem_names_ofText twinScript "tap" (by rw [ofText_twinScript]; decide)
  rw [ofText_twinScript]
  intro script board
  have hcall : (callAction ⟨"tap", [], "tap()", 8⟩).metaTextOr "row_id" "" = functionRowId "tap" :=
    metaTextOr_callAction hword
  have hfirst : firstNamed? script.functions "tap" = some ("Tap", firstTwin) := by decide
  refine ⟨⟨"tap", [], "tap()",
    8⟩, by decide, secondTwin, functionRow script.functions ("Tap", firstTwin), rfl, ?_, ?_⟩
  · rw [commandAction_of_mem (by decide), hcall, row?_functionRowId_eq, hfirst]
    rfl
  · intro hactions
    have hkeys : [some "a"] = [some "b"] := congrArg (List.map Action.key) hactions
    exact absurd hkeys (by decide)

end ActionBoard.Script
