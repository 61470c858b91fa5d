import ActionBoard.Proofs.Engine.Inlining
import ActionBoard.Proofs.Script.CalledRow

/-!
# Calls of functions and inlining

A command that calls a function of a script becomes the call of the function's row.  A script
whose calls do not nest too deep can therefore be run with all of them replaced by what the
functions do, and nothing is seen of the difference but the outcomes, which are given for the
commands of the main row only.

* `row?_functionRowId`: the row of a function is found by its identifier, if no other function has
  the same name in small letters.
* `CallChain`: functions that call each other, by their names.  Where there is a bound on the length
  of chains, no function comes back to itself (`CallChain.nodup`).
* `unfolds_commandAction`: where chains are short enough, the actions of commands unfold.
* `run_toBoard_inlined`: a script run with its calls and without.

The small letters matter: of two functions whose names differ in case only, calls of
either run the first.
-/

namespace ActionBoard.Script

variable {functions : Declarations Function} {c : Command} {name : String} {f : Function}

/-! ## The actions of commands -/

theorem kind_builtinCommand_mem_plain (c : Command) :
    (builtinCommand c).1.kind ∈ ActionKind.plain := by
  unfold builtinCommand loggedCommand
  dsimp only
  repeat' split
  all_goals
    simp [ActionKind.plain, waitAction, watchAction, logAction, Action.new, Action.withMeta,
      Action.withCoordinates, Action.withButton, Action.withKey]

theorem builtinCommand_isPrompt (c : Command) : (builtinCommand c).1.IsPrompt := by
  unfold builtinCommand loggedCommand
  dsimp only
  repeat' split
  all_goals exact ⟨rfl, rfl, rfl⟩

theorem callAction_isPrompt (c : Command) : (callAction c).IsPrompt :=
  ⟨rfl, rfl, rfl⟩

/-- Nothing that a script is translated to has delays or is switched off. -/
theorem commandAction_isPrompt (functions : Declarations Function) (c : Command) :
    (commandAction functions c).1.IsPrompt := by
  rw [commandAction]
  split
  · exact callAction_isPrompt c
  · exact builtinCommand_isPrompt c

theorem enabledActions_rowOf (functions : Declarations Function) (row : Row)
    (commands : List Command) :
    (rowOf functions row commands).enabledActions =
      commands.map fun c => (commandAction functions c).1 := by
  refine List.filter_eq_self.mpr fun a ha => ?_
  obtain ⟨c, -, rfl⟩ := List.mem_map.mp ha
  exact (commandAction_isPrompt functions c).enabled

/-! ## Rows of functions -/

variable {script : Script} {id boardName : String} {now : UtcTime}

/-- **The row of a function is found by its identifier.** -/
theorem row?_functionRowId (id boardName : String) (now : UtcTime)
    (hnames : (script.functions.names.map Text.lower).Nodup)
    (h : script.functions.find? name = some f) :
    (script.toBoard id boardName now).row? (functionRowId name) =
      some (functionRow script.functions (name, f)) := by
  rw [row?_functionRowId_eq, firstNamed?_of_leads h (leads_of_nodup hnames h)]
  rfl

/-- Among the rows of the functions only the main row is gone through. -/
theorem flattened_eq {board : Board} {main : Row}
    (hrows : board.rows = main :: functions.map (functionRow functions))
    (henabled : main.enabled = true)
    (hmain : main.subroutine = false) : board.flattened = main.enabledActions := by
  have hothers : (functions.map (functionRow functions)).filter (fun row => row.enabled &&
      !row.subroutine) = [] := by
    rw [List.filter_eq_nil_iff]
    intro row hrow
    obtain ⟨entry, -, rfl⟩ := List.mem_map.mp hrow
    exact Bool.false_ne_true
  rw [Board.flattened, Board.runningRows, hrows, List.filter_cons_of_pos, hothers,
    List.flatMap_singleton]
  rw [henabled, hmain]
  rfl

/-- A run of the board goes through the commands of the main row. -/
theorem flattened_toBoard (script : Script) (id boardName : String) (now : UtcTime) :
    (script.toBoard id boardName now).flattened =
      script.mainCommands.map fun c => (commandAction script.functions c).1 :=
  (flattened_eq rfl rfl rfl).trans (enabledActions_rowOf script.functions _ script.mainCommands)

/-! ## Chains of calls -/

/-- Functions that call each other, beginning with a call among some commands. -/
inductive CallChain (functions : Declarations Function) : List Command → List String → Prop
  | nil {commands : List Command} : CallChain functions commands []
  | call {commands : List Command} {c : Command} {f : Function} {chain : List String}
      (called : c ∈ commands)
      (declared : functions.find? c.name = some f) (rest : CallChain functions f.body chain) :
      CallChain functions commands (c.name :: chain)

namespace CallChain

variable {commands : List Command} {front rest : List String}

/-- A chain goes on with any chain of the function that it ends with. -/
theorem extend (h : CallChain functions commands (front ++ [name]))
    (hf : functions.find? name = some f)
    (hrest : CallChain functions f.body rest) :
    CallChain functions commands (front ++ name :: rest) := by
  induction front generalizing commands with
  | nil =>
    cases h with
    | call hcalled hdeclared _ =>
      rw [hdeclared] at hf
      cases hf
      exact .call hcalled hdeclared hrest
  | cons first front ih =>
    cases h with
    | call hcalled hdeclared hothers => exact .call hcalled hdeclared (ih hothers)

theorem of_append (h : CallChain functions commands (front ++ rest)) :
    CallChain functions commands front := by
  induction front generalizing commands with
  | nil => exact .nil
  | cons first front ih =>
    cases h with
    | call hcalled hdeclared hothers => exact .call hcalled hdeclared (ih hothers)

/-- A function that comes back to itself has chains of any length. -/
theorem exists_length_ge (hf : functions.find? name = some f)
    (h : CallChain functions f.body (front ++ [name])) (n : Nat) :
    ∃ chain, CallChain functions f.body chain ∧ n ≤ chain.length := by
  induction n with
  | zero => exact ⟨[], .nil, Nat.le_refl 0⟩
  | succ n ih =>
    obtain ⟨chain, hchain, hlength⟩ := ih
    refine ⟨front ++ name :: chain, h.extend hf hchain, ?_⟩
    rw [List.length_append, List.length_cons]
    omega

/-- **Where the chains are bounded, no function comes back to itself.** -/
theorem nodup {chain : List String} (h : CallChain functions commands chain) {bound : Nat}
    (hbound : ∀ chain, CallChain functions commands chain → chain.length ≤ bound) :
    chain.Nodup := by
  induction h with
  | nil => exact List.nodup_nil
  | @call commands c f chain hcalled hdeclared hrest ih =>
    have hbody : ∀ chain, CallChain functions f.body chain → chain.length + 1 ≤ bound :=
      fun chain hchain =>
      hbound (c.name :: chain) (.call hcalled hdeclared hchain)
    refine List.nodup_cons.mpr ⟨fun hback => ?_,
      ih fun chain hchain => Nat.le_of_succ_le (hbody chain hchain)⟩
    obtain ⟨front, after, rfl⟩ := List.append_of_mem hback
    rw [List.append_cons] at hrest
    obtain ⟨chain, hchain, hlength⟩ := exists_length_ge hdeclared hrest.of_append bound
    have hshort := hbody chain hchain
    omega

end CallChain

theorem commandAction_of_notMem (h : c.name ∉ functions.names) :
    (commandAction functions c).1 = (builtinCommand c).1 := by
  rw [commandAction, if_neg fun hcontains => h (List.contains_iff_mem.mp hcontains)]

/-- **Where calls nest no deeper than so many levels, the actions of commands unfold.** -/
theorem unfolds_commandAction (hwords : ∀ name ∈ script.functions.names, IsWord name)
    (hnames : (script.functions.names.map Text.lower).Nodup) {depth : Nat} {commands : List Command}
    (hchains : ∀ chain, CallChain script.functions commands chain → chain.length ≤ depth) :
    ∀ c ∈ commands,
      (script.toBoard id boardName now).Unfolds depth (commandAction script.functions c).1 := by
  induction depth generalizing commands with
  | zero =>
    intro c hc
    have hbuiltin : c.name ∉ script.functions.names := by
      intro hcall
      obtain ⟨f, hf⟩ := Declarations.exists_find?_eq_some hcall
      exact Nat.not_succ_le_zero 0 (hchains [c.name] (.call hc hf .nil))
    rw [commandAction_of_notMem hbuiltin]
    exact .plain (builtinCommand_isPrompt c) (kind_builtinCommand_mem_plain c)
  | succ depth ih =>
    intro c hc
    by_cases hcall : c.name ∈ script.functions.names
    · obtain ⟨f, hf⟩ := Declarations.exists_find?_eq_some hcall
      have hbody : ∀ chain, CallChain script.functions f.body chain → chain.length ≤ depth :=
        fun chain hchain =>
        Nat.le_of_succ_le_succ (hchains (c.name :: chain) (.call hc hf hchain))
      have hrow := row?_functionRowId id boardName now hnames hf
      rw [← metaTextOr_callAction (hwords c.name hcall)] at hrow
      rw [commandAction_of_mem hcall]
      refine .call (callAction_isPrompt c) rfl hrow rfl fun b hb => ?_
      rw [functionRow, enabledActions_rowOf] at hb
      obtain ⟨inner, hinner, rfl⟩ := List.mem_map.mp hb
      exact ih hbody inner hinner
    · rw [commandAction_of_notMem hcall]
      exact .plain (builtinCommand_isPrompt c) (kind_builtinCommand_mem_plain c)

/-! ## A script with its calls replaced -/

/-- The board of a script with the calls of functions in its main row replaced, so many levels
deep. -/
def inlinedBoard (script : Script) (id boardName : String) (now : UtcTime) (depth : Nat) : Board :=
  (script.toBoard id boardName now).inlineRow mainRowId depth

theorem flattened_inlinedBoard {depth : Nat}
    (h : ∀ a ∈ (script.toBoard id boardName now).flattened,
      (script.toBoard id boardName now).Unfolds depth a) :
    (script.inlinedBoard id boardName now depth).flattened =
      (script.toBoard id boardName now).flattened.flatMap
        ((script.toBoard id boardName now).expand depth) := by
  rw [flattened_toBoard] at h ⊢
  have hmain : (script.inlinedBoard id boardName now depth).flattened = Row.enabledActions _ :=
    flattened_eq rfl rfl rfl
  rw [hmain]
  refine List.filter_eq_self.mpr fun b hb => ?_
  obtain ⟨a, ha, hb⟩ := List.mem_flatMap.mp hb
  exact ((h a ha).of_mem_expand b hb).1.enabled

variable {σ : Type} {setting : Setting σ} {ports : PortSet} {s : Session σ} {seed : Variables}

/-- **Calling functions is inlining them.**  Take a script whose functions have names that
differ in more than case and whose calls nest no deeper than a run allows.  With all calls in
its main row replaced, no call is left, and a run does the same to the world at the same times
and leaves the same variables.  The run with the calls gives one outcome for each command of the
main row, in their order. -/
theorem run_toBoard_inlined (text id boardName : String) (now : UtcTime)
    (hs : s.IsReady setting ports)
    (hseed : seed.IsClear) (hnames : ((ofText text).functions.names.map Text.lower).Nodup)
    (hchains : ∀ chain, CallChain (ofText text).functions (ofText text).mainCommands chain →
      chain.length ≤ setting.callDepthLimit) :
    let script := ofText text
    let board := script.toBoard id boardName now
    let inlined := script.inlinedBoard id boardName now setting.callDepthLimit
    (∀ a ∈ inlined.flattened, a.kind ≠ .runRow) ∧
      Session.SameEffects (s.run setting board seed).2 (s.run setting inlined seed).2 ∧
      ∃ outcomes, (s.run setting board seed).1 = some (.ok outcomes) ∧
        List.Forall₂ (fun c outcome => outcome.IsOf (commandAction script.functions c).1)
          script.mainCommands
          outcomes := by
  intro script board inlined
  have hunfolds : ∀ a ∈ board.flattened, board.Unfolds setting.callDepthLimit a := by
    intro a ha
    rw [flattened_toBoard] at ha
    obtain ⟨c, hc, rfl⟩ := List.mem_map.mp ha
    exact unfolds_commandAction (isWord_of_mem_names_ofText text) hnames hchains c hc
  have hflattened := flattened_inlinedBoard hunfolds
  refine ⟨fun a ha => ?_, Session.run_sameEffects hs hseed hunfolds rfl hflattened, ?_⟩
  · rw [hflattened] at ha
    obtain ⟨b, hb, ha⟩ := List.mem_flatMap.mp ha
    exact Board.ne_runRow_of_mem_plain ((hunfolds b hb).of_mem_expand a ha).2
  · obtain ⟨enumeration, hregistry⟩ := hs.registry
    obtain ⟨outcomes, hrun, houtcomes⟩ := (Session.run_enacts hs hregistry hseed hunfolds).2
    rw [flattened_toBoard, List.forall₂_map_left_iff] at houtcomes
    exact ⟨outcomes, hrun, houtcomes⟩

/-- A script that calls a function twice and waits in between. -/
def tappingScript : String :=
  "Tap() \x7b\n  Send(\"a\")\n  Click(1, 2)\n\x7d\nTap()\nSleep(5)\nTap()\n"

/-- What is read from it. -/
theorem ofText_tappingScript :
    ofText tappingScript =
      { topLevel := [⟨"Tap", [], "Tap()", 5⟩, ⟨"Sleep", ["5"], "Sleep(5)", 6⟩,
        ⟨"Tap", [], "Tap()", 7⟩]
        functions := [("Tap",
          ⟨"Tap", [], [⟨"Send", ["\"a\""], "Send(\"a\")", 2⟩,
            ⟨"Click", ["1", "2"], "Click(1, 2)", 3⟩]⟩)] } := by
  decide +kernel

theorem length_le_of_callChain_tappingScript :
    ∀ chain, CallChain (ofText tappingScript).functions (ofText tappingScript).mainCommands chain →
      chain.length ≤ 16 := by
  rw [ofText_tappingScript]
  rintro chain (_ | ⟨hcalled, hdeclared, hrest⟩)
  · decide
  · simp [Declarations.find?, lookupEntry] at hdeclared
    obtain ⟨-, rfl⟩ := hdeclared
    rcases hrest with _ | ⟨hinner, hnone, -⟩
    · simp
    · simp at hinner
      rcases hinner with rfl | rfl <;> simp [Declarations.find?, lookupEntry] at hnone

/-- The script on an idle stage, where every call of a device fails. -/
theorem run_toBoard_inlined_of_tappingScript :
    let setting : Setting Unit := ⟨fun _ s => (.error (.unavailable ""), s), {}⟩
    let s : Session Unit := { stage := CallStack.idleStage }
    let script := ofText tappingScript
    let board := script.toBoard "board" "" .epoch
    let inlined := script.inlinedBoard "board" "" .epoch setting.callDepthLimit
    (∀ a ∈ inlined.flattened, a.kind ≠ .runRow) ∧
      Session.SameEffects (s.run setting board ∅).2 (s.run setting inlined ∅).2 ∧
      ∃ outcomes, (s.run setting board ∅).1 = some (.ok outcomes) ∧ outcomes.length = 3 := by
  intro setting s script board inlined
  have hready : s.IsReady setting .everything := ⟨⟨.byName, rfl⟩, rfl, rfl, rfl, rfl, rfl⟩
  have hseed : Variables.IsClear ∅ := ⟨rfl, rfl⟩
  have hnames : ((ofText tappingScript).functions.names.map Text.lower).Nodup := by
    rw [ofText_tappingScript]
    exact List.nodup_singleton _
  obtain ⟨hplain, heffects, outcomes, hrun, houtcomes⟩ :=
    run_toBoard_inlined tappingScript "board" "" .epoch hready hseed hnames
      length_le_of_callChain_tappingScript
  refine ⟨hplain, heffects, outcomes, hrun, ?_⟩
  rw [← houtcomes.length_eq, ofText_tappingScript]
  rfl

end ActionBoard.Script
