import ActionBoard.Proofs.Script.Assignments
import ActionBoard.Proofs.Script.Identifiers

/-!
# The board follows the script

A board is read beside its script: what has run or has not is looked up by the place of an action.
So there is an action for every command, in the place of the command, and what cannot be run is
there as a message with the text of its command.  An unsupported command is also reported, and the
reports stand in the order of these messages.

* `Translated`: the three things that can become of a command.  All that is said of actions and of
  what is reported with them goes back to `translated_commandAction`.
* `Selected`: the commands that the main row is made from.
* `Follows`: a row with an action for each of some commands.
* `reports_reportOf`: what is reported of some commands, beside their actions.
* `board_follows_script`: the rows of a board and what is reported with them.
-/

namespace ActionBoard.Script

variable {functions : Declarations Function} {script : Script} {c : Command} {a : Action}

/-! ## What becomes of a command -/

/-- Whether a diagnostic only informs. -/
def isInfo (d : Diagnostic) : Bool :=
  d.severity == .info

/-- Whether an action logs a warning. -/
def isWarning (a : Action) : Bool :=
  a.kind == .log && a.metaText? "log_level" == some "WARNING"

/-- What can become of a command: an action that acts, with nothing to report but warnings; the
message of a command that is known and cannot be acted on; and the message of one that is not known,
which is reported. -/
inductive Translated (c : Command) : Action × List Diagnostic → Prop
  | acting {a : Action} {found : List Diagnostic} (kind : a.kind ≠ .log) (quiet : ∀ d ∈ found,
    isInfo d = false) :
      Translated c (a, found)
  | known {name level : String} (hlevel : level ≠ "WARNING") :
      Translated c (logAction c name level, [])
  | unsupported : Translated c (logAction c ("Unsupported: " ++ c.name) "WARNING",
      [.info ("Unsupported command in emulation: " ++ c.name) c.line])

theorem isInfo_of_mem_pointArgument (c : Command) :
    ∀ d ∈ (pointArgument c).2, isInfo d = false := by
  have hcoordinate : ∀ n, ∀ d ∈ (coordinate c n).2, isInfo d = false := by
    intro n d hd
    rw [coordinate] at hd
    split at hd
    · cases hd
    · rw [List.mem_singleton.mp hd]
      rfl
  rw [pointArgument]
  split
  · exact List.forall_mem_append.mpr ⟨hcoordinate _, hcoordinate _⟩
  · exact fun d hd => nomatch hd

theorem isInfo_of_mem_builtinCommand (h : Text.lower c.name ∈ actingCommands) :
    ∀ d ∈ (builtinCommand c).2, isInfo d = false := by
  have hpoint : ∀ d ∈ (pointArgument c).2, isInfo d = false := isInfo_of_mem_pointArgument c
  have hnone : ∀ d ∈ ([] : List Diagnostic), isInfo d = false := fun d hd => nomatch hd
  simp only [actingCommands, List.mem_cons, List.not_mem_nil, or_false] at h
  rcases h with h | h | h | h | h | h | h | h | h | h | h <;> rw [builtinCommand, h]
  · exact hpoint
  · exact hpoint
  · exact hnone
  · exact hnone
  · exact hnone
  · exact hnone
  · exact hnone
  · exact hpoint
  · exact hnone
  · exact hpoint
  · exact hpoint

theorem translated_loggedCommand (c : Command) : Translated c (loggedCommand c) := by
  rw [loggedCommand]
  split
  · exact .known (by decide)
  · split
    · exact .known (by decide)
    · split
      · exact .known (by decide)
      · exact .unsupported

/-- **Every command becomes one action**, in one of three ways. -/
theorem translated_commandAction (functions : Declarations Function) (c : Command) :
    Translated c (commandAction functions c) := by
  rw [commandAction]
  split
  · exact .acting ActionKind.noConfusion (List.forall_mem_nil _)
  · by_cases h : Text.lower c.name ∈ actingCommands
    · exact .acting (kind_builtinCommand_of_mem h) (isInfo_of_mem_builtinCommand h)
    · rw [builtinCommand_of_notMem h]
      exact translated_loggedCommand c

/-! ## The actions of a row -/

theorem isWarning_logAction (c : Command) (name level : String) :
    isWarning (logAction c name level) = (level == "WARNING") := by
  rw [isWarning, metaText?_level_logAction]
  rfl

/-- An action that stands on the board for a command: it is named by the line and the name of the
command, switched on and without delays, and if it is a message, it is the text of the command. -/
structure Mirrors (functions : Declarations Function) (c : Command) (a : Action) : Prop where
  translated : a = (commandAction functions c).1
  id : a.id = "script_line_" ++ Text.natText c.line ++ "_" ++ Text.lower c.name
  enabled : a.enabled = true
  delayBefore : a.delayBefore = 0
  delayAfter : a.delayAfter = 0
  message : a.kind = .log → a.meta? "message" = some (.string c.raw)

theorem mirrors_commandAction (functions : Declarations Function) (c : Command) :
    Mirrors functions c (commandAction functions c).1 where
  translated := rfl
  id := id_commandAction functions c
  enabled := (commandAction_isPrompt functions c).enabled
  delayBefore := (commandAction_isPrompt functions c).delayBefore
  delayAfter := (commandAction_isPrompt functions c).delayAfter
  message := by
    intro hlog
    have htranslated := translated_commandAction functions c
    generalize commandAction functions c = translation at hlog htranslated ⊢
    cases htranslated with
    | acting kind _ => exact absurd hlog kind
    | known _ => exact meta?_message_logAction c _ _
    | unsupported => exact meta?_message_logAction c _ _

/-- A row that is switched on, with an action for each of the commands, in their order. -/
structure Follows (functions : Declarations Function) (commands : List Command)
    (row : Row) : Prop where
  enabled : row.enabled = true
  actions : List.Forall₂ (Mirrors functions) commands row.actions

theorem follows_rowOf (functions : Declarations Function) {row : Row} (h : row.enabled = true)
    (commands : List Command) : Follows functions commands (rowOf functions row commands) :=
  ⟨h, List.forall₂_map_right_iff.mpr
    (List.forall₂_same.mpr fun c _ => mirrors_commandAction functions c)⟩

/-! ## The commands of the main row -/

/-- The commands that the main row is made from: the top level; without one, the body of the first
hotkey; without hotkeys, a call of `Main`, if there is such a function. -/
inductive Selected (script : Script) : List Command → Prop
  | topLevel (h : script.topLevel ≠ []) : Selected script script.topLevel
  | hotkey {label : String} {body : List Command} {rest : Declarations (List Command)}
      (h : script.topLevel = [])
      (hhotkeys : script.hotkeys = (label, body) :: rest) : Selected script body
  | main (h : script.topLevel = []) (hhotkeys : script.hotkeys = []) (hmain : "Main" ∈
      script.functions.names) :
      Selected script [⟨"Main", [], "Main()", 0⟩]
  | nothing (h : script.topLevel = []) (hhotkeys : script.hotkeys = [])
      (hmain : "Main" ∉ script.functions.names) :
      Selected script []

theorem selected_mainCommands (script : Script) : Selected script script.mainCommands := by
  rw [mainCommands]
  split
  · rename_i h
    exact .topLevel (by simpa using h)
  · rename_i h
    have htop : script.topLevel = [] := by simpa using h
    split
    · rename_i label body rest hhotkeys
      exact .hotkey htop hhotkeys
    · rename_i hhotkeys
      split
      · rename_i hmain
        exact .main htop hhotkeys (List.contains_iff_mem.mp hmain)
      · rename_i hmain
        exact .nothing htop hhotkeys fun hmem => hmain (List.contains_iff_mem.mpr hmem)

/-! ## What is reported -/

/-- What is reported of a command, beside the action that logs it: both have its line and its
name. -/
structure Reports (d : Diagnostic) (a : Action) : Prop where
  line : lineOfId? a.id = some d.line
  name : ∃ name, d.message = "Unsupported command in emulation: " ++ name ∧
    a.name = "Unsupported: " ++ name

theorem reports_commandAction (functions : Declarations Function) (c : Command) :
    List.Forall₂ Reports ((commandAction functions c).2.filter isInfo)
      ([(commandAction functions c).1].filter isWarning) := by
  have htranslated := translated_commandAction functions c
  generalize commandAction functions c = translation at htranslated ⊢
  cases htranslated with
  | @acting a found kind quiet =>
    have hfound : found.filter isInfo = [] :=
      List.filter_eq_nil_iff.mpr fun d hd => by simp [quiet d hd]
    have hkind : isWarning a = false := by simp [isWarning, kind]
    simp [hfound, hkind]
  | @known name level hlevel =>
    have hwarning : isWarning (logAction c name level) = false := by
      rw [isWarning_logAction]
      exact beq_eq_false_iff_ne.mpr hlevel
    simp [hwarning]
  | unsupported =>
    have hwarning : isWarning (logAction c ("Unsupported: " ++ c.name) "WARNING") = true :=
      isWarning_logAction c _ _
    rw [List.filter_cons_of_pos rfl, List.filter_cons_of_pos hwarning]
    exact .cons ⟨lineOfId?_actionId c, c.name, rfl, rfl⟩ .nil

/-- **What is reported stands in the order of the actions.** -/
theorem reports_reportOf (functions : Declarations Function) (commands : List Command) :
    List.Forall₂ Reports ((reportOf functions commands).filter isInfo)
      ((commands.map fun c => (commandAction functions c).1).filter isWarning) := by
  induction commands with
  | nil => exact .nil
  | cons c commands ih =>
    rw [reportOf, List.flatMap_cons, List.filter_append, List.map_cons, ← List.singleton_append,
      List.filter_append]
    exact List.rel_append (reports_commandAction functions c) ih

/-- What is reported of a script is what is reported of its commands, row by row. -/
theorem report_eq (script : Script) :
    script.report = reportOf script.functions script.commandRows.flatten := by
  have hbodies : script.functions.values.map Function.body =
      script.functions.map fun entry => entry.2.body := by
    rw [Declarations.values, List.map_map]
    rfl
  rw [report, commandRows, List.flatten_cons, hbodies, ← List.flatMap_def]
  simp only [reportOf, List.flatMap_append, List.flatMap_assoc]

/-! ## The board of a script -/

/-- **The board follows the script.**  There is a main row, which follows the commands selected for
it and is what a run goes through; after it there is a subroutine row for each function in the order
of the declarations, which follows the body of the function.  The diagnostics that inform stand for
the messages that are warnings, one for one and in the order in which these stand on the board. -/
theorem board_follows_script (script : Script) (id boardName : String) (now : UtcTime) :
    let board := script.toBoard id boardName now
    (∃ commands main callable, Selected script commands ∧ board.rows = main :: callable ∧
      main.id = mainRowId ∧ main.subroutine = false ∧ Follows script.functions commands main ∧
      List.Forall₂ (fun entry row => row.id = functionRowId entry.1 ∧ row.name = "Fn: " ++ entry.1 ∧
        row.subroutine = true ∧ Follows script.functions entry.2.body row)
          script.functions callable ∧
      board.flattened = main.actions) ∧
    List.Forall₂ Reports (script.report.filter isInfo)
      ((board.rows.flatMap Row.actions).filter isWarning) := by
  intro board
  refine ⟨⟨script.mainCommands, rowOf script.functions (Row.new mainRowId "Script Main")
    script.mainCommands,
    script.functions.map (functionRow script.functions), selected_mainCommands script,
      rfl, rfl, rfl,
    follows_rowOf script.functions rfl script.mainCommands, ?_,
      flattened_toBoard script id boardName now⟩, ?_⟩
  · rw [List.forall₂_map_right_iff]
    exact List.forall₂_same.mpr fun entry _ =>
      ⟨rfl, rfl, rfl, follows_rowOf script.functions rfl entry.2.body⟩
  · rw [report_eq, flatMap_actions_toBoard]
    exact reports_reportOf script.functions script.commandRows.flatten

end ActionBoard.Script
