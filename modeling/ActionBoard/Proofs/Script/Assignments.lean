import ActionBoard.Device.Recorder
import ActionBoard.Proofs.Engine.Handling
import ActionBoard.Proofs.Script.Dangers
import ActionBoard.Proofs.Script.Inlining

/-!
# Assignments in bodies

In a body every line is a command, and an assignment is a command with the name of its variable.
The colon and the equals sign are looked for last, when the name is none of a command that acts.
So nearly every assignment is logged and does nothing else.  The others are taken for commands:
`Click := 5` clicks.

* `Assigns`: how an assignment is written.
* `actingCommands`: the names, in small letters, under which a command acts.  All others are logged
  (`builtinCommand_of_notMem`), and none of them is (`kind_builtinCommand_of_mem`).
* `IsDebugLog`: an action that writes a text to the log and does nothing else;
  `isDebugLog_logAction`.
* `assignments_do_not_act`: which assignments are logged, and what it comes to that they are.
-/

namespace ActionBoard.Script

variable {σ : Type} {name text : List Char} {c : Command} {a : Action} {line : SourceLine}

/-- A text that assigns something to a name, with white space before the colon and the equals
sign. -/
inductive Assigns (name : List Char) : List Char → Prop
  | intro {blanks : List Char} (hne : blanks ≠ []) (hblanks : ∀ c ∈ blanks, Text.isBlank c = true)
      (value : List Char) : Assigns name (name ++ (blanks ++ ':' :: '=' :: value))

/-- The names of commands that act, in small letters. -/
def actingCommands : List String :=
  ["click", "mousemove", "send", "sendinput", "sendtext", "sendevent", "sleep",
    "pixelwaitchange", "clipwait",
    "pixelgetcolor", "pixelsearch"]

/-! ## Commands that act and commands that do not -/

theorem builtinCommand_of_notMem (h : Text.lower c.name ∉ actingCommands) :
    builtinCommand c = loggedCommand c := by
  unfold builtinCommand
  dsimp only
  split
  case h_12 => rfl
  all_goals
    rename_i hname
    rw [hname] at h
    exact absurd (by decide) h

theorem kind_builtinCommand_of_mem (h : Text.lower c.name ∈ actingCommands) :
    (builtinCommand c).1.kind ≠ .log := by
  simp only [actingCommands, List.mem_cons, List.not_mem_nil, or_false] at h
  rcases h with h | h | h | h | h | h | h | h | h | h | h
  all_goals
    rw [builtinCommand, h]
    exact ActionKind.noConfusion

theorem loggedCommand_of_isInfix (h : [':', '='] <:+: c.raw.toList) :
    loggedCommand c = (logAction c "Assign" "DEBUG", []) := by
  rw [loggedCommand]
  exact if_pos (Text.contains_iff_isInfix.mpr h)

/-! ## Assignments as commands -/

namespace Assigns

/-- An assignment is read as a command with the name of its variable. -/
theorem name_ofText (h : Assigns name text) (hname : IsIdentifier name) (number : Nat) :
    (Command.ofText text number).name = String.ofList name := by
  obtain ⟨hne, hblanks, value⟩ := h
  rename_i blanks
  obtain ⟨blank, rest, rfl⟩ := List.exists_cons_of_ne_nil hne
  refine name_ofText_legacy hname ?_ number
  rintro c ⟨⟩
  rw [endsCommandName, hblanks blank List.mem_cons_self, Bool.true_or]

theorem isInfix (h : Assigns name text) : [':', '='] <:+: text := by
  obtain ⟨-, -, value⟩ := h
  rename_i blanks
  exact ⟨name ++ blanks, value, by simp⟩

theorem ne_brace (h : Assigns name text) : text ≠ ['}'] := by
  rintro rfl
  exact absurd h.isInfix (by decide)

end Assigns

/-! ## Logging and nothing else -/

/-- An action that writes a text to the log as a message for debugging.  Nothing else is left of it
when it has been executed by the standard handlers: no device is called, and no time has passed. -/
structure IsDebugLog (a : Action) (text : String) : Prop where
  kind : a.kind = .log
  message : Handler.logMessage a = text
  level : Handler.logLevelName a = "DEBUG"
  executed : ∀ {σ : Type} (devices : Devices σ) (enumeration : Enumeration) (ports : PortSet)
    (settings : EngineSettings) (limit : Nat) (ctx : Context) (stage : Stage σ), stage.registry =
      .standard enumeration ports settings →
      let ran := (execute limit a ctx).run (Stage.answer devices) stage
      ran.2 = stage.record (.log .debug text) ∧ ran.1.1 = .succeeded a ("[DEBUG] " ++ text)

theorem handle_journal (devices : Devices σ) (a : Action) (ctx : Context) (stage : Stage σ) :
    let ran := stage.handle devices (Handler.journal a) a ctx
    ran.2 = stage.record (.log (.ofName (Handler.logLevelName a)) (Handler.logMessage a)) ∧
      ran.1.1 = .succeeded a ("[" ++ Handler.logLevelName a ++ "] " ++ Handler.logMessage a) :=
  ⟨rfl, rfl⟩

/-- The message of a command is its text. -/
theorem meta?_message_logAction (c : Command) (name level : String) :
    (logAction c name level).meta? "message" = some (.string c.raw) := by
  have hfind : (logAction c name level).metadata.find? "message" = some (.string c.raw) := by
    rw [logAction, Action.withMeta, Dictionary.find?_insert_of_ne _ _ (by decide)]
    exact Dictionary.find?_insert_self ..
  rw [Action.meta?, hfind]
  rfl

theorem metaText?_level_logAction (c : Command) (name level : String) :
    (logAction c name level).metaText? "log_level" = some level := by
  have hfind : (logAction c name level).metadata.find? "log_level" = some (.string level) :=
    Dictionary.find?_insert_self ..
  rw [Action.metaText?, Action.meta?, hfind]
  rfl

theorem logMessage_logAction (c : Command) (name level : String) :
    Handler.logMessage (logAction c name level) = c.raw := by
  rw [Handler.logMessage, Action.metaText?, meta?_message_logAction]
  rfl

theorem logLevelName_logAction (c : Command) (name : String) :
    Handler.logLevelName (logAction c name "DEBUG") = "DEBUG" := by
  rw [Handler.logLevelName, Action.metaTextOr, metaText?_level_logAction]
  decide

theorem isDebugLog_logAction (c : Command) (name : String) :
    IsDebugLog (logAction c name "DEBUG") c.raw where
  kind := rfl
  message := logMessage_logAction c name "DEBUG"
  level := logLevelName_logAction c name
  executed := by
    intro σ devices enumeration ports settings limit ctx stage hregistry ran
    have hprompt : (logAction c name "DEBUG").IsPrompt := ⟨rfl, rfl, rfl⟩
    have hran : ran = stage.handle devices (Handler.journal (logAction c name "DEBUG")) _ ctx :=
      run_execute_of_simple hprompt hregistry rfl limit
    obtain ⟨hstage, houtcome⟩ := handle_journal devices (logAction c name "DEBUG") ctx stage
    rw [hran, hstage, houtcome, logMessage_logAction, logLevelName_logAction]
    exact ⟨rfl, rfl⟩

/-- **An assignment is logged unless its variable is named like a command that acts.**  This is so
for every line of a body, whatever the text is, if no function is declared under the name.  A line
of a body that is kept is a command of the script.  Its action is that of a message for debugging
with the text of the line, which is all that executing it leaves behind, if and only if the name in
small letters is not one of the commands that act. -/
theorem assignments_do_not_act (text : String) {part : Part}
    (hline : part.HasInBody line) (hname : IsIdentifier name) (h : Assigns name line.text)
    (hundeclared : String.ofList name ∉ (ofText text).functions.names) :
    let script := ofText text
    let a := (commandAction script.functions line.command).1
    (IsKept (parts (sourceLines text.toList)) part → line.command ∈ script.allCommands) ∧
      (IsDebugLog a (String.ofList line.text) ↔
        Text.lower (String.ofList name) ∉ actingCommands) := by
  intro script a
  have hcommand : line.command.name = String.ofList name := h.name_ofText hname line.number
  have hbuiltin : a = (builtinCommand line.command).1 :=
    commandAction_of_notMem (by rwa [hcommand])
  refine ⟨fun hkept => hline.command_mem hkept h.ne_brace {}, fun hlogs hacts => ?_,
    fun hacts => ?_⟩
  · rw [← hcommand] at hacts
    exact kind_builtinCommand_of_mem hacts (hbuiltin ▸ hlogs.kind)
  · rw [← hcommand] at hacts
    have hraw : line.command.raw = String.ofList line.text :=
      Command.raw_ofText line.text line.number
    have hassigns : [':', '='] <:+: line.command.raw.toList := by
      rw [hraw, String.toList_ofList]
      exact h.isInfix
    rw [hbuiltin, builtinCommand_of_notMem hacts, loggedCommand_of_isInfix hassigns, ← hraw]
    exact isDebugLog_logAction line.command "Assign"

/-- The result of a call is assigned in a body. -/
theorem assignments_do_not_act_of_call :
    let text := "F() \x7b\nx := Click(1, 2)\n\x7d"
    let line : SourceLine := ⟨2, "x := Click(1, 2)".toList⟩
    let script := ofText text
    Part.HasInBody ⟨⟨1, "F() \x7b".toList⟩, [line]⟩ line ∧ IsIdentifier "x".toList ∧
      Assigns "x".toList line.text ∧
      String.ofList "x".toList ∉ script.functions.names ∧ line.command ∈ script.allCommands ∧
      IsDebugLog (commandAction script.functions line.command).1 "x := Click(1, 2)" := by
  intro text line script
  have hline : Part.HasInBody ⟨⟨1, "F() \x7b".toList⟩, [line]⟩ line := .line List.mem_cons_self
  have hname : IsIdentifier "x".toList := by decide
  have hassigns : Assigns "x".toList line.text :=
    @Assigns.intro "x".toList [' '] (by decide) (List.all_eq_true.mp (by decide))
      " Click(1, 2)".toList
  have hundeclared : String.ofList "x".toList ∉ script.functions.names := by decide +kernel
  have hparts : parts (sourceLines text.toList) = [⟨⟨1, "F() \x7b".toList⟩, [line]⟩] := by
    decide +kernel
  have hkept : IsKept (parts (sourceLines text.toList)) ⟨⟨1, "F() \x7b".toList⟩, [line]⟩ := by
    rw [hparts]
    exact ⟨[], [], rfl, fun _ hlater => nomatch hlater⟩
  obtain ⟨hcommand, hlogs⟩ := assignments_do_not_act text hline hname hassigns hundeclared
  exact ⟨hline, hname, hassigns, hundeclared, hcommand hkept, hlogs.mpr (by decide)⟩

/-- **An assignment can act**: one to a variable that is named like the command clicks where the
pointer is sent. -/
theorem assignment_clicks :
    let text := "F() \x7b\nClick := 5\n\x7d"
    let line : SourceLine := ⟨2, "Click := 5".toList⟩
    let script := ofText text
    let a := (commandAction script.functions line.command).1
    let stage : Stage Recorder := { devices := {}, registry := .standard .byName .everything {} }
    let ran := (execute 16 a {}).run (Stage.answer Recorder.devices) stage
    parts (sourceLines text.toList) = [⟨⟨1, "F() \x7b".toList⟩, [line]⟩] ∧
      Assigns "Click".toList line.text ∧
      String.ofList "Click".toList ∉ script.functions.names ∧ line.command ∈ script.allCommands ∧
        a.kind = .mouseClick ∧
      ran.2.devices.moves = [(⟨0, 0⟩, 0)] ∧ ran.2.devices.clicks = [(⟨0, 0⟩, "left")] := by
  intro text line script a stage ran
  have hassigns : Assigns "Click".toList line.text :=
    @Assigns.intro "Click".toList [' '] (by decide) (List.all_eq_true.mp (by decide)) " 5".toList
  exact ⟨by decide +kernel,
    hassigns, by decide +kernel, by decide +kernel, by decide +kernel, by decide +kernel,
    by decide +kernel⟩

end ActionBoard.Script
