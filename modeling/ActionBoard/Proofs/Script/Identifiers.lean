import ActionBoard.Proofs.Script.CalledRow
import ActionBoard.Proofs.Script.Provenance
import Mathlib.Data.List.Nodup

/-!
# Identifiers of translated actions

The identifier of an action is made from the line and the name of its command.  A name is free text,
and different commands may well have the same one, so it is the line that has to tell actions apart:
it is written between two marks that no digit can be mistaken for, and is read back from there
whatever the name is.

* `lineOfId?`: the line that an identifier names; `lineOfId?_actionId` says that it is the
  line of the command.
* `nodup_lines_commandRows`: no two commands of a board stand in the same line.  The call of
  `Main` that is made up for a script without commands of its own has line zero, which no
  line of a text has.
* `identifiers_are_unique`: so no two actions of a board have the same identifier.
-/

namespace ActionBoard.Script

open scoped List

variable {functions : Declarations Function}

/-! ## The line in an identifier -/

/-- The line that the identifier of an action names: the number between the words in front and
the mark behind. -/
def lineOfId? (id : String) : Option Nat :=
  ("script_line_".toList.isPrefixOf? id.toList).bind fun rest =>
    Text.natOf? (rest.takeWhile (· ≠ '_'))

theorem takeWhile_decimal_append (n : Nat) (behind : List Char) :
    (Text.decimal n ++ '_' :: behind).takeWhile (· ≠ '_') = Text.decimal n := by
  have hdigits : ∀ c ∈ Text.decimal n, decide (c ≠ '_') = true := by
    intro c hc
    have hdigit : Text.isAsciiDigit c = true :=
      List.all_eq_true.mp (Text.all_isAsciiDigit_decimal n) c hc
    refine decide_eq_true fun hmark => ?_
    subst hmark
    exact absurd hdigit (by decide)
  rw [List.takeWhile_append_of_pos hdigits, List.takeWhile_cons_of_neg (by decide), List.append_nil]

/-- **The identifier of an action names the line of its command**, whatever the name of
the command is. -/
theorem lineOfId?_actionId (c : Command) : lineOfId? (actionId c) = some c.line := by
  have hid : (actionId c).toList =
      "script_line_".toList ++ (Text.decimal c.line ++ '_' :: (Text.lower c.name).toList) := by
    simp [actionId, Text.natText]
  have hrest : "script_line_".toList.isPrefixOf? (actionId c).toList =
      some (Text.decimal c.line ++ '_' :: (Text.lower c.name).toList) := by
    rw [hid]
    rfl
  rw [lineOfId?, hrest, Option.bind_some, takeWhile_decimal_append, Text.natOf?_decimal]

/-- Every action has the identifier of its command, whatever kind of action it is. -/
theorem id_builtinCommand (c : Command) : (builtinCommand c).1.id = actionId c := by
  unfold builtinCommand loggedCommand
  dsimp only
  repeat' split
  all_goals rfl

theorem id_commandAction (functions : Declarations Function) (c : Command) :
    (commandAction functions c).1.id = actionId c := by
  rw [commandAction]
  split
  · rfl
  · exact id_builtinCommand c

/-! ## Lines of the commands on a board -/

variable {script : Script} {lines : List (List Char)}

/-- The main row is made from commands outside of functions, or from a call that stands in no
line. -/
theorem mainCommands_sublist_or_made_up (script : Script) :
    script.mainCommands <+ script.topLevel ++ script.hotkeys.values.flatten ∨
      ∃ c, script.mainCommands = [c] ∧ c.line = 0 := by
  rw [mainCommands]
  split
  · exact .inl (List.sublist_append_left _ _)
  · split
    · rename_i label body rest hhotkeys
      have hbody : body <+ script.hotkeys.values.flatten := by
        rw [hhotkeys]
        exact List.sublist_append_left body (Declarations.values rest).flatten
      exact .inl (hbody.trans (List.sublist_append_right _ _))
    · split
      · exact .inr ⟨_, rfl, rfl⟩
      · exact .inl (List.nil_sublist _)

/-- No two commands of a board stand in the same line. -/
theorem nodup_lines_commandRows (h : KeepsLines script lines) :
    (script.commandRows.flatten.map Command.line).Nodup := by
  have hflatten : script.commandRows.flatten =
      script.mainCommands ++ script.functions.values.flatMap Function.body := by
    rw [commandRows, List.flatten_cons, List.flatMap_def]
  rw [hflatten]
  rcases mainCommands_sublist_or_made_up script with hsub | ⟨c, hmain, hzero⟩
  · exact h.once.sublist ((hsub.append_right _).map Command.line)
  · have hbodies : script.functions.values.flatMap Function.body <+ script.allCommands :=
      List.sublist_append_right _ _
    rw [hmain, List.map_append, List.map_singleton, hzero, List.singleton_append, List.nodup_cons]
    refine ⟨fun hmem => ?_, h.once.sublist (hbodies.map Command.line)⟩
    -- the lines of a text are counted from one
    obtain ⟨other, hother, hline⟩ := List.mem_map.mp hmem
    have hfirst : 1 ≤ other.line := (h.line other (hbodies.subset hother)).1
    omega

/-! ## Identifiers on a board -/

/-- The actions on a board are those of its commands, row by row. -/
theorem flatMap_actions_toBoard (script : Script) (id boardName : String) (now : UtcTime) :
    (script.toBoard id boardName now).rows.flatMap Row.actions =
      script.commandRows.flatten.map fun c => (commandAction script.functions c).1 := by
  have hrows := forall₂_commandRows script id boardName now
  generalize script.commandRows = commandRows at hrows ⊢
  generalize (script.toBoard id boardName now).rows = rows at hrows ⊢
  induction hrows with
  | nil => rfl
  | @cons commands row commandRows rows hrow _ ih =>
    rw [List.flatMap_cons, List.flatten_cons, List.map_append, hrow, ih]

theorem map_id_toBoard (script : Script) (id boardName : String) (now : UtcTime) :
    ((script.toBoard id boardName now).rows.flatMap Row.actions).map Action.id =
      script.commandRows.flatten.map actionId := by
  rw [flatMap_actions_toBoard, List.map_map]
  exact List.map_congr_left fun c _ => id_commandAction script.functions c

/-- **Translated actions have identifiers of their own.**  On the board of any text no two actions,
in whatever rows they are, have the same identifier; and the identifier of each action names the
line of the command that it was made from. -/
theorem identifiers_are_unique (text id boardName : String) (now : UtcTime) :
    let script := ofText text
    let board := script.toBoard id boardName now
    ((board.rows.flatMap Row.actions).map Action.id).Nodup ∧
      List.Forall₂ (fun commands row => List.Forall₂ (fun c a =>
          a = (commandAction script.functions c).1 ∧ lineOfId? a.id = some c.line)
            commands row.actions)
        script.commandRows board.rows := by
  intro script board
  have hlines := nodup_lines_commandRows (commands_keep_their_lines text)
  constructor
  · rw [map_id_toBoard]
    refine List.Nodup.of_map lineOfId? ?_
    have hread : (script.commandRows.flatten.map actionId).map lineOfId? =
        (script.commandRows.flatten.map Command.line).map some := by
      rw [List.map_map, List.map_map]
      exact List.map_congr_left fun c _ => lineOfId?_actionId c
    rw [hread]
    exact hlines.map fun _ _ hsame => Option.some.inj hsame
  · refine (forall₂_commandRows script id boardName now).imp fun commands row hrow => ?_
    rw [hrow, List.forall₂_map_right_iff]
    refine List.forall₂_same.mpr fun c _ => ⟨rfl, ?_⟩
    rw [id_commandAction, lineOfId?_actionId]

end ActionBoard.Script
