import ActionBoard.Action.Basic

/-!
# Outcomes of actions

Every action that is executed has exactly one outcome: it succeeded, it did not reach what it waited
or looked for (an unmet outcome, which is no error), or it failed with an error.
-/

namespace ActionBoard

/-- How the execution of an action ended. -/
structure Outcome where
  success : Bool
  actionId : String
  actionName : String
  message : String
  error : Option String
  deriving DecidableEq

namespace Outcome

/-- The action did what it was meant to do. -/
def succeeded (a : Action) (message : String) : Outcome :=
  { success := true, actionId := a.id, actionName := a.name, message, error := none }

/-- The action did not succeed, without an error. -/
def unmet (a : Action) (message : String) : Outcome :=
  { success := false, actionId := a.id, actionName := a.name, message, error := none }

/-- The action failed. -/
def failed (a : Action) (error : String) : Outcome :=
  { success := false, actionId := a.id, actionName := a.name, message := "", error := some error }

/-- The outcome on one line: its message, or else its error. -/
def line (o : Outcome) : String :=
  let mark := if o.success then "✓" else "✗"
  let detail := if o.message.isEmpty then o.error.getD "" else o.message
  mark ++ " " ++ o.actionName ++ ": " ++ detail

def ofJson? (json : Json) : Option Outcome := do
  let fields ← Fields.ofJson? ["success", "action_id", "action_name", "message", "error"] json
  some
    { success := ← fields.required "success" Json.bool?
      actionId := ← fields.required "action_id" Json.string?
      actionName := ← fields.required "action_name" Json.string?
      message := ← fields.withDefault "message" Json.string? ""
      error := ← fields.withDefault "error" (Json.orNull Json.string?) none }

/-- The outcome as an object; without an error there is no field for it. -/
def toJson (o : Outcome) : Json :=
  .object
    ([("success", .bool o.success), ("action_id", .string o.actionId),
        ("action_name", .string o.actionName), ("message", .string o.message)]
      ++ o.error.elim [] fun error => [("error", .string error)])

end Outcome

end ActionBoard
