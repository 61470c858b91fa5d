import ActionBoard.Action.Basic

/-!
# Actions in documents

All fields are written, those without a value as null.  Only the kind has to be present when an
action is read; every other field has a default, which is the value that a new action has.

The metadata may be written in any order of its entries.  Here it is the order of their names, where
no other one is given.
-/

namespace ActionBoard.Action

/-- The names of the fields in their order. -/
def fieldNames : List String :=
  ["id", "action_type", "name", "enabled", "delay_before_ms", "delay_after_ms", "repeat_count",
    "coordinates", "color", "mouse_button", "key", "metadata"]

def ofJson? (form : ActionKind.UnitForm) (json : Json) : Option Action := do
  let fields ← Fields.ofJson? fieldNames json
  some
    { id := ← fields.withDefault "id" Json.string? ""
      kind := ← fields.required "action_type" (ActionKind.ofJson? form)
      name := ← fields.withDefault "name" Json.string? ""
      enabled := ← fields.withDefault "enabled" Json.bool? true
      delayBefore := ← fields.withDefault "delay_before_ms" Json.word64? 0
      delayAfter := ← fields.withDefault "delay_after_ms" Json.word64? 0
      repeatCount := ← fields.withDefault "repeat_count" Json.word32? 1
      coordinates := ← fields.withDefault "coordinates" (Json.orNull Coordinates.ofJson?) none
      color := ← fields.withDefault "color" (Json.orNull Color.ofJson?) none
      button := ← fields.withDefault "mouse_button" Json.string? defaultButton
      key := ← fields.withDefault "key" (Json.orNull Json.string?) none
      metadata := ← fields.withDefault "metadata" Json.record? ∅ }

/-- The action with its metadata written in the order of the given entries. -/
def jsonWith (a : Action) (metadata : List (String × Value)) : Json :=
  .object
    [("id", .string a.id), ("action_type", a.kind.toJson), ("name", .string a.name),
      ("enabled", .bool a.enabled), ("delay_before_ms", .int (.ofWord a.delayBefore)),
      ("delay_after_ms", .int (.ofWord a.delayAfter)),
      ("repeat_count", .nat a.repeatCount.toNat),
      ("coordinates", a.coordinates.elim .null Coordinates.toJson),
      ("color", a.color.elim .null Color.toJson), ("mouse_button", .string a.button),
      ("key", Json.stringOrNull a.key),
      ("metadata", .object (metadata.map fun entry => (entry.1, entry.2.json)))]

def toJson (a : Action) : Json :=
  a.jsonWith a.metadata.toList

/-- Whether two actions are the same, with the two floating zeros taken as one number. -/
def same (a b : Action) : Bool :=
  a.toJson.same b.toJson

end ActionBoard.Action
