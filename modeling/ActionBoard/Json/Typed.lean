import ActionBoard.Json.Basic

/-!
# Reading typed data out of JSON trees

Data with named fields may be written as an object or as an array of its fields in their order.
Unknown names are ignored, a known name given twice is refused, and an array with more items than
there are fields is refused.  What a missing field means is decided field by field
(`Fields.required`, `Fields.withDefault`).

Whole numbers have to be written as whole numbers and to lie in the range of their type.
-/

namespace ActionBoard

/-- The fields that are present, looked up by name. -/
structure Fields where
  find? : String → Option Json

namespace Fields

/-- How often a member of that name occurs. -/
def occurrences (name : String) (members : List (String × Json)) : Nat :=
  (members.filter fun member => member.1 == name).length

/-- The fields of the given names; nothing, where the tree cannot hold them. -/
def ofJson? (names : List String) : Json → Option Fields
  | .object members =>
    if names.any fun name => 1 < occurrences name members then none
    else some ⟨fun name => lookupEntry name members⟩
  | .array items =>
    if names.length < items.length then none
    else some ⟨fun name => lookupEntry name (names.zip items)⟩
  | _ => none

/-- A field that has to be present. -/
def required {α : Type} (fields : Fields) (name : String) (read : Json → Option α) : Option α :=
  (fields.find? name).bind read

/-- A field that may be missing. -/
def withDefault {α : Type} (fields : Fields) (name : String) (read : Json → Option α)
    (missing : α) : Option α :=
  match fields.find? name with
  | some json => read json
  | none => some missing

end Fields

namespace Json

def string? : Json → Option String
  | .string s => some s
  | _ => none

def bool? : Json → Option Bool
  | .bool b => some b
  | _ => none

def int? : Json → Option Int
  | .number (.int n) => some n.val
  | _ => none

/-- A natural number below a bound. -/
def natBelow? (bound : Nat) (json : Json) : Option Nat :=
  json.int?.bind fun n => if 0 ≤ n && n < bound then some n.toNat else none

def word8? (json : Json) : Option UInt8 :=
  (json.natBelow? UInt8.size).map UInt8.ofNat

def word32? (json : Json) : Option UInt32 :=
  (json.natBelow? UInt32.size).map UInt32.ofNat

def word64? (json : Json) : Option UInt64 :=
  (json.natBelow? UInt64.size).map UInt64.ofNat

def int32? (json : Json) : Option Int32 :=
  json.int?.bind fun n => if -0x80000000 ≤ n && n < 0x80000000 then some (.ofInt n) else none

/-- Null for none, and anything else has to be read. -/
def orNull {α : Type} (read : Json → Option α) : Json → Option (Option α)
  | .null => some none
  | json => (read json).map some

/-- The items of an array, each of which has to be read. -/
def list? {α : Type} (read : Json → Option α) : Json → Option (List α)
  | .array items => items.mapM read
  | _ => none

/-- The entries of an object, each of which has to be read; the last one of a name stays. -/
def dictionary? {α : Type} (read : Json → Option α) : Json → Option (Dictionary α)
  | .object members =>
    (members.mapM fun member => (read member.2).map (member.1, ·)).map Dictionary.ofList
  | _ => none

/-- The values under the names of an object. -/
def record? : Json → Option Record :=
  dictionary? fun json => some (Value.ofJson json)

end Json

end ActionBoard
