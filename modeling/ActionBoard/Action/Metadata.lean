import ActionBoard.Action.Basic
import ActionBoard.Json.Printer
import ActionBoard.Number.DecimalText
import ActionBoard.Text.Case

/-!
# Reading the metadata of an action

Metadata is written by hand and by several tools, so its readers are tolerant about form: a number
may be written as a text, a fraction where a whole number is meant, a truth value as a word.  An
entry that is null counts as absent everywhere.

Whole numbers are read into 64 bits with a sign.  What is larger, or has a fraction, goes through a
binary64 number and is then cut and clipped, so that no number of any size is refused.
-/

namespace ActionBoard

namespace JsonNumber

/-- The number as a whole number of 64 bits with a sign: exactly where that is possible, and
otherwise cut and clipped. -/
def toInt64 : JsonNumber → Int
  | .int n => if n.val < 0x8000000000000000 then n.val else (Binary64.ofInt n.val).toInt64
  | .float x => x.toInt64

end JsonNumber

namespace Value

/-- The whole number that a value stands for. -/
def toInt64? (v : Value) : Option Int :=
  match v.json with
  | .number n => some n.toInt64
  | .string s =>
    let text := Text.trim s.toList
    (Text.int64Of? text).or ((Binary64.ofDecimalText? text).map Binary64.toInt64)
  | .bool b => some (if b then 1 else 0)
  | _ => none

/-- The number that a value stands for. -/
def toBinary64? (v : Value) : Option Binary64 :=
  match v.json with
  | .number n => some n.toBinary64
  | .string s => Binary64.ofDecimalText? (Text.trim s.toList)
  | _ => none

/-- The truth value that a word stands for; the empty word is false. -/
def truthOfWord? (word : String) : Option Bool :=
  if ["true", "yes", "on", "1"].contains word then some true
  else if ["false", "no", "off", "0", ""].contains word then some false
  else none

/-- The truth value that a value stands for; a number is true unless it is zero. -/
def toBool? (v : Value) : Option Bool :=
  match v.json with
  | .bool b => some b
  | .number n => some !n.toBinary64.isZero
  | .string s => truthOfWord? (Text.lower (Text.trimmed s))
  | _ => none

end Value

namespace Action

/-- A metadata entry that is not null. -/
def meta? (a : Action) (key : String) : Option Value :=
  (a.metadata.find? key).filter fun value => !value.isNull

/-- An entry as text. -/
def metaText? (a : Action) (key : String) : Option String :=
  (a.meta? key).map Value.text

/-- An entry as text without white space at its ends; the default, where nothing is left of it. -/
def metaTextOr (a : Action) (key default : String) : String :=
  match a.metaText? key with
  | some text => if Text.allBlank text then default else Text.trimmed text
  | none => default

/-- An entry as a whole number of 64 bits with a sign. -/
def metaInt? (a : Action) (key : String) : Option Int :=
  (a.meta? key).bind Value.toInt64?

/-- An entry as a natural number; a negative number counts as zero. -/
def metaNat? (a : Action) (key : String) : Option Nat :=
  (a.metaInt? key).map Int.toNat

/-- An entry as a number with a fraction. -/
def metaBinary64? (a : Action) (key : String) : Option Binary64 :=
  (a.meta? key).bind Value.toBinary64?

/-- An entry as a truth value. -/
def metaBool? (a : Action) (key : String) : Option Bool :=
  (a.meta? key).bind Value.toBool?

end Action

end ActionBoard
