import ActionBoard.Number.DecimalText
import ActionBoard.Text.Word

/-!
# YAML trees and plain scalars

A YAML text stands for a tree of sequences, mappings and scalars, where any node may carry a local
tag.  A scalar without quotes is what it looks like: null, a truth value, a number, or else a text
(`Yaml.ofPlain?`).  Digits after a leading zero look like a text, as do numbers with any other signs
than those of the number forms.

Whole numbers have 64 bits, with or without a sign.  One that would need more, but not more than
128, is refused; an even larger one is rounded to a binary64 number.
-/

namespace ActionBoard

/-- A YAML text as a tree. -/
inductive Yaml where
  | null
  | bool (b : Bool)
  | int (n : Int)
  | float (x : Binary64)
  | string (s : String)
  | sequence (items : List Yaml)
  | mapping (members : List (Yaml × Yaml))
  | tagged (tag : String) (value : Yaml)
  deriving Inhabited

/-- A reader of YAML texts: the tree that a text stands for, if it can be read. -/
abbrev YamlReader := List Char → Option Yaml

namespace Yaml

mutual

/-- Whether two trees are equal as keys. -/
def same : Yaml → Yaml → Bool
  | null, null => true
  | bool a, bool b => a == b
  | int m, int n => m == n
  | float x, float y => (x.isNaN && y.isNaN) || x.sameNumber y
  | string s, string t => s == t
  | sequence xs, sequence ys => sameAll xs ys
  | mapping xs, mapping ys => sameMembers xs ys
  | tagged s x, tagged t y => s == t && x.same y
  | _, _ => false

def sameAll : List Yaml → List Yaml → Bool
  | [], [] => true
  | x :: xs, y :: ys => x.same y && sameAll xs ys
  | _, _ => false

def sameMembers : List (Yaml × Yaml) → List (Yaml × Yaml) → Bool
  | [], [] => true
  | (k, x) :: xs, (l, y) :: ys => k.same l && x.same y && sameMembers xs ys
  | _, _ => false

end

/-- The value of a member of a mapping. -/
def member? (name : String) : List (Yaml × Yaml) → Option Yaml
  | [] => none
  | (key, value) :: rest => if key.same (string name) then some value else member? name rest

/-- The tree below all tags. -/
def untagged : Yaml → Yaml
  | tagged _ value => value.untagged
  | value => value

/-! ## Numbers -/

/-- The value of a digit in a base up to sixteen. -/
def digitIn? (base : Nat) (c : Char) : Option Nat :=
  let value :=
    if Text.isAsciiDigit c then c.toNat - '0'.toNat
    else if 'a' ≤ c && c ≤ 'f' then c.toNat - 'a'.toNat + 10
    else if 'A' ≤ c && c ≤ 'F' then c.toNat - 'A'.toNat + 10
    else 16
  if value < base then some value else none

/-- The number written by a non-empty row of digits. -/
def digitsIn? (base : Nat) (digits : List Char) : Option Nat :=
  if digits.isEmpty then none
  else digits.foldlM (fun value c => (digitIn? base c).map (base * value + ·)) 0

/-- Whether a text is made of digits with a needless zero in front, which makes it no number. -/
def hasNeedlessZero (text : List Char) : Bool :=
  let digits := match text with
    | '-' :: rest | '+' :: rest => rest
    | _ => text
  1 < digits.length && digits.head? == some '0' && digits.all Text.isAsciiDigit

/-- The number written in a base that a mark behind the leading zero tells, or else in decimal. -/
def magnitude? (text : List Char) : Option Nat :=
  match text with
  | '0' :: 'x' :: digits => digitsIn? 16 digits
  | '0' :: 'o' :: digits => digitsIn? 8 digits
  | '0' :: 'b' :: digits => digitsIn? 2 digits
  | _ => digitsIn? 10 text

/-- The whole number that a text looks like. -/
def wholeNumber? (text : List Char) : Option Int :=
  if hasNeedlessZero text then none
  else
    match text with
    | '+' :: rest => (magnitude? rest).map Int.ofNat
    | '-' :: rest => (magnitude? rest).map fun n => -Int.ofNat n
    | _ => (magnitude? text).map Int.ofNat

/-- The number with a fraction that a text looks like. -/
def fraction? (text : List Char) : Option Binary64 :=
  if hasNeedlessZero text then none
  else
    let unsigned := match text with
      | '+' :: rest => rest
      | _ => text
    if [".inf", ".Inf", ".INF"].contains (String.ofList unsigned) then some .infinity
    else if ["-.inf", "-.Inf", "-.INF"].contains (String.ofList text) then
      some Binary64.infinity.negate
    else if [".nan", ".NaN", ".NAN"].contains (String.ofList text) then some .nan
    else if text.head? == some '+' && (unsigned.head? == some '+' || unsigned.head? == some '-')
      then
      none
    else
      (Binary64.ofDecimalText? unsigned).filter fun x => !x.isNaN && !x.isInfinite

/-! ## Plain scalars -/

/-- What a text looks like that is no whole number. -/
def ofWord (text : List Char) : Yaml :=
  match fraction? text with
  | some x => float x
  | none => string (String.ofList text)

/-- What a scalar without quotes is; nothing, where it is a number that is refused. -/
def ofPlain? (text : List Char) : Option Yaml :=
  let word := String.ofList text
  if ["", "null", "Null", "NULL", "~"].contains word then some null
  else if ["true", "True", "TRUE"].contains word then some (bool true)
  else if ["false", "False", "FALSE"].contains word then some (bool false)
  else
    match wholeNumber? text with
    | none => some (ofWord text)
    | some n =>
      if -0x8000000000000000 ≤ n && n < 0x10000000000000000 then some (int n)
      else if -0x80000000000000000000000000000000 ≤ n && n <
        0x100000000000000000000000000000000 then none
      else some (ofWord text)

end Yaml

end ActionBoard
