import ActionBoard.Json.Basic
import ActionBoard.Number.Shortest

/-!
# JSON text

Two layouts are written.  The compact one has no white space and is used wherever a value becomes
part of a message.  The indented one, with two spaces for every level, is used for documents; an
array or an object without members stays on one line.

In strings only the quote, the backslash and the control characters of ASCII are escaped, all other
characters stand for themselves.
-/

namespace ActionBoard.Json

def hexDigit (n : Nat) : Char :=
  if n < 10 then Char.ofNat ('0'.toNat + n) else Char.ofNat ('a'.toNat + (n - 10))

/-- A character inside a string. -/
def escape (c : Char) : List Char :=
  if c == '"' then ['\\', '"']
  else if c == '\\' then ['\\', '\\']
  else if c == '\x08' then ['\\', 'b']
  else if c == '\x0c' then ['\\', 'f']
  else if c == '\n' then ['\\', 'n']
  else if c == '\r' then ['\\', 'r']
  else if c == '\t' then ['\\', 't']
  else if c < ' ' then ['\\', 'u', '0', '0', hexDigit (c.toNat / 16), hexDigit (c.toNat % 16)]
  else [c]

def quoted (s : String) : List Char :=
  '"' :: s.toList.flatMap escape ++ ['"']

def numberText : JsonNumber → List Char
  | .int n => Text.decimalInt n.val
  | .float x => x.text documentLayout

/-! ## Without white space -/

mutual

def compact : Json → List Char
  | .null => "null".toList
  | .bool true => "true".toList
  | .bool false => "false".toList
  | .number n => numberText n
  | .string s => quoted s
  | .array [] => ['[', ']']
  | .array (item :: items) => '[' :: compact item ++ compactItems items
  | .object [] => ['{', '}']
  | .object ((name, value) :: members) =>
    '{' :: quoted name ++ ':' :: compact value ++ compactMembers members

/-- The further items of an array and its end. -/
def compactItems : List Json → List Char
  | [] => [']']
  | item :: items => ',' :: compact item ++ compactItems items

/-- The further members of an object and its end. -/
def compactMembers : List (String × Json) → List Char
  | [] => ['}']
  | (name, value) :: members =>
    ',' :: quoted name ++ ':' :: compact value ++ compactMembers members

end

/-! ## Indented -/

/-- A new line at a level of nesting. -/
def newLine (level : Nat) : List Char :=
  '\n' :: List.replicate (2 * level) ' '

mutual

def indented (level : Nat) : Json → List Char
  | .null => "null".toList
  | .bool true => "true".toList
  | .bool false => "false".toList
  | .number n => numberText n
  | .string s => quoted s
  | .array [] => ['[', ']']
  | .array (item :: items) =>
    '[' :: newLine (level + 1) ++ indented (level + 1) item ++ indentedItems level items
  | .object [] => ['{', '}']
  | .object ((name, value) :: members) =>
    '{' :: newLine (level + 1) ++ quoted name ++ ':' :: ' ' :: indented (level + 1) value
      ++ indentedMembers level members

/-- The further items of an array that stands at a level, and its end. -/
def indentedItems (level : Nat) : List Json → List Char
  | [] => newLine level ++ [']']
  | item :: items =>
    ',' :: newLine (level + 1) ++ indented (level + 1) item ++ indentedItems level items

/-- The further members of an object that stands at a level, and its end. -/
def indentedMembers (level : Nat) : List (String × Json) → List Char
  | [] => newLine level ++ ['}']
  | (name, value) :: members =>
    ',' :: newLine (level + 1) ++ quoted name ++ ':' :: ' ' :: indented (level + 1) value
      ++ indentedMembers level members

end

/-- The text of a tree on one line. -/
def text (json : Json) : String :=
  String.ofList json.compact

/-- The text of a document. -/
def document (json : Json) : String :=
  String.ofList (json.indented 0)

end ActionBoard.Json

namespace ActionBoard.Value

/-- A value as it appears in messages: texts as they are, null as nothing, all else as JSON. -/
def text (v : Value) : String :=
  match v.json with
  | .null => ""
  | .string s => s
  | json => json.text

end ActionBoard.Value
