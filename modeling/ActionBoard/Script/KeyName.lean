import ActionBoard.Text.Blank
import ActionBoard.Text.Case

/-!
# Names of keys in scripts

A script names a key by a word, which may stand in braces, and puts the signs of the modifiers to be
held before it.  The key descriptor of an action joins the names of modifiers and key by plus signs.
-/

namespace ActionBoard.Script

/-- The words whose keys have names of their own. -/
def keyNames : List (String × String) :=
  [("LButton", "left"), ("RButton", "right"), ("MButton", "middle"), ("Enter", "enter"),
    ("Tab", "tab"), ("Space", "space"), ("BackSpace", "backspace"), ("Delete", "delete"),
    ("Home", "home"), ("End", "end"), ("PgUp", "pageup"), ("PgDn", "pagedown"), ("Up", "up"),
    ("Down", "down"), ("Left", "left"), ("Right", "right"), ("F1", "f1"), ("F2", "f2"),
    ("F3", "f3"), ("F4", "f4"), ("F5", "f5"), ("F6", "f6"), ("F7", "f7"), ("F8", "f8"),
    ("F9", "f9"), ("F10", "f10"), ("F11", "f11"), ("F12", "f12")]

/-- The modifier that a sign stands for. -/
def modifier? : Char → Option String
  | '^' => some "ctrl"
  | '+' => some "shift"
  | '!' => some "alt"
  | '#' => some "win"
  | _ => none

def isModifier (c : Char) : Bool :=
  (modifier? c).isSome

def isBrace (c : Char) : Bool :=
  c == '{' || c == '}'

/-- The name of the key of a word; a word that is not known names its key itself, in small
letters. -/
def keyName (word : String) : String :=
  (keyNames.lookup word).getD (Text.lower word)

/-- The text in braces that enclose it as a whole. -/
def withoutBraces (text : List Char) : List Char :=
  match text with
  | '{' :: rest => if rest.getLast? = some '}' then rest.dropLast else text
  | _ => text

/-- The names that a key with its modifiers stands for. -/
def keyParts (text : List Char) : List String :=
  let text := withoutBraces text
  let modifiers := (text.takeWhile isModifier).filterMap modifier?
  let word := Text.strip isBrace (text.dropWhile isModifier)
  if word.isEmpty then modifiers else modifiers ++ [keyName (String.ofList word)]

/-- The key descriptor of a key with its modifiers. -/
def mapKey (text : List Char) : String :=
  "+".intercalate (keyParts text)

/-- The key descriptor of an argument, which may stand in quotes. -/
def mapSentKey (argument : List Char) : String :=
  mapKey (Text.strip (· == '"') (Text.trim argument))

end ActionBoard.Script
