import ActionBoard.Script.Argument
import ActionBoard.Script.Basic
import ActionBoard.Text.Split
import ActionBoard.Text.Word

/-!
# What a line of a script is

A line, without its comment and without white space at its ends, is one of several constructs.  They
are tried in a fixed order, and the first that fits is taken; a line that fits none is a command.

The order matters where a line fits several: a line with a label is a hotkey also if it begins with
a number sign, and a call with a brace behind it is the header of a function and no command.
-/

namespace ActionBoard.Script

/-! ## Pieces of lines -/

/-- The text behind at least one blank, without the blanks. -/
def afterBlanks? : List Char → Option (List Char)
  | [] => none
  | c :: rest => if Text.isBlank c then some (Text.stripStart Text.isBlank rest) else none

/-- The text behind a word in any case and the blanks that have to follow it. -/
def afterKeyword? (word : List Char) (text : List Char) : Option (List Char) :=
  (Text.dropWord? word text).bind afterBlanks?

/-- The name at the start of a text, and what follows it. -/
def readName? : List Char → Option (List Char × List Char)
  | [] => none
  | c :: rest =>
    if Text.startsName c then
      some (c :: rest.takeWhile Text.isWord, rest.dropWhile Text.isWord)
    else
      none

/-- The text without the character at its end, which has to be the given one. -/
def dropLast? (c : Char) (text : List Char) : Option (List Char) :=
  if text.getLast? = some c then some text.dropLast else none

/-- Whether a text stays within one line. -/
def isOneLine (text : List Char) : Bool :=
  !text.contains '\n'

/-- A name with what stands in the parentheses behind it, where the last character closes them. -/
def readCall? (text : List Char) : Option (List Char × List Char) := do
  let (name, rest) ← readName? text
  match rest with
  | '(' :: inner =>
    let inner ← dropLast? ')' inner
    if isOneLine inner then some (name, inner) else none
  | _ => none

/-! ## Constructs -/

/-- The version in a directive that requires one. -/
def requiredVersion? (line : List Char) : Option String := do
  let rest ← afterKeyword? "#requires".toList line
  let rest ← afterKeyword? "autohotkey".toList rest
  let rest ← Text.dropWord? ['v'] rest
  let version := rest.takeWhile fun c => Text.isDigit c || c == '.'
  if version.isEmpty then none else some (String.ofList version)

/-- The text before the first double colon that does not begin the text, and the text behind it. -/
def splitLabel? : List Char → Option (List Char × List Char)
  | [] => none
  | c :: rest =>
    match rest with
    | ':' :: ':' :: body => some ([c], body)
    | _ => (splitLabel? rest).map fun (label, body) => (c :: label, body)

/-- Whether there is a double colon in a text. -/
def hasLabelMark : List Char → Bool
  | ':' :: ':' :: _ => true
  | _ :: rest => hasLabelMark rest
  | [] => false

/-- A name with the text assigned to it by `:=` or `=`. -/
def readAssignment? (text : List Char) : Option (String × String) := do
  let (name, rest) ← readName? text
  let rest := Text.stripStart Text.isBlank rest
  let rest := match rest with
    | ':' :: rest => rest
    | _ => rest
  match rest with
  | '=' :: value =>
    let value := Text.trim value
    if value.isEmpty then none else some (String.ofList name, String.ofList value)
  | _ => none

/-- The parameters in the parentheses of a header. -/
def parameters (text : List Char) : List String :=
  (((Text.splitAt ',' text).map Text.trim).filter fun p => !p.isEmpty).map String.ofList

/-- The name and the parameters of a function that begins with this line. -/
def readHeader? (line : List Char) : Option (String × List String) := do
  let head ← dropLast? '{' line
  let (name, params) ← readCall? (Text.stripEnd Text.isBlank head)
  some (String.ofList name, parameters params)

/-- What a line of a script is. -/
inductive Construct where
  | requires (version : String)
  | directive
  /-- Declares the globals of a list. -/
  | globals (list : List Char)
  | function (name : String) (params : List String)
  /-- A label with what stands behind it. -/
  | hotkey (label : String) (body : List Char)
  | assignment (name value : String)
  | command
  deriving DecidableEq

/-- The construct of a line. -/
def Construct.ofLine (line : List Char) : Construct :=
  if let some version := requiredVersion? line then .requires version
  else if line.head? = some '#' && !hasLabelMark line then .directive
  else if let some list := afterKeyword? "global".toList line then .globals list
  else if let some (name, params) := readHeader? line then .function name params
  else if let some (label, body) := splitLabel? line then
    .hotkey (String.ofList (Text.trim label)) (Text.trim body)
  else if let some (name, value) := readAssignment? line then .assignment name value
  else .command

/-! ## Commands -/

/-- What ends the name of a command without parentheses. -/
def endsCommandName (c : Char) : Bool :=
  Text.isBlank c || c == ','

/-- A command: a call, or else a name followed by arguments. -/
def Command.ofText (text : List Char) (line : Nat) : Command :=
  match readCall? text with
  | some (name, args) =>
    ⟨String.ofList name, arguments args, String.ofList text, line⟩
  | none =>
    let name := text.takeWhile fun c => !endsCommandName c
    let rest := text.dropWhile fun c => !endsCommandName c
    ⟨String.ofList name, arguments (rest.dropWhile endsCommandName), String.ofList text, line⟩

end ActionBoard.Script
