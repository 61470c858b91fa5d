import ActionBoard.Action.Basic
import ActionBoard.Script.KeyName
import ActionBoard.Text.Lines
import ActionBoard.Text.Split
import ActionBoard.Text.Word

/-!
# Lines of comma-form macros

An older form of macros has one command in a line, with a comma behind its name and commas between
its arguments: `Click, left, 10, 20`.  Five commands are known, in any case.  Every other line, and
one whose numbers are out of range, says nothing.

What stands behind the last number of a command that takes numbers is not looked at.
-/

namespace ActionBoard.Macro

/-! ## Pieces -/

/-- The text without white space at its start. -/
def skipBlanks (text : List Char) : List Char :=
  Text.stripStart Text.isBlank text

/-- The text behind a comma, which may stand between blanks. -/
def afterComma? (text : List Char) : Option (List Char) :=
  match skipBlanks text with
  | ',' :: rest => some (skipBlanks rest)
  | _ => none

/-- The text behind the name of a command and the comma after it. -/
def afterName? (name : String) (line : List Char) : Option (List Char) :=
  (Text.dropWord? name.toList line).bind afterComma?

/-- The digits at the start of a text, of which there has to be one, and what follows them. -/
def readDigits? (text : List Char) : Option (List Char × List Char) :=
  let digits := text.takeWhile Text.isDigit
  if digits.isEmpty then none else some (digits, text.dropWhile Text.isDigit)

/-- Digits with an optional minus sign. -/
def readSigned? : List Char → Option (List Char × List Char)
  | '-' :: rest => (readDigits? rest).map fun (digits, rest) => ('-' :: digits, rest)
  | text => readDigits? text

/-! ## Commands -/

/-- What a line says. -/
inductive Line where
  | click (button : String) (place : Coordinates)
  | move (place : Coordinates)
  | key (descriptor : String)
  | wait (milliseconds : UInt64)
  | loop (count : UInt64)
  deriving DecidableEq

/-- The arguments of a click: the numbers among them are coordinates, and the last argument that is
no number is the button. -/
def readClick (args : List Char) : Line :=
  let tokens := ((Text.splitAt ',' args).map Text.trim).filter fun token => !token.isEmpty
  let numbers := tokens.filterMap Text.int32Of?
  let buttons := tokens.filter fun token => (Text.int32Of? token).isNone
  let button := (buttons.getLast?.map fun b => Text.lower (String.ofList b)).getD
    Action.defaultButton
  .click button ⟨numbers[0]?.getD 0, numbers[1]?.getD 0⟩

/-- The two numbers of a move; nothing behind them counts. -/
def readMove? (args : List Char) : Option (Option Line) := do
  let (x, rest) ← readSigned? args
  let rest ← afterComma? rest
  let (y, _) ← readSigned? rest
  match Text.int32Of? x, Text.int32Of? y with
  | some x, some y => some (some (.move ⟨x, y⟩))
  | _, _ => some none

/-- The key in braces that is sent. -/
def readSend? : List Char → Option Line
  | '{' :: rest =>
    let key := rest.takeWhile (· != '}')
    if key.isEmpty || rest.length == key.length then none
    else some (.key (Script.mapKey key))
  | _ => none

/-- The number of a command that takes one. -/
def readCount? (make : UInt64 → Line) (args : List Char) : Option (Option Line) := do
  let (digits, _) ← readDigits? args
  some ((Text.word64Of? digits).map make)

/-- What a line says, if anything.  No two of the commands begin in the same way, so at most
one of them fits. -/
def Line.ofText? (line : List Char) : Option Line :=
  if let some args := afterName? "click" line then some (readClick args)
  else if let some found := (afterName? "mousemove" line).bind readMove? then found
  else if let some found := (afterName? "send" line).bind readSend? then some found
  else if let some found := (afterName? "sleep" line).bind (readCount? .wait) then found
  else if let some found := (afterName? "loop" line).bind (readCount? .loop) then found
  else none

/-- The action of a line. -/
def Line.toAction (id : String) : Line → Action
  | .click button place =>
    ((Action.new id .mouseClick "Legacy Click").withCoordinates place).withButton button
  | .move place => (Action.new id .mouseMove "Legacy Move").withCoordinates place
  | .key descriptor =>
    (Action.new id .keyPress ("Legacy Key: " ++ descriptor)).withKey descriptor
  | .wait milliseconds =>
    (Action.new id .waitTime "Legacy Wait").withMeta "wait_ms" (.word milliseconds)
  | .loop count => (Action.new id .loop "Legacy Loop").withMeta "iterations" (.word count)

end ActionBoard.Macro
