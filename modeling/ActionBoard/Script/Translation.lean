import ActionBoard.Board.Basic
import ActionBoard.Number.DecimalText
import ActionBoard.Script.Basic
import ActionBoard.Script.Diagnostic
import ActionBoard.Script.KeyName
import ActionBoard.Text.Search

/-!
# From scripts to boards

Every command becomes one action.  Clicks, moves of the pointer, sent keys and waits become actions
of their kinds; the call of a function of the script becomes the call of a row; whatever cannot be
acted on is logged with the text of the command.  So the board follows the script line by line.

The main row holds the top level of the script.  A script without one runs its first hotkey, or else
its function `Main`.  Every function has a subroutine row of its own, which is named by the
function's name in small letters.
-/

namespace ActionBoard.Script

/-! ## Arguments -/

/-- The whole number that an argument gives, in quotes or not. -/
def intArgument? (argument : String) : Option Int :=
  Text.int64Of? (Text.trim (Text.strip (· == '"') (Text.trim argument.toList)))

/-- The number that an argument gives, in quotes or not. -/
def numberArgument? (argument : String) : Option Binary64 :=
  Binary64.ofDecimalText? (Text.strip (· == '"') (Text.trim argument.toList))

/-- A coordinate; zero with a warning, where it is out of range. -/
def coordinate (c : Command) (n : Int) : Int32 × List Diagnostic :=
  if -0x80000000 ≤ n && n < 0x80000000 then
    (.ofInt n, [])
  else
    (0, [.warning ("Coordinate out of range in " ++ c.name ++ ": " ++ Text.intText n) c.line])

/-- The point that the first two whole numbers among the arguments give; the origin, if
there are not two. -/
def pointArgument (c : Command) : Coordinates × List Diagnostic :=
  match c.args.filterMap intArgument? with
  | x :: y :: _ =>
    let (x, fromX) := coordinate c x
    let (y, fromY) := coordinate c y
    (⟨x, y⟩, fromX ++ fromY)
  | _ => (⟨0, 0⟩, [])

/-- The mouse button that a word names. -/
def buttonOf? (argument : String) : Option String :=
  let word := Text.lower (String.ofList (Text.strip (· == '"') (Text.trim argument.toList)))
  if word = "left" || word = "l" then some "left"
  else if word = "right" || word = "r" then some "right"
  else if word = "middle" || word = "m" then some "middle"
  else none

/-- The first mouse button among the arguments. -/
def buttonArgument (args : List String) : String :=
  (args.findSome? buttonOf?).getD Action.defaultButton

/-! ## Commands -/

/-- Words that steer a script; they are logged. -/
def controlKeywords : List String :=
  ["if", "for", "loop", "switch", "try", "catch", "throw", "return", "continue", "break", "else",
    "finally"]

/-- Commands that are known but cannot be acted on; they are logged. -/
def informationalCommands : List String :=
  ["winexist", "winactivate", "winwaitactive", "clipboard", "fileread", "fileappend", "filedelete",
    "fileexist", "msgbox", "comobject", "map", "array", "instr", "strsplit", "substr", "trim"]

def defaultPixelTimeout : Int := 5000

def defaultPixelInterval : Int := 100

/-- A whole number of 64 bits with a sign as a value. -/
def intValue (n : Int) : Value :=
  ((WideInt.ofInt? n).map Value.int).getD .null

/-- The identifier of the row of a function. -/
def functionRowId (name : String) : String :=
  "row_fn_" ++ Text.lower name

/-- The identifier of the action of a command. -/
def actionId (c : Command) : String :=
  "script_line_" ++ Text.natText c.line ++ "_" ++ Text.lower c.name

/-- An action that logs the text of a command. -/
def logAction (c : Command) (name level : String) : Action :=
  ((Action.new (actionId c) .log name).withMeta "message" (.string c.raw)).withMeta "log_level"
    (.string level)

/-- An action that watches a pixel. -/
def watchAction (c : Command) (name : String) (place : Coordinates) (timeout interval : Int) :
    Action :=
  (((Action.new (actionId c) .waitPixelChange name).withCoordinates place).withMeta "timeout_ms"
    (intValue timeout)).withMeta "check_interval_ms" (intValue interval)

/-- An action that waits. -/
def waitAction (c : Command) (name : String) (duration : Int) : Action :=
  (Action.new (actionId c) .waitTime name).withMeta "wait_ms" (intValue duration)

/-- The action that calls a function of the script. -/
def callAction (c : Command) : Action :=
  ((Action.new (actionId c) .runRow ("Call " ++ c.name)).withMeta "row_id"
    (.string (functionRowId c.name))).withMeta "wait_complete" (.bool true)

/-- How many milliseconds an argument in seconds gives; a second without one. -/
def clipDuration (c : Command) : Int :=
  let seconds := (c.args.head?.bind numberArgument?).getD (.ofNat 1)
  (seconds.scaleBy (.ofNat 1000)).orZero.toInt64

/-- The action of a command that is logged, with what there is to report. -/
def loggedCommand (c : Command) : Action × List Diagnostic :=
  let name := Text.lower c.name
  if Text.contains ":=".toList c.raw.toList then (logAction c "Assign" "DEBUG", [])
  else if controlKeywords.contains name then (logAction c c.name "DEBUG", [])
  else if informationalCommands.contains name then (logAction c c.name "INFO", [])
  else
    (logAction c ("Unsupported: " ++ c.name) "WARNING",
      [.info ("Unsupported command in emulation: " ++ c.name) c.line])

/-- The action of a command that calls no function of the script, with what there is to report. -/
def builtinCommand (c : Command) : Action × List Diagnostic :=
  let start (kind : ActionKind) (name : String) : Action := Action.new (actionId c) kind name
  let argument (i : Nat) (default : Int) : Int := ((c.args[i]?).bind intArgument?).getD default
  match Text.lower c.name with
  | "click" =>
    let (place, found) := pointArgument c
    (((start .mouseClick "Click").withCoordinates place).withButton (buttonArgument c.args), found)
  | "mousemove" =>
    let (place, found) := pointArgument c
    ((start .mouseMove "MouseMove").withCoordinates place, found)
  | "send" | "sendinput" | "sendtext" | "sendevent" =>
    let key := (c.args.head?.map fun a => mapSentKey a.toList).getD ""
    ((start .keyPress c.name).withKey key, [])
  | "sleep" => (waitAction c "Sleep" (max (argument 0 0) 0), [])
  | "pixelwaitchange" =>
    let (place, found) := pointArgument c
    (watchAction c "PixelWaitChange" place (argument 2 defaultPixelTimeout)
      (argument 3 defaultPixelInterval), found)
  | "clipwait" => (waitAction c "ClipWait" (clipDuration c), [])
  | "pixelgetcolor" | "pixelsearch" =>
    let (place, found) := pointArgument c
    (watchAction c c.name place defaultPixelTimeout defaultPixelInterval, found)
  | _ => loggedCommand c

/-- The action of a command, with what there is to report.  A name that is declared as a function is
a call of it, whatever else it could be; names of functions are told apart by case. -/
def commandAction (functions : Declarations Function) (c : Command) : Action × List Diagnostic :=
  if functions.names.contains c.name then (callAction c, []) else builtinCommand c

/-! ## Boards -/

def mainRowId : String := "row_main"

/-- The commands that the main row is made from. -/
def mainCommands (script : Script) : List Command :=
  if !script.topLevel.isEmpty then script.topLevel
  else
    match script.hotkeys with
    | (_, body) :: _ => body
    | [] => if script.functions.names.contains "Main" then [⟨"Main", [], "Main()", 0⟩] else []

/-- A row with the actions of commands. -/
def rowOf (functions : Declarations Function) (row : Row) (commands : List Command) : Row :=
  { row with actions := commands.map fun c => (commandAction functions c).1 }

/-- What there is to report about commands. -/
def reportOf (functions : Declarations Function) (commands : List Command) : List Diagnostic :=
  commands.flatMap fun c => (commandAction functions c).2

/-- The row of a function. -/
def functionRow (functions : Declarations Function) (entry : String × Function) : Row :=
  rowOf functions (Row.new (functionRowId entry.1) ("Fn: " ++ entry.1)).asSubroutine entry.2.body

/-- The rows of the board of a script. -/
def rows (script : Script) : List Row :=
  rowOf script.functions (Row.new mainRowId "Script Main") script.mainCommands
    :: script.functions.map (functionRow script.functions)

/-- What there is to report about the translation of a script. -/
def report (script : Script) : List Diagnostic :=
  reportOf script.functions script.mainCommands
    ++ script.functions.flatMap fun entry => reportOf script.functions entry.2.body

/-- The board that follows a script. -/
def toBoard (script : Script) (id name : String) (now : UtcTime) : Board :=
  { Board.new id name now with rows := script.rows }

end ActionBoard.Script
