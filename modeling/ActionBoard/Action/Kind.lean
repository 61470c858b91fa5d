import ActionBoard.Json.Typed

/-!
# Kinds of actions

The kinds form a closed set.  A kind decides which handler executes an action; its name in capitals
is how it is written in documents, shown in messages and put in order.
-/

namespace ActionBoard

/-- What an action does. -/
inductive ActionKind where
  | mouseClick
  | mouseMove
  | keyPress
  | waitTime
  | waitPixelColor
  | waitPixelChange
  | waitImage
  | waitText
  | conditional
  | loop
  | screenshot
  | log
  | dbSearch
  | dbGetValue
  | dbIterate
  | dbSave
  | checkValue
  | runRow
  deriving DecidableEq, Repr

namespace ActionKind

/-- Every kind, in the order in which they are listed. -/
def all : List ActionKind :=
  [.mouseClick, .mouseMove, .keyPress, .waitTime, .waitPixelColor, .waitPixelChange, .waitImage,
    .waitText, .conditional, .loop, .screenshot, .log, .dbSearch, .dbGetValue, .dbIterate, .dbSave,
    .checkValue, .runRow]

/-- The written name of a kind. -/
def name : ActionKind → String
  | .mouseClick => "MOUSE_CLICK"
  | .mouseMove => "MOUSE_MOVE"
  | .keyPress => "KEY_PRESS"
  | .waitTime => "WAIT_TIME"
  | .waitPixelColor => "WAIT_PIXEL_COLOR"
  | .waitPixelChange => "WAIT_PIXEL_CHANGE"
  | .waitImage => "WAIT_IMAGE"
  | .waitText => "WAIT_TEXT"
  | .conditional => "CONDITIONAL"
  | .loop => "LOOP"
  | .screenshot => "SCREENSHOT"
  | .log => "LOG"
  | .dbSearch => "DB_SEARCH"
  | .dbGetValue => "DB_GET_VALUE"
  | .dbIterate => "DB_ITERATE"
  | .dbSave => "DB_SAVE"
  | .checkValue => "CHECK_VALUE"
  | .runRow => "RUN_ROW"

def ofName? (text : String) : Option ActionKind :=
  all.find? fun kind => kind.name == text

theorem mem_all (kind : ActionKind) : kind ∈ all := by
  cases kind <;> decide

/-- A kind is found again under its name. -/
theorem ofName?_name (kind : ActionKind) : ofName? kind.name = some kind := by
  cases kind <;> decide

/-- How strictly the value under the name of a kind is read, where a kind is written as an object
with its name as the only key: the value has to be null, and a buffered document lets an empty
object pass for null as well. -/
inductive UnitForm where
  | nullOnly
  | nullOrEmpty
  deriving DecidableEq

def UnitForm.admits : UnitForm → Json → Bool
  | _, .null => true
  | .nullOrEmpty, .object [] => true
  | _, _ => false

/-- The kind written as its name, or as an object with its name as the only key. -/
def ofJson? (form : UnitForm) : Json → Option ActionKind
  | .string text => ofName? text
  | .object [(text, value)] => if form.admits value then ofName? text else none
  | _ => none

def toJson (kind : ActionKind) : Json :=
  .string kind.name

end ActionKind

end ActionBoard
