import ActionBoard.Board.Document
import ActionBoard.Identifier
import ActionBoard.Macro.Line
import ActionBoard.Script.Source
import ActionBoard.Script.Translation

/-!
# Importing macros

A macro becomes a board of one row.  Lines that are empty, and lines that begin like a comment or a
directive, are passed over.

What is imported may also be a saved board, or a script: a text that begins with a brace
is taken for the document of a board, and a text in which no line says anything as a macro
is read as a script.
-/

namespace ActionBoard.Macro

/-- The name of a board for which no other name is given. -/
def defaultBoardName : String := "Imported Board"

/-- What the lines of a macro say. -/
def macroLines (text : List Char) : List Line :=
  ((Text.lines text).map Text.trim).filterMap fun line =>
    match line with
    | [] => none
    | c :: _ => if c == ';' || c == '#' then none else Line.ofText? line

/-- The actions of lines, with identifiers that count from `index`. -/
def numberedActions (stamp : Stamp) (index : Nat) : List Line → List Action
  | [] => []
  | line :: lines =>
    line.toAction (stamp.identifier "action" index) :: numberedActions stamp (index + 1) lines

/-- The board of a macro. -/
def importText (stamp : Stamp) (boardName : String) (text : String) : Board :=
  let row := Row.new (stamp.identifier "row" 1) "Imported Row"
  let actions := numberedActions stamp 2 (macroLines text.toList)
  { Board.new (stamp.identifier "board" 0) boardName stamp.now with rows := [{ row with actions }] }

/-- The board of a text that may be a saved board, a macro or a script. -/
def importContent (stamp : Stamp) (boardName : String) (content : String) :
    Except DocumentFault Board :=
  let text := Text.withoutMarks content.toList
  if (skipBlanks text).head? = some '{' then
    Board.ofDocument .standard stamp.now (String.ofList text)
  else
    let text := String.ofList text
    let board := importText stamp boardName text
    if 0 < board.actionCount then .ok board
    else .ok ((Script.ofText text).toBoard stamp.scriptBoardId boardName stamp.now)

end ActionBoard.Macro
