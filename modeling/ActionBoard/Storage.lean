import ActionBoard.Host.Program
import ActionBoard.Macro.Import

/-!
# Boards and scripts in files

Boards are loaded and saved, scripts are loaded, and what may be one or the other is imported.  A
file whose name ends in `.json` holds a board; of any other its content decides.

Saving a board makes the directories that are missing on the way to its file.
-/

namespace ActionBoard

/-- Why something could not be loaded or saved. -/
inductive StorageError where
  | unreadableBoard (path : String) (error : FileError)
  | unwritableBoard (path : String) (error : FileError)
  | faultyBoard (fault : DocumentFault)
  | unreadableScript (path : String) (error : FileError)
  deriving DecidableEq

namespace DocumentFault

def message : DocumentFault → String
  | malformed => "the text is not well-formed"
  | illTyped => "the text does not have the form of a board"

end DocumentFault

namespace StorageError

/-- What the error comes from. -/
def cause : StorageError → String
  | unreadableBoard _ e | unwritableBoard _ e | unreadableScript _ e => e.message
  | faultyBoard fault => fault.message

/-- What could not be done. -/
def subject : StorageError → String
  | unreadableBoard path _ => "failed to read board " ++ path
  | unwritableBoard path _ => "failed to write board " ++ path
  | faultyBoard _ => "failed to parse board document"
  | unreadableScript path _ => "failed to read script " ++ path

def message (e : StorageError) : String :=
  e.subject ++ ": " ++ e.cause

end StorageError

/-- Something that works with files and may fail. -/
abbrev StorageProgram := ExceptT StorageError HostProgram

/-- The text of a file. -/
def readStored (path : String) (onError : FileError → StorageError) : StorageProgram String :=
  ExceptT.mk ((HostProgram.readText path).bind fun content => .done (content.mapError onError))

namespace Board

/-- The board that was saved in a file. -/
def load (now : UtcTime) (path : String) : StorageProgram Board := do
  let content ← readStored path (.unreadableBoard path)
  let text := String.ofList (Text.withoutMarks content.toList)
  liftM ((Board.ofDocument .standard now text).mapError StorageError.faultyBoard)

/-- Saves a board in a file. -/
def save (board : Board) (path : String) : StorageProgram Unit := do
  ExceptT.mk <| (HostProgram.makeParent path).bind fun made => .done <|
    made.mapError fun (parent, e) => .unwritableBoard parent e
  ExceptT.mk <| .ask (.writeFile path (board.document .standard)) fun written => .done <|
    written.mapError (.unwritableBoard path)

end Board

/-- The script in a file. -/
def Script.load (path : String) : StorageProgram Script := do
  return Script.ofText (← readStored path (.unreadableScript path))

/-- Loading a script is reading its file; every text is one. -/
theorem Script.run_load (path : String) :
    (Script.load path).run =
      (HostProgram.readText path).bind fun content =>
        .done ((content.mapError (.unreadableScript path)).map Script.ofText) := by
  show Dialogue.bind (Dialogue.bind _ _) _ = _
  rw [Dialogue.bind_assoc]
  congr 1
  funext content
  cases content with
  | error e => rfl
  | ok text => rfl

namespace Macro

/-- The board of a file that may hold a saved board, a macro or a script. -/
def load (stamp : Stamp) (boardName : String) (path : String) : StorageProgram Board :=
  if Path.hasExtension path "json" then Board.load stamp.now path
  else do
    let content ← readStored path (.unreadableScript path)
    liftM ((importContent stamp boardName content).mapError StorageError.faultyBoard)

end Macro

end ActionBoard
