import ActionBoard.Board.Document
import ActionBoard.Engine.Control
import ActionBoard.Host.Basic
import ActionBoard.Runner.Mode
import ActionBoard.Script.Diagnostic
import ActionBoard.Text.Utf8

/-!
# Executions of scripts

What is reported about the execution of a script.  Whatever goes wrong is a part of the report: a
script that is refused and an interpreter that cannot be started give diagnostics.
-/

namespace ActionBoard

/-- The report about a script that was to be executed. -/
structure Execution where
  success : Bool
  mode : ExecutedMode
  returnCode : Int32 := 0
  output : String := ""
  errors : String := ""
  diagnostics : List Diagnostic
  /-- The board that was emulated. -/
  board : Option Board := none
  outcomes : List Outcome := []

namespace Execution

/-- A script that was refused. -/
def refused (diagnostics : List Diagnostic) : Execution :=
  { success := false, mode := .refused, diagnostics }

/-- A script that was to be run natively without an interpreter. -/
def withoutInterpreter (diagnostics : List Diagnostic) : Execution :=
  { success := false, mode := .native
    diagnostics := diagnostics ++ [.error "AutoHotkey executable not found" 0] }

/-! ## Native executions -/

/-- The code that is reported for a program that ended without one. -/
def noCode : Int32 := -1

def codeOf : Ending → Int32
  | .exited code => .ofNat code.toNat
  | .killed | .timedOut | .lost _ => noCode

/-- The error of an interpreter that could not be run to its end. -/
def failedRun (e : FileError) : Diagnostic :=
  .error ("Native run failed: " ++ e.message) 0

/-- What there is to say about the end of the interpreter. -/
def endingDiagnostics : Ending → List Diagnostic
  | .timedOut => [.error "Native AHK execution timeout" 0]
  | .lost e => [failedRun e]
  | .exited _ | .killed => []

/-- What is reported as errors; of an interpreter that wrote none before it was stopped at least
that. -/
def errorText (report : ProcessReport) : String :=
  let text := Text.decode report.errors
  if report.ending = .timedOut && text.isEmpty then "Timeout" else text

/-- The execution by an interpreter. -/
def ofProcess (diagnostics : List Diagnostic) : Except FileError ProcessReport → Execution
  | .error e =>
    { success := false, mode := .native, returnCode := noCode, errors := e.message
      diagnostics := diagnostics ++ [failedRun e] }
  | .ok report =>
    { success := report.ending = .exited 0, mode := .native
      returnCode := codeOf report.ending
      output := Text.decode report.output, errors := errorText report
      diagnostics := diagnostics ++ endingDiagnostics report.ending }

/-! ## Emulated executions -/

/-- The execution of a board on an engine. -/
def ofEmulation (board : Board) (diagnostics : List Diagnostic) : RunResult → Execution
  | .error e =>
    { success := false, mode := .emulated, board := some board
      diagnostics := diagnostics ++ [.error ("Emulation failed: " ++ e.message) 0] }
  | .ok outcomes =>
    { success := outcomes.all Outcome.success, mode := .emulated, board := some board
      diagnostics, outcomes }

/-! ## As JSON -/

def toJson (e : Execution) : Json :=
  .object
    [("success", .bool e.success), ("mode", .string e.mode.name),
      ("return_code", .int (.ofInt32 e.returnCode)),
      ("stdout", .string e.output), ("stderr", .string e.errors),
      ("diagnostics", .array (e.diagnostics.map Diagnostic.toJson)),
      ("board", (e.board.map (Board.toJson .standard)).getD .null),
      ("results", .array (e.outcomes.map Outcome.toJson))]

end Execution

end ActionBoard
