import ActionBoard.Configuration.Basic
import ActionBoard.Identifier
import ActionBoard.Runner.Execution
import ActionBoard.Script.Check
import ActionBoard.Script.Translation
import ActionBoard.Storage
import ActionBoard.Text.Quoted

/-!
# Running scripts

Before a script is run, it has to pass a gate: its location has to be inside the allowed root, if
there is one, its file has to be readable, and there must not be an error in it.  The route to it is
settled first, and only what is found on that route is looked at afterwards.  A script that does not
pass is reported as refused, and neither the engine nor an interpreter has been asked for anything.

Routes are compared after every link has been followed.  For what does not exist that cannot be
done; its route is then read off its path.

A script that has passed is run natively if that is what was asked for, or if nothing was asked for
and there is an interpreter.  Otherwise it is made into a board and run on the engine.
-/

namespace ActionBoard

/-! ## What a runner asks for -/

/-- What running a script needs: the host, and an engine for the emulation. -/
inductive RunnerRequest where
  | host (request : HostRequest)
  | emulate (board : Board)

namespace RunnerRequest

abbrev Answer : RunnerRequest → Type
  | host request => request.Answer
  | emulate _ => RunResult

end RunnerRequest

/-- The running of a script, or a part of it. -/
abbrev RunnerProgram := Dialogue RunnerRequest.Answer

namespace RunnerProgram

/-- Something that only needs the host. -/
def onHost {α : Type} (program : HostProgram α) : RunnerProgram α :=
  program.translate RunnerRequest.host fun _ answer => answer

def launch (program script : String) (limit : Nat) :
    RunnerProgram (Except FileError ProcessReport) :=
  .question (RunnerRequest.host (.launch program script limit))

def emulate (board : Board) : RunnerProgram RunResult :=
  .question (RunnerRequest.emulate board)

end RunnerProgram

/-! ## The runner -/

/-- How a script is to be run. -/
structure RunOptions where
  mode : RunMode := .auto
  /-- How many milliseconds it may take natively, if not as many as usual. -/
  limit : Option Nat := none
  /-- The directory that it has to be in, if not the usual one. -/
  allowedRoot : Option String := none

/-- What runs scripts. -/
structure Runner where
  settings : ScriptSettings := {}
  /-- Whether scripts are checked for their native platform. -/
  nativePlatform : Bool := false
  /-- What boards are marked with. -/
  stamp : Stamp

/-- A script that passed the gate. -/
structure Admission where
  script : Script
  diagnostics : List Diagnostic

namespace Runner

/-- The environment variable that names the interpreter. -/
def interpreterVariable : String := "AUTOHOTKEY_EXE"

/-- The name of the board of an emulated script. -/
def boardName : String := "Imported script"

/-- The interpreter: the one that the environment names, if there is such a file, or the
configured one. -/
def interpreter? (runner : Runner) : HostProgram (Option String) := do
  let named ← HostProgram.environmentVariable interpreterVariable
  HostProgram.firstFile? (named.toList ++ runner.settings.interpreter.toList)

/-- Whether a route is allowed by the root that is in force. -/
def isAllowed (route : Route) : Option String → HostProgram Bool
  | none => return true
  | some root => return route.isWithin (← HostProgram.resolve root)

/-- A script, if it has no errors; otherwise what is wrong with it. -/
def judge (runner : Runner) (script : Script) : Except (List Diagnostic) Admission :=
  let validation := script.validate runner.nativePlatform
  if validation.isValid then .ok ⟨script, validation.diagnostics⟩ else .error validation.diagnostics

/-- The script at the end of a route, if it can be read and has no errors; otherwise what
is wrong with it. -/
def check (runner : Runner) (route : Route) : HostProgram (Except (List Diagnostic) Admission) := do
  match ← (Script.load route.path).run with
  | .error e => return .error [.error e.message 0]
  | .ok script => return runner.judge script

/-- The gate before a script at the end of a route. -/
def pass (runner : Runner) (route : Route) (root : Option String) :
    HostProgram (Except (List Diagnostic) Admission) := do
  if ← isAllowed route root then runner.check route
  else return .error [.error ("Path outside allowed root: " ++ route.path) 0]

/-- The interpreter that a script is to be run by, if it is not to be emulated. -/
def interpreterFor (runner : Runner) : RunMode → HostProgram (Option String)
  | .emulated => return none
  | .auto | .native => runner.interpreter?

/-- Runs a script by an interpreter. -/
def runNative (runner : Runner) (interpreter : String) (route : Route) (limit : Option Nat)
    (diagnostics : List Diagnostic) : RunnerProgram Execution := do
  let limit := limit.getD runner.settings.timeLimitMilliseconds
  return .ofProcess diagnostics (← RunnerProgram.launch interpreter route.path limit)

/-- Runs a script on the engine. -/
def runEmulated (runner : Runner) (admission : Admission) : RunnerProgram Execution := do
  let script := admission.script
  let board := script.toBoard runner.stamp.scriptBoardId boardName runner.stamp.now
  let result ← RunnerProgram.emulate board
  return .ofEmulation board (admission.diagnostics ++ script.report) result

/-- Runs a script that passed the gate. -/
def runAdmitted (runner : Runner) (route : Route) (options : RunOptions) (admission : Admission) :
    RunnerProgram Execution := do
  match ← RunnerProgram.onHost (runner.interpreterFor options.mode), options.mode with
  | some interpreter, _ =>
    runner.runNative interpreter route options.limit admission.diagnostics
  | none, .native => return .withoutInterpreter admission.diagnostics
  | none, _ => runner.runEmulated admission

/-- The root that is in force. -/
def root? (runner : Runner) (options : RunOptions) : Option String :=
  options.allowedRoot <|> runner.settings.allowedRoot

/-- Executes the script that a path leads to. -/
def execute (runner : Runner) (path : String) (options : RunOptions) : RunnerProgram Execution := do
  let route ← RunnerProgram.onHost (HostProgram.resolve path)
  match ← RunnerProgram.onHost (runner.pass route (runner.root? options)) with
  | .error diagnostics => return .refused diagnostics
  | .ok admission => runner.runAdmitted route options admission

/-- The runner on one line, for diagnosis. -/
def describe (runner : Runner) : String :=
  let path : Option String → String
    | none => "None"
    | some path => "Some(" ++ Text.quoted path ++ ")"
  let platform := if runner.nativePlatform then "true" else "false"
  "ScriptRunner \x7b config: ScriptConfig \x7b interpreter_path: " ++
    path runner.settings.interpreter
    ++ ", native_timeout_secs: " ++ Text.natText runner.settings.timeLimit.toNat
    ++ ", allowed_root: " ++ path runner.settings.allowedRoot
    ++ " \x7d, validator: Validator \x7b native_platform: " ++ platform ++ " \x7d, .. \x7d"

end Runner

end ActionBoard
