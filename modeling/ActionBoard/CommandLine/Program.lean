import ActionBoard.CommandLine.Arguments
import ActionBoard.CommandLine.Help
import ActionBoard.CommandLine.LogFilter
import ActionBoard.Configuration.Reader
import ActionBoard.Records.Store
import ActionBoard.Runner.Program
import ActionBoard.Yaml.Reader

/-!
# The command line program

The program that the command line is for.  It runs saved boards on devices that only record, prints
what scripts contain and what is wrong with them, executes them, and imports them as boards.

It is a dialogue with the host and with an engine, and its result is what it puts out and its exit
code: 0 for success, 1 for failure, 2 where the command line could not be understood.  A failure is
put out with the chain of its causes.
-/

namespace ActionBoard.CommandLine

/-! ## What the program asks for -/

/-- What an engine is made of that runs boards on recording devices. -/
structure EngineSetup where
  settings : EngineSettings
  /-- The records, if there is a store of them. -/
  records : Option RecordStore

inductive Request where
  | host (request : HostRequest)
  /-- Runs a board on an engine of its own. -/
  | runBoard (setup : EngineSetup) (board : Board)

namespace Request

abbrev Answer : Request → Type
  | host request => request.Answer
  | runBoard .. => RunResult

end Request

/-- The program of the command line, or a part of it. -/
abbrev Program := Dialogue Request.Answer

/-- The requests of a script runner, whose boards run on one engine. -/
def ofRunnerRequest (setup : EngineSetup) : RunnerRequest → Request
  | .host request => .host request
  | .emulate board => .runBoard setup board

/-- The answers for a script runner. -/
def runnerAnswer (setup : EngineSetup) :
    (request : RunnerRequest) → (ofRunnerRequest setup request).Answer → request.Answer
  | .host _, answer => answer
  | .emulate _, answer => answer

/-! ## Results -/

/-- What the program puts out, and its exit code. -/
structure Result where
  code : UInt8
  output : String := ""
  errors : String := ""

/-- Why the program failed: what could not be done, and what each step of that came from. -/
structure Failure where
  message : String
  causes : List String := []

namespace Failure

/-- Causes with their numbers. -/
def numbered (first : Nat) : List String → List String
  | [] => []
  | cause :: rest =>
    ("    " ++ Text.natText first ++ ": " ++ cause ++ "\n") :: numbered (first + 1) rest

/-- The text of a failure; a single cause is not numbered. -/
def text (f : Failure) : String :=
  let causes := match f.causes with
    | [] => []
    | [cause] => ["\nCaused by:\n", "    " ++ cause ++ "\n"]
    | causes => "\nCaused by:\n" :: numbered 0 causes
  "Error: " ++ f.message ++ "\n" ++ String.join causes

def ofStorage (e : StorageError) : Failure :=
  ⟨e.message, [e.cause]⟩

/-- The failure to have a configuration. -/
def ofConfiguration (path : String) (e : ConfigurationError) : Failure :=
  let deeper := match e with
    | .unreadable _ e => [e.message]
    | _ => []
  ⟨"failed to load configuration " ++ path, e.message :: deeper⟩

end Failure

namespace Result

def succeeded (output : String) : Result :=
  { code := 0, output }

/-- The result with an exit code that tells of success. -/
def judged (success : Bool) (output : String) : Result :=
  { code := if success then 0 else 1, output }

def failed (f : Failure) : Result :=
  { code := 1, errors := f.text }

/-- The end of a program that a failed check of its arithmetic breaks off. -/
def broken (message : String) : Result :=
  { code := 101, errors := message ++ "\n" }

end Result

/-- A part of the program that may fail. -/
abbrev Fallible := ExceptT Failure Program

/-- Something that needs only the host. -/
def onHost {ε α : Type} (onError : ε → Failure) (program : ExceptT ε HostProgram α) : Fallible α :=
  ExceptT.mk <|
    (program.run.translate Request.host fun _ answer => answer).bind fun result =>
      .done (result.mapError onError)

/-! ## Subcommands -/

/-- The tables in a file. -/
def loadRecords (path : String) : Fallible RecordStore := do
  let text ← onHost (fun (e : FileError) => ⟨"failed to read records " ++ path, [e.message]⟩)
    (ExceptT.mk (HostProgram.readText path))
  match (Json.parse? text.toList).bind RecordStore.ofJson? with
  | some records => return records
  | none => throw ⟨"invalid records file " ++ path, ["the text is not an object of tables"]⟩

/-- The lines about the outcomes of a run. -/
def outcomeLines (outcomes : List Outcome) : String :=
  let unsuccessful := outcomes.countP fun outcome => !outcome.success
  textOfLines (outcomes.map Outcome.line ++
    [Text.natText outcomes.length ++ " actions, " ++ Text.natText unsuccessful ++ " unsuccessful"])

def runBoardFile (stamp : Stamp) (c : Configuration) (path : String) (records : Option String) :
    Fallible Result := do
  let board ← onHost .ofStorage (Board.load stamp.now path)
  let records ← match records with
    | some path => some <$> loadRecords path
    | none => pure none
  let result ← (.question (Request.runBoard ⟨c.engine, records⟩ board) : Program RunResult)
  match result with
  | .error .overflow => return .broken EngineError.overflow.message
  | .error e => throw ⟨e.message, []⟩
  | .ok outcomes => return .judged (outcomes.all Outcome.success) (outcomeLines outcomes)

def parseFile (path : String) : Fallible Result := do
  let script ← onHost .ofStorage (Script.load path)
  return .succeeded (script.toJson.document ++ "\n")

def validateFile (path : String) : Fallible Result := do
  let script ← onHost .ofStorage (Script.load path)
  let validation := script.validate false
  let verdict := if validation.isValid then "valid" else "invalid"
  return .judged validation.isValid
    (textOfLines (validation.diagnostics.map Diagnostic.text ++ [verdict]))

def executeFile (stamp : Stamp) (c : Configuration) (path : String) (options : RunOptions) :
    Fallible Result := do
  let setup : EngineSetup := ⟨c.engine, none⟩
  let runner : Runner := { settings := c.script, stamp }
  let execution ←
    ((runner.execute path options).translate (ofRunnerRequest setup) (runnerAnswer setup) :
      Program Execution)
  return .judged execution.success (execution.toJson.document ++ "\n")

def importFile (stamp : Stamp) (path : String) (output : Option String) : Fallible Result := do
  let board ← onHost .ofStorage (Macro.load stamp Macro.defaultBoardName path)
  match output with
  | none => return .succeeded (board.document .standard ++ "\n")
  | some output => do
    onHost .ofStorage (board.save output)
    return .succeeded ""

/-- What a subcommand does under a configuration. -/
def perform (stamp : Stamp) (c : Configuration) : Command → Fallible Result
  | .run board records => runBoardFile stamp c board records
  | .parse script => parseFile script
  | .validate script => validateFile script
  | .exec script mode seconds allowedRoot =>
    executeFile stamp c script
      { mode, limit := seconds.map fun n => 1000 * n.toNat, allowedRoot }
  | .importFile script output => importFile stamp script output

/-! ## The program -/

/-- The configuration that is asked for, or the usual one. -/
def configurationFor : Option String → Fallible Configuration
  | none => return {}
  | some path => onHost (.ofConfiguration path) (Configuration.load Yaml.parse? path)

/-- Does what a command line says. -/
def invoke (stamp : Stamp) (invocation : Invocation) : Fallible Result := do
  let configuration ← configurationFor invocation.configuration
  match invocation.logFilter with
  | some filter =>
    if isLogFilter filter then perform stamp configuration invocation.command
    else throw ⟨"invalid filter directive", []⟩
  | none => perform stamp configuration invocation.command

/-- The program for the words of a command line. -/
def commandLine (stamp : Stamp) (words : List String) : Program Result := do
  let environment ←
    (.question (Request.host (.environmentVariable configurationVariable)) : Program
      (Option String))
  match readCommandLine environment words with
  | .misuse message => return { code := 2, errors := "error: " ++ message ++ "\n" }
  | .version => return .succeeded versionText
  | .help subcommand =>
    return .succeeded
      (helpFor (fun name => if name == configurationVariable then environment else none)
      subcommand)
  | .value invocation =>
    match ← (invoke stamp invocation).run with
    | .ok result => return result
    | .error failure => return .failed failure

end ActionBoard.CommandLine
