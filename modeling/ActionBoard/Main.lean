import ActionBoard.CommandLine.DryRun
import Std.Time.DateTime.Timestamp

/-!
# The program on a real machine

The outermost layer: it answers the questions of the command line program with the files, the
environment and the clock of the machine it runs on, and puts out what the program says.  Waits of a
board take as long as they say.

Interpreters are not started from here; a native execution reports that.
-/

namespace ActionBoard.Main

/-! ## Files -/

/-- The number that the operating system has for an error. -/
def errorCode : IO.Error → UInt32
  | .alreadyExists _ code _ | .noFileOrDirectory _ code _ | .permissionDenied _ code _
  | .inappropriateType _ code _ | .invalidArgument _ code _ | .resourceExhausted _ code _
  | .noSuchThing _ code _ | .otherError code _ | .illegalOperation code _ => code
  | _ => 0

def fileError (e : IO.Error) : FileError :=
  match errorCode e with
  | 2 => .notFound
  | 13 => .notPermitted
  | 17 => .exists
  | 20 => .notDirectory
  | 21 => .isDirectory
  | 36 => .nameTooLong
  | 40 => .tooManyLinks
  | _ => .other (toString e)

def attempt {α : Type} (action : IO α) : IO (Except FileError α) := do
  match ← action.toBaseIO with
  | .ok a => return .ok a
  | .error e => return .error (fileError e)

def locationOf (path : String) : Location :=
  Location.follow [] path

/-- Whether something can be read as a file. -/
def isFile (path : String) : IO Bool := do
  match ← attempt (do (← IO.FS.Handle.mk path .read).read 1) with
  | .ok _ => return true
  | .error e => return e = .notPermitted

/-- The answer of the machine to a request. -/
def answerHost : (request : HostRequest) → IO request.Answer
  | .readFile path => attempt (IO.FS.readBinFile path)
  | .realLocation path => do
    match ← attempt (IO.FS.realPath path) with
    | .ok real => return some (locationOf (toString real))
    | .error _ => return none
  | .workingDirectory => do
    match ← attempt IO.currentDir with
    | .ok directory => return some (locationOf (toString directory))
    | .error _ => return none
  | .isFile path => isFile path
  | .environmentVariable name => IO.getEnv name
  | .makeDirectories path => attempt (IO.FS.createDirAll path)
  | .writeFile path content => attempt (IO.FS.writeFile path content)
  | .launch .. => return .error (.other "interpreters cannot be started here")

/-! ## Boards -/

/-- Waits for some milliseconds, a day at a time. -/
def wait (duration : Nat) : IO Unit := do
  let day := 86400000
  for _ in [0:duration / day] do
    IO.sleep (UInt32.ofNat day)
  IO.sleep (UInt32.ofNat (duration % day))

/-- Plays a run on a stage, in real time. -/
def play {α : Type} (setting : Setting Recorder) :
    RunProgram α → Stage Recorder → IO (α × Stage Recorder)
  | .done a, stage => return (a, stage)
  | .ask (.effect (.wait duration)) rest, stage => do
    wait duration
    play setting (rest ()) (stage.atTime (stage.clock + duration))
  | .ask request rest, stage => do
    let (answer, stage) := stage.answer setting.devices request
    play setting (rest answer) stage

/-- Runs a board on an engine of its own. -/
def runBoard (setup : CommandLine.EngineSetup) (board : Board) : IO RunResult := do
  let session : Session Recorder := { stage := setup.stage }
  match session.begin? setup.setting board ∅ with
  | .error e => return .error e
  | .ok (program, session) =>
    let (completion, stage) ← play setup.setting program session.stage
    return (Session.endRun stage completion).1

/-! ## The program -/

/-- The answer to a request of the program. -/
def answer : (request : CommandLine.Request) → IO request.Answer
  | .host request => answerHost request
  | .runBoard setup board => runBoard setup board

/-- Carries a program out. -/
def carryOut {α : Type} : CommandLine.Program α → IO α
  | .done a => return a
  | .ask request rest => do carryOut (rest (← answer request))

/-- What new things are marked with: the time, the number of the process and a random number. -/
def stamp : IO Stamp := do
  let timestamp ← Std.Time.Timestamp.now
  let milliseconds := timestamp.toMillisecondsSinceUnixEpoch.val.toNat
  let now := (UtcTime.ofSeconds? (milliseconds / 1000) (milliseconds % 1000 * 1000000)).getD .epoch
  let process ← match ← attempt (IO.FS.realPath "/proc/self") with
    | .ok real => pure ((Path.fileName? (toString real)).bind Text.natOf?)
    | .error _ => pure none
  return { now, milliseconds, process := process.getD 1, first := ← IO.rand 0 (1 <<< 79) }

end ActionBoard.Main

/-- The program. -/
def main (arguments : List String) : IO UInt32 := do
  let stamp ← ActionBoard.Main.stamp
  let result ← ActionBoard.Main.carryOut (ActionBoard.CommandLine.commandLine stamp arguments)
  IO.print result.output
  IO.eprint result.errors
  return result.code.toUInt32
