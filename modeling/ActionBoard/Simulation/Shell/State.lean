import ActionBoard.Host.FileTree
import ActionBoard.Simulation.Shell.Syntax
import ActionBoard.Text.Numeral

/-!
# Shell scripts: the state of a shell

Executing a script takes time only where a command sleeps.  What is written is kept with its time
and the stream it went to.  Commands in the background have a clock of their own and may hold a
stream open after the script has ended.

A script that has not ended when its time is over is stopped then; so is one that goes on without
end.
-/

namespace ActionBoard.Shell

/-! ## Streams -/

/-- What can be written to. -/
inductive Stream where
  | output
  | errors
  /-- What a command around this one reads; the level tells which. -/
  | inner (level : Nat)
  deriving DecidableEq

/-- Where a descriptor leads to. -/
inductive Outlet where
  | stream (stream : Stream)
  | file (location : Location)
  /-- What is written is lost. -/
  | nowhere
  deriving DecidableEq

/-- Where the descriptors of a process lead to. -/
abbrev Outlets := List (Nat × Outlet)

def Outlets.initial : Outlets :=
  [(1, .stream .output), (2, .stream .errors)]

/-- Bytes that were written. -/
structure Written where
  time : Nat
  stream : Stream
  bytes : List UInt8

/-! ## States -/

/-- How a script goes on behind a command. -/
inductive Flow where
  | next
  /-- Behind the loop with so many loops inside it. -/
  | leave (loops : Nat)
  /-- At the next turn of the loop with so many loops inside it. -/
  | turn (loops : Nat)
  /-- Behind the call of the function. -/
  | back
  | ended (ending : Ending)
  deriving DecidableEq

/-- A process in the background. -/
structure Job where
  number : Nat
  /-- When it ends, and with which status. -/
  finish : Nat
  status : Nat

/-- The state of a shell. -/
structure State where
  /-- What the shell calls itself in messages. -/
  name : String
  /-- What is being carried out, for messages. -/
  command : String := ""
  line : Nat := 0
  arguments : List String
  /-- The number of the process. -/
  process : Nat := 4242
  /-- How many milliseconds it is given. -/
  limit : Nat
  directory : Location
  tree : FileTree
  vars : List (String × String) := []
  exported : List String := []
  constants : List String := []
  functions : List (String × Command) := []
  /-- What the variables of a function were before. -/
  locals : List (String × Option String) := []
  /-- What is done on signals, and at the end. -/
  traps : List (String × String) := []
  /-- What is to be done because of a signal that has come. -/
  pending : Option String := none
  stopsOnFailure : Bool := false
  refusesUnset : Bool := false
  traces : Bool := false
  status : Nat := 0
  /-- The status of what was substituted last in the current command. -/
  substituted : Nat := 0
  clock : Nat := 0
  outlets : Outlets := .initial
  /-- How many commands around this one read what it writes. -/
  level : Nat := 0
  /-- What was written, latest first. -/
  written : List Written := []
  input : List UInt8 := []
  /-- When the input is complete. -/
  inputTime : Nat := 0
  /-- How many loops and calls of functions are around. -/
  loops : Nat := 0
  calls : Nat := 0
  flow : Flow := .next
  /-- Processes in the background, latest first. -/
  jobs : List Job := []
  /-- Until when others hold streams open. -/
  held : List (Stream × Nat) := []

namespace State

/-- The number of the first process in the background. -/
def firstJob : Nat := 5000

def withStatus (s : State) (status : Nat) : State :=
  { s with status }

def ofTruth (s : State) (truth : Bool) : State :=
  s.withStatus (if truth then 0 else 1)

/-! ## Writing -/

def outlet (s : State) (descriptor : Nat) : Outlet :=
  (s.outlets.lookup descriptor).getD .nowhere

def redirect (s : State) (descriptor : Nat) (outlet : Outlet) : State :=
  { s with outlets := (descriptor, outlet) :: s.outlets }

/-- With a file of some content, which keeps being executable if it was. -/
def store (s : State) (location : Location) (content : ByteArray) : State :=
  let isExecutable := match s.tree.node? location with
    | some (.file _ executable) => executable
    | _ => false
  { s with tree := s.tree.put location (.file content isExecutable) }

/-- The content of a file, nothing if there is none. -/
def contentAt (s : State) (location : Location) : ByteArray :=
  match s.tree.node? location with
  | some (.file content _) => content
  | _ => .empty

def write (s : State) (outlet : Outlet) (bytes : List UInt8) : State :=
  match outlet with
  | .stream stream => { s with written := ⟨s.clock, stream, bytes⟩ :: s.written }
  | .file location => s.store location ⟨(s.contentAt location).data ++ bytes.toArray⟩
  | .nowhere => s

/-- Writes as output. -/
def putBytes (s : State) (bytes : List UInt8) : State :=
  s.write (s.outlet 1) bytes

def put (s : State) (text : String) : State :=
  s.putBytes text.toUTF8.toList

def putLine (s : State) (text : String) : State :=
  s.put (text ++ "\n")

/-- Writes a line as an error. -/
def report (s : State) (text : String) : State :=
  s.write (s.outlet 2) (text ++ "\n").toUTF8.toList

/-- Writes what is wrong in the current line of the script. -/
def complain (s : State) (text : String) : State :=
  let command := if s.command.isEmpty then "" else s.command ++ ": "
  s.report (s.name ++ ": " ++ Text.natText s.line ++ ": " ++ command ++ text)

/-- The bytes that were written to a stream, and the state without them. -/
def takeWritten (s : State) (stream : Stream) : List UInt8 × State :=
  let (mine, others) := s.written.partition fun w => w.stream = stream
  ((mine.reverse.map Written.bytes).flatten, { s with written := others })

/-! ## Ending -/

def finish (s : State) (ending : Ending) : State :=
  { s with flow := .ended ending }

/-- Ends with a code, of which the last byte counts. -/
def exit (s : State) (code : Nat) : State :=
  { s with flow := .ended (.exited (UInt8.ofNat code)), status := code % 256 }

/-- Fails because of something that the shell cannot do without. -/
def abort (s : State) (text : String) : State :=
  (s.complain text).exit 2

/-- With the streams of the process held open until a time. -/
def hold (s : State) (time : Nat) : State :=
  let streams := [1, 2].filterMap fun descriptor =>
    match s.outlet descriptor with
    | .stream stream => some (stream, time)
    | _ => none
  { s with held := streams ++ s.held }

/-- Until when a stream is held open. -/
def heldUntil (s : State) (stream : Stream) : Nat :=
  s.held.foldl (fun time entry => if entry.1 = stream then max time entry.2 else time) 0

/-- Time passes, but not beyond the limit. -/
def waitUntil (s : State) (time : Nat) : State :=
  if time ≤ s.clock then s
  else if s.limit ≤ time then ({ s with clock := s.limit }.hold s.limit).finish .timedOut
  else { s with clock := time }.hold time

/-- Goes on until it is stopped because its time is over. -/
def hang (s : State) : State :=
  s.waitUntil (max s.limit (s.clock + 1))

/-- The input, when it is complete, and nothing of it left. -/
def takeInput (s : State) : List UInt8 × State :=
  (s.input, { s.waitUntil s.inputTime with input := [] })

/-! ## Variables -/

def value? (s : State) (name : String) : Option String :=
  s.vars.lookup name

def value (s : State) (name : String) : String :=
  (s.value? name).getD ""

def unset (s : State) (name : String) : State :=
  { s with vars := s.vars.filter fun entry => entry.1 != name }

def assign (s : State) (name value : String) : State :=
  { s with vars := (name, value) :: (s.unset name).vars }

/-- With the value that a variable had, if it had one. -/
def restore (s : State) (entry : String × Option String) : State :=
  entry.2.elim (s.unset entry.1) (s.assign entry.1)

/-- With a variable that other programs get to see. -/
def withExport (s : State) (name : String) : State :=
  if s.exported.contains name then s else { s with exported := name :: s.exported }

/-- The value of a parameter, which is a variable or one of those that the shell itself knows. -/
def parameter? (s : State) (name : String) : Option String :=
  match name with
  | "?" => some (Text.natText s.status)
  | "$" => some (Text.natText s.process)
  | "!" => s.jobs.head?.map fun job => Text.natText job.number
  | "#" => some (Text.natText s.arguments.length)
  | "-" =>
    let option (isSet : Bool) (name : String) := if isSet then name else ""
    some (option s.stopsOnFailure "e" ++ option s.refusesUnset "u" ++ option s.traces "x")
  | "0" => some s.name
  | "@" => if s.arguments.isEmpty then none else some (" ".intercalate s.arguments)
  | "*" =>
    let separator := ((s.value? "IFS").getD " ").toList.take 1
    if s.arguments.isEmpty then none else some ((String.ofList separator).intercalate s.arguments)
  | _ =>
    match Text.natOf? name.toList with
    | some n => s.arguments[n - 1]?
    | none => s.value? name

/-- The variables that other programs get to see. -/
def environment (s : State) : List (String × String) :=
  s.vars.filter fun entry => s.exported.contains entry.1

/-! ## Files -/

/-- How much there is of what has no end. -/
def endlessLength : Nat := 1048576

def readFile (s : State) (path : String) : Except FileError ByteArray :=
  match path with
  | "/dev/zero" => .ok ⟨(List.replicate endlessLength (0 : UInt8)).toArray⟩
  | "/dev/stdin" => .ok ⟨s.input.toArray⟩
  | _ => s.tree.read s.directory path

end State

end ActionBoard.Shell
