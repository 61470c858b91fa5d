import ActionBoard.Simulation.Shell.Condition
import ActionBoard.Simulation.Shell.Reader
import ActionBoard.Simulation.Shell.Signal
import ActionBoard.Simulation.Shell.Utility

/-!
# Shell scripts: commands of the shell

The commands that a shell carries out itself, as far as they need not execute other commands.  Some
of them are special: if they fail, so does the whole script.
-/

namespace ActionBoard.Shell.Builtin

/-- The commands that the shell cannot do without. -/
def specialNames : List String :=
  [":", ".", "break", "continue", "eval", "exec", "exit", "export", "readonly", "return",
    "set", "shift",
    "times", "trap", "unset"]

/-- The other commands of the shell. -/
def regularNames : List String :=
  ["[", "alias", "bg", "cd", "command", "echo", "false", "fg", "getopts", "hash", "jobs",
    "kill", "local",
    "printf", "pwd", "read", "test", "true", "type", "ulimit", "umask", "unalias", "wait"]

/-- Writes what is wrong; a special command fails with that altogether. -/
def fail (text : String) (s : State) : State :=
  if specialNames.contains s.command then s.abort text else (s.complain text).withStatus 2

/-- Does something with a number, which is the first argument if there is one. -/
def withNumber (least standard : Nat) (arguments : List String) (work : Nat → State → State)
    (s : State) : State :=
  match arguments with
  | [] => work standard s
  | text :: _ =>
    match (Text.boundedNat? Int32.maxValue.toNatClampNeg text.toList).filter (least ≤ ·) with
    | some n => work n s
    | none => s.abort ("Illegal number: " ++ text)

/-! ## The course of a script -/

/-- Leaves loops, or goes on with their next turn. -/
def leaveLoops (toFlow : Nat → Flow) : Utility := fun arguments =>
  withNumber 1 1 arguments fun n s =>
    if s.loops = 0 then s.withStatus 0
    else { s with status := 0, flow := toFlow (min n s.loops - 1) }

def exit : Utility := fun arguments s =>
  withNumber 0 s.status arguments (fun n s => s.exit n) s

def back : Utility := fun arguments s =>
  withNumber 0 s.status arguments (fun n s => { s with status := n, flow := .back }) s

/-! ## Variables -/

/-- Sets a variable, unless its value is not to be changed. -/
def assign (name value : String) (s : State) : State :=
  if s.constants.contains name then s.abort (name ++ ": is read only") else s.assign name value

/-- The name and the value of an assignment; a name alone has none. -/
def splitAssignment (text : String) : String × Option String :=
  let name := text.toList.takeWhile (· != '=')
  match text.toList.drop name.length with
  | _ :: value => (String.ofList name, some (String.ofList value))
  | [] => (text, none)

/-- Does something with each of the variables that arguments name and may set. -/
def eachVariable (work : String → Option String → State → State) (arguments : List String)
    (s : State) : State :=
  arguments.foldl
    (fun s text =>
      let (name, value) := splitAssignment text
      if s.flow ≠ .next then s
      else if isName name.toList then work name value s
      else s.abort (name ++ ": bad variable name"))
    (s.withStatus 0)

/-- A text in quotes. -/
def inQuotes (text : String) : String :=
  let body := text.toList.flatMap fun c => if c == '\'' then "'\"'\"'".toList else [c]
  "'" ++ String.ofList body ++ "'"

/-- Puts out variables with their values. -/
def listVariables (start : String) (names : List String) (s : State) : State :=
  let line (s : State) (name : String) : State :=
    s.putLine (start ++ name ++ (s.value? name).elim "" fun value => "=" ++ inQuotes value)
  ((names.mergeSort (· ≤ ·)).foldl line s).withStatus 0

def exportVariables : Utility := fun arguments s =>
  let names := arguments.filter (· != "-p")
  if names.isEmpty then listVariables "export " s.exported s
  else
    eachVariable
      (fun name value s => (value.elim s fun value => assign name value s).withExport name) names s

def makeConstant : Utility := fun arguments s =>
  let names := arguments.filter (· != "-p")
  if names.isEmpty then listVariables "readonly " s.constants s
  else
    eachVariable
      (fun name value s =>
        let s := value.elim s fun value => assign name value s
        { s with constants := name :: s.constants })
      names s

/-- Makes variables those of the current function. -/
def makeLocal : Utility := fun arguments s =>
  if s.calls = 0 then s.abort "not in a function"
  else
    eachVariable
      (fun name value s =>
        let isKnown := s.locals.any fun entry => entry.1 == name
        let s := if isKnown then s else { s with locals := (name, s.value? name) :: s.locals }
        value.elim s fun value => assign name value s)
      arguments s

def unset : Utility := fun arguments s =>
  match arguments with
  | "-f" :: names =>
    ({ s with functions := s.functions.filter fun entry => !names.contains entry.1 }).withStatus 0
  | _ =>
    eachVariable
      (fun name _ s => if s.constants.contains name then s.abort (name ++ ": is read only")
        else s.unset name)
      (if arguments.head? == some "-v" then arguments.drop 1 else arguments) s

/-- Forgets the first arguments. -/
def shift : Utility := fun arguments =>
  withNumber 0 1 arguments fun n s =>
    if s.arguments.length < n then s.abort "can't shift that many"
    else ({ s with arguments := s.arguments.drop n }).withStatus 0

/-! ## Options -/

/-- With an option, if there is such an option. -/
def setOption (isSet : Bool) (letter : Char) (s : State) : Option State :=
  match letter with
  | 'e' => some { s with stopsOnFailure := isSet }
  | 'u' => some { s with refusesUnset := isSet }
  | 'x' => some { s with traces := isSet }
  | _ => if "abfhmnvCEIV".toList.contains letter then some s else none

/-- The letter of an option that has a name. -/
def optionLetter? (name : String) : Option Char :=
  [("errexit", 'e'), ("nounset", 'u'), ("xtrace", 'x'), ("noglob", 'f'), ("verbose", 'v'),
    ("noexec", 'n'), ("allexport", 'a'), ("noclobber", 'C'), ("notify", 'b'),
      ("monitor", 'm')].lookup name

/-- With the options at the start of arguments, and the arguments behind them; or the option
that there is not. -/
def takeOptions : List String → State → Except String (State × Option (List String))
  | [], s => .ok (s, none)
  | "--" :: rest, s | "-" :: rest, s => .ok (s, some rest)
  | "-o" :: name :: rest, s => do takeOptions rest (← named true "-o " name s)
  | "+o" :: name :: rest, s => do takeOptions rest (← named false "+o " name s)
  | text :: rest, s =>
    match text.toList with
    | '-' :: letters => do takeOptions rest (← all true letters text s)
    | '+' :: letters => do takeOptions rest (← all false letters text s)
    | _ => .ok (s, some (text :: rest))
where
  named (isSet : Bool) (sign name : String) (s : State) : Except String State :=
    match (optionLetter? name).bind fun letter => setOption isSet letter s with
    | some s => .ok s
    | none => .error (sign ++ name)
  all (isSet : Bool) (letters : List Char) (text : String) (s : State) : Except String State :=
    match letters.foldl (fun s letter => s.bind (setOption isSet letter)) (some s) with
    | some s => .ok s
    | none => .error text

/-- Sets options and arguments, or puts out all variables. -/
def set : Utility := fun arguments s =>
  if arguments.isEmpty then listVariables "" (s.vars.map Prod.fst) s
  else
    match takeOptions arguments s with
    | .ok (s, some arguments) => ({ s with arguments }).withStatus 0
    | .ok (s, none) => s.withStatus 0
    | .error option => s.abort ("Illegal option " ++ option)

/-! ## Input -/

/-- A line with its end taken off the input, where a backslash before the end of a line joins it
with the next one; and whether there was an end. -/
def takeLine (isRaw : Bool) : List UInt8 → List UInt8 → List UInt8 × List UInt8 × Bool
  | before, [] => (before.reverse, [], false)
  | before, 92 :: 10 :: rest =>
    if isRaw then ((92 :: before).reverse, rest, true) else takeLine isRaw before rest
  | before, 92 :: b :: rest => takeLine isRaw (b :: 92 :: before) rest
  | before, 10 :: rest => (before.reverse, rest, true)
  | before, b :: rest => takeLine isRaw (b :: before) rest

/-- Characters, and whether a backslash was before them. -/
def marked (isRaw : Bool) : List Char → List (Char × Bool)
  | '\\' :: c :: rest =>
    if isRaw then ('\\', false) :: marked isRaw (c :: rest) else (c, true) :: marked isRaw rest
  | ['\\'] => if isRaw then [('\\', false)] else []
  | c :: rest => (c, false) :: marked isRaw rest
  | [] => []

/-- Sets variables to the fields of a line, the last one to all that is left. -/
def assignFields (separators : List Char) : List String → List (Char × Bool) → State → State
  | [], _, s => s
  | name :: names, text, s =>
    let isSeparator (m : Char × Bool) : Bool := !m.2 && separators.contains m.1
    let isBlank (m : Char × Bool) : Bool := isSeparator m && [' ', '\t', '\n'].contains m.1
    let text := text.dropWhile isBlank
    if names.isEmpty then
      let own := (text.reverse.dropWhile isBlank).reverse
      assign name (String.ofList (own.map Prod.fst)) s
    else
      let own := text.takeWhile fun m => !isSeparator m
      let behind := (text.drop own.length).dropWhile isBlank
      let behind := match behind with
        | m :: rest => if isSeparator m then rest else behind
        | [] => []
      assignFields separators names behind (assign name (String.ofList (own.map Prod.fst)) s)

/-- Sets variables from the next line of the input. -/
def read : Utility := fun arguments s =>
  let isRaw := arguments.contains "-r"
  let names := names arguments
  if names.isEmpty then fail "arg count" s
  else
    match names.find? fun name => !isName name.toList with
    | some name => fail (name ++ ": bad variable name") s
    | none =>
      let (line, input, hasEnd) := takeLine isRaw [] s.input
      let s := { s.waitUntil s.inputTime with input }
      let separators := ((s.value? "IFS").getD " \t\n").toList
      let s := assignFields separators names (marked isRaw (Text.decode line).toList) s
      s.withStatus (if hasEnd then 0 else 1)
where
  /-- The arguments that are not options. -/
  names : List String → List String
    | "-p" :: _ :: rest => names rest
    | "-r" :: rest => names rest
    | rest => rest

/-! ## Directories -/

def changeDirectory : Utility := fun arguments s =>
  let arguments := arguments.filter fun text => text != "-P" && text != "-L"
  let path := match arguments with
    | [] => s.value "HOME"
    | "-" :: _ => s.value "OLDPWD"
    | path :: _ => path
  if path.isEmpty then s.withStatus 0
  else
    match s.tree.locate s.directory path with
    | .ok directory =>
      if s.tree.isDirectoryAt directory then
        let old := s.directory.path
        let s := (({ s with directory }).assign "OLDPWD" old).assign "PWD" directory.path
        (if arguments.head? == some "-" then s.putLine directory.path else s).withStatus 0
      else fail ("can't cd to " ++ path) s
    | .error _ => fail ("can't cd to " ++ path) s

/-! ## Signals and processes -/

def kill : Utility := fun arguments s =>
  match arguments with
  | ["-l", n] => (s.putLine ((signalName? n).getD n)).withStatus 0
  | "-s" :: signal :: targets => sendAll signal targets s
  | "--" :: targets => sendAll "TERM" targets s
  | first :: targets =>
    match first.toList with
    | '-' :: signal => sendAll (String.ofList signal) targets s
    | _ => sendAll "TERM" arguments s
  | [] => usage s
where
  usage (s : State) : State :=
    fail "Usage: kill [-s sigspec | -signum | -sigspec] [pid | job]... or\nkill -l [exitstatus]" s
  sendAll (signal : String) (targets : List String) (s : State) : State :=
    match signalName? signal with
    | none => fail ("Illegal option -" ++ String.ofList (signal.toList.take 1)) s
    | some signal =>
      if targets.isEmpty then usage s else targets.foldl (fun s target => s.send signal target) s

/-- Says what is to be done on signals and at the end, or puts that out. -/
def trap : Utility := fun arguments s =>
  let arguments := if arguments.head? == some "--" then arguments.drop 1 else arguments
  let change (action : Option String) (s : State) (signal : String) : State :=
    match signalName? signal with
    | some name =>
      let others := s.traps.filter fun entry => entry.1 != name
      { s with traps := action.elim others fun action => (name, action) :: others }
    | none => (s.report ("trap: " ++ signal ++ ": bad trap")).withStatus 1
  match arguments with
  | [] =>
    let own := signals.filterMap fun (name, _) => (s.traps.lookup name).map (name, ·)
    (own.foldl (fun s entry => s.putLine ("trap -- " ++ inQuotes entry.2 ++ " " ++ entry.1))
      s).withStatus 0
  | [signal] => change none (s.withStatus 0) signal
  | action :: names =>
    names.foldl (change (if action == "-" then none else some action)) (s.withStatus 0)

/-- Waits for processes in the background. -/
def wait : Utility := fun arguments s =>
  let waitFor (s : State) (target : String) : State :=
    match s.jobs.find? fun job => Text.natText job.number == target with
    | some job =>
      let s := (s.waitUntil job.finish).mention job.status
      s.withStatus job.status
    | none =>
      if (Text.natOf? target.toList).isSome then s.withStatus 127
        else fail ("Illegal number: " ++ target) s
  if arguments.isEmpty then
    (s.waitUntil (s.jobs.foldl (fun time job => max time job.finish) 0)).withStatus 0
  else arguments.foldl waitFor s

/-! ## Texts -/

def printFormat : Utility := fun arguments s =>
  match (if arguments.head? == some "--" then arguments.drop 1 else arguments) with
  | [] => fail "usage: printf format [arg ...]" s
  | text :: rest =>
    let result := format text rest
    let s := result.problems.foldl State.complain s
    let s := if result.bytes.isEmpty then s else s.putBytes result.bytes
    match result.fault with
    | some fault => fail fault s
    | none => s.ofTruth result.problems.isEmpty

def test : Utility := fun arguments s =>
  match Condition.evaluate s arguments with
  | .ok truth => s.ofTruth truth
  | .error text => fail text s

/-- A test whose last argument closes a bracket. -/
def bracket : Utility := fun arguments s =>
  if arguments.getLast? == some "]" then test arguments.dropLast s else fail "missing ]" s

/-! ## Names of commands -/

/-- What a name is as a command. -/
def description? (s : State) (name : String) : Option String :=
  if reservedWords.contains name then some "a shell keyword"
  else if specialNames.contains name then some "a special shell builtin"
  else if (s.functions.lookup name).isSome then some "a shell function"
  else if regularNames.contains name then some "a shell builtin"
  else programPath? s name
where
  /-- The path of a program. -/
  programPath? (s : State) (name : String) : Option String :=
    if name.toList.contains '/' then if s.tree.isFile s.directory name then some name else none
    else if (Utility.named? name).isSome || name == "sh" || name == "env"
      then some ("/usr/bin/" ++ name)
    else none

/-- Says what names are. -/
def describe : Utility := fun arguments s =>
  arguments.foldl
    (fun s name =>
      match description? s name with
      | some text => s.putLine (name ++ " is " ++ text)
      | none => (s.putLine (name ++ ": not found")).withStatus 127)
    (s.withStatus 0)

/-- Says how a name is executed. -/
def locate : Utility := fun arguments s =>
  match arguments with
  | [] => s.withStatus 0
  | name :: _ =>
    match description? s name with
    | some text => (s.putLine (if text.toList.head? == some '/' then text else name)).withStatus 0
    | none => s.withStatus 127

/-! ## All of them -/

/-- The command of a name. -/
def named? : String → Option Utility
  | ":" | "true" | "times" | "alias" | "unalias" | "hash" | "jobs" | "bg" | "fg" | "ulimit" =>
    some fun _ s => s.withStatus 0
  | "false" | "getopts" => some fun _ s => s.withStatus 1
  | "umask" =>
    some fun arguments s => (if arguments.isEmpty then s.putLine "0022" else s).withStatus 0
  | "break" => some (leaveLoops .leave)
  | "continue" => some (leaveLoops .turn)
  | "exit" => some exit
  | "return" => some back
  | "export" => some exportVariables
  | "readonly" => some makeConstant
  | "local" => some makeLocal
  | "unset" => some unset
  | "shift" => some shift
  | "set" => some set
  | "read" => some read
  | "cd" => some changeDirectory
  | "pwd" => some fun _ s => (s.putLine s.directory.path).withStatus 0
  | "kill" => some kill
  | "trap" => some trap
  | "wait" => some wait
  | "echo" => some fun arguments s => (s.putBytes (echo arguments)).withStatus 0
  | "printf" => some printFormat
  | "test" => some test
  | "[" => some bracket
  | "type" => some describe
  | _ => none

end ActionBoard.Shell.Builtin
