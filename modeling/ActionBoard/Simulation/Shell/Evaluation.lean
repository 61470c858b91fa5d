import ActionBoard.Simulation.Shell.Builtin
import ActionBoard.Simulation.Shell.Expansion

/-!
# Shell scripts: evaluation

Commands are executed one after the other, each from the state that the one before it has left.  A
process of its own, as for a part of a pipe or in the background, is executed as a whole where it is
started, from a copy of the state; what it writes has the times at which it writes it.

Everything here has the execution of a command as an argument, up to `execute`, which ties the knot.
How deep commands may be executed inside each other is limited, and so is how often a loop is.
-/

namespace ActionBoard.Shell

/-- How commands are executed; the truth value tells whether somebody looks at whether they
succeed. -/
abbrev Execute := Bool → Command → State → State

/-! ## Processes -/

/-- How much longer than the shell a process may go on that it has started. -/
def patience : Nat := 100000

/-- The state of a new process. -/
def forked (s : State) : State :=
  { s with limit := s.limit + patience, traps := s.traps.filter fun entry => entry.2.isEmpty }

/-- What happened in another process, seen from a shell that did not wait for it. -/
def besides (s inner : State) : State :=
  { s with tree := inner.tree, written := inner.written, held := inner.held }

/-- What happened in another process, seen from the shell that has waited for it. -/
def joined (s inner : State) : State :=
  let s :=
    { besides s inner with
      status := inner.status
      input := inner.input
      inputTime := inner.inputTime }
  let s := s.waitUntil inner.clock
  if s.flow = .next && inner.flow = .ended .killed then
    if inner.process = s.process then s.finish .killed else s.mention inner.status
  else s

/-- Ends, with the current status if there is no other reason. -/
def conclude (s : State) : State :=
  match s.flow with
  | .ended _ => s
  | _ => s.exit s.status

/-! ## Texts -/

/-- Executes commands up to one that changes the course. -/
def executeLines (execute : Execute) (isTested : Bool) (commands : List Command)
    (failure : Option Failure) (s : State) : State :=
  let s := commands.foldl
    (fun s command => if s.flow = .next then execute isTested command s else s) s
  match s.flow, failure with
  | .next, some failure =>
    { s with line := failure.line }.abort ("Syntax error: " ++ failure.message)
  | _, _ => s

/-- Executes a text that begins in a line. -/
def executeText (execute : Execute) (isTested : Bool) (line : Nat) (text : List Char)
    (s : State) : State :=
  let (commands, failure) := read line text
  executeLines execute isTested commands failure s

/-- Executes the text of a word of a script, as if it were a script. -/
def executeWord (execute : Execute) (text : String) (s : State) : State :=
  executeText execute false 1 text.toList s

/-- Does what is to be done at the end, and ends. -/
def atEnd (execute : Execute) (s : State) : State :=
  let s := conclude s
  match s.flow, s.traps.lookup "EXIT" with
  | .ended (.exited _), some action =>
    let traps := s.traps.filter fun entry => entry.1 != "EXIT"
    let before := { s with flow := .next, command := "", traps }
    let after := executeWord execute action before
    match after.flow with
    | .ended _ => after
    | _ => after.exit s.status
  | _, _ => s

/-- Does what is to be done because of a signal. -/
def doPending (execute : Execute) (s : State) : State :=
  match s.pending with
  | none => s
  | some action =>
    let after := executeWord execute action { s with pending := none }
    if after.flow = .next then after.withStatus s.status else after

/-- Executes a script for what it writes. -/
def capture (execute : Execute) : Capture := fun script s =>
  let stream := Stream.inner (s.level + 1)
  let inner := { forked s with level := s.level + 1 }.redirect 1 (.stream stream)
  let inner := atEnd execute (executeText execute false (max s.line 1) script inner)
  let (bytes, inner) := inner.takeWritten stream
  let after := joined s { inner with clock := max inner.clock (inner.heldUntil stream) }
  (bytes, { after with status := s.status, substituted := inner.status })

/-! ## Redirections -/

/-- With a descriptor that leads to the file at a path, or what is wrong. -/
def redirectToFile (isAppended : Bool) (descriptor : Nat) (path : String) (s : State) :
    State × Option String :=
  let cannot (text : String) := (s, some ("cannot create " ++ path ++ ": " ++ text))
  match path with
  | "/dev/stdout" => (s.redirect descriptor (s.outlet 1), none)
  | "/dev/stderr" => (s.redirect descriptor (s.outlet 2), none)
  | "/dev/tty" => cannot "No such device or address"
  | _ =>
    match s.tree.writingPlace s.directory path with
    | .error .notFound | .error .notDirectory => cannot "Directory nonexistent"
    | .error e => cannot (Utility.reason e)
    | .ok location =>
      if s.tree.isDirectoryAt location then cannot "Is a directory"
      else if location = ["dev", "null"] then (s.redirect descriptor .nowhere, none)
      else
        let s := if isAppended && s.tree.isFileAt location then s else s.store location .empty
        (s.redirect descriptor (.file location), none)

/-- With the input from a file, or what is wrong. -/
def redirectFromFile (path : String) (s : State) : State × Option String :=
  match s.readFile path with
  | .ok content => ({ s with input := content.toList, inputTime := 0 }, none)
  | .error .isDirectory => ({ s with input := [] }, none)
  | .error .notFound | .error .notDirectory =>
    (s, some ("cannot open " ++ path ++ ": No such file"))
  | .error e => (s, some ("cannot open " ++ path ++ ": " ++ Utility.reason e))

/-- With a descriptor that leads where another one does, or what is wrong. -/
def redirectToDescriptor (descriptor : Nat) (text : String) (s : State) : State × Option String :=
  match text, Text.natOf? text.toList with
  | "-", _ => (s.redirect descriptor .nowhere, none)
  | _, some n =>
    if n = 0 || descriptor = 0 then (s, none)
    else if (s.outlets.lookup n).isSome then (s.redirect descriptor (s.outlet n), none)
    else (s, some (text ++ ": Bad file descriptor"))
  | _, none => (s, some "Bad fd number")

/-- Makes redirections, up to one of which something is wrong. -/
def redirectAll (capture : Capture) : List Redirection → Expansion (Option String)
  | [] => return none
  | ⟨descriptor, target⟩ :: rest => do
    let word := match target with
      | .input word | .output word | .append word | .same word | .here word => word
    let text ← expandText capture word
    let s ← get
    let (s, problem) := match target with
      | .input _ => redirectFromFile text s
      | .output _ => redirectToFile false descriptor text s
      | .append _ => redirectToFile true descriptor text s
      | .same _ => redirectToDescriptor descriptor text s
      | .here _ => ({ s with input := text.toUTF8.toList, inputTime := 0 }, none)
    set s
    match problem with
    | some problem => return some problem
    | none => redirectAll capture rest

/-- Whether redirections change the input. -/
def changesInput (redirections : List Redirection) : Bool :=
  redirections.any fun r =>
    match r.target with
    | .input _ | .here _ => true
    | _ => false

/-- With the descriptors as they were before redirections. -/
def withOutletsOf (s : State) (redirections : List Redirection) (after : State) : State :=
  let after := { after with outlets := s.outlets }
  if changesInput redirections then { after with input := s.input, inputTime := s.inputTime }
    else after

/-- Does something with redirections; if something is wrong with them, only that is said. -/
def withRedirections (execute : Execute) (redirections : List Redirection) (work : State → State)
    (s : State) : State :=
  match (redirectAll (capture execute) redirections).run s with
  | .error text => s.abort text
  | .ok (some problem, t) => (withOutletsOf s redirections (t.complain problem)).withStatus 2
  | .ok (none, t) => if t.flow = .next then withOutletsOf s redirections (work t) else t

/-! ## Loops -/

/-- How often a loop is repeated before it counts as endless. -/
def repetitionLimit : Nat := 100000

/-- What becomes of a change of the course at the end of a turn of a loop, and whether
the loop goes on. -/
def settle (s : State) : State × Bool :=
  match s.flow with
  | .next => (s, true)
  | .turn 0 => ({ s with flow := .next }, true)
  | .turn (n + 1) => ({ s with flow := .turn n }, false)
  | .leave 0 => ({ s with flow := .next }, false)
  | .leave (n + 1) => ({ s with flow := .leave n }, false)
  | _ => (s, false)

/-- Repeats a body while a condition succeeds, or while it does not; the status is that of the
body. -/
def repeatWhile (whileTrue : Bool) (condition body : State → State) : Nat → Nat → State → State
  | 0, _, s => s.hang
  | fuel + 1, status, s =>
    let (s, goesOn) := settle (condition s)
    if !goesOn then s
    else if (s.status == 0) != whileTrue then s.withStatus status
    else
      let (s, goesOn) := settle (body s)
      if goesOn then repeatWhile whileTrue condition body fuel s.status s else s

/-- Repeats a body for every value of a variable. -/
def repeatFor (name : String) (body : State → State) : List String → State → State
  | [], s => s
  | value :: rest, s =>
    let (s, goesOn) := settle (body (Builtin.assign name value s))
    if goesOn then repeatFor name body rest s else s

/-- Does something inside a loop. -/
def insideLoop (s : State) (work : State → State) : State :=
  { work { s with loops := s.loops + 1 } with loops := s.loops }

/-! ## Programs -/

/-- Where programs are installed. -/
def installed : List (Location × String) :=
  [(["bin", "sh"], "sh"), (["bin", "cat"], "cat"), (["bin", "echo"], "echo"),
    (["bin", "true"], "true"),
    (["bin", "false"], "false"), (["bin", "sleep"], "sleep"), (["usr", "bin", "env"], "env")]

/-- The words of the first line of a file that names its interpreter. -/
def interpreterLine? (content : ByteArray) : Option (List String) :=
  match (Text.decode content.toList).toList with
  | '#' :: '!' :: rest =>
    let line := Text.trim (rest.takeWhile (· != '\n'))
    let name := line.takeWhile fun c => !Text.isBlank c
    let argument := Text.trim (line.dropWhile fun c => !Text.isBlank c)
    some (String.ofList name :: if argument.isEmpty then [] else [String.ofList argument])
  | _ => none

/-- The state of a shell that begins. -/
def started (s : State) (name : String) (arguments : List String) : State :=
  let vars := s.environment.filter fun entry => entry.1 != "PWD"
  { name, arguments
    process := s.process + 1
    limit := s.limit
    directory := s.directory
    tree := s.tree
    vars := ("PWD", s.directory.path) :: ("OPTIND", "1") :: ("IFS", " \t\n") :: vars
    exported := "PWD" :: vars.map Prod.fst
    clock := s.clock
    outlets := s.outlets
    level := s.level
    written := s.written
    input := s.input
    inputTime := s.inputTime
    held := s.held }

/-- Runs a shell that calls itself by a name, in a state of its own. -/
def runShell (execute : Execute) (name : String) (arguments : List String) (s : State) : State :=
  let options := arguments.takeWhile Utility.isOption
  let letters := options.flatMap fun text => text.toList.drop 1
  let others := arguments.drop options.length
  let begin (name : String) (arguments : List String) : State :=
    letters.foldl (fun s letter => (Builtin.setOption true letter s).getD s)
      (started s name arguments)
  let run (text : String) (s : State) : State := atEnd execute (executeWord execute text s)
  match others with
  | [] =>
    if letters.contains 'c' then (s.report (name ++ ": 0: -c requires an argument")).exit 2
    else
      let (bytes, s) := s.takeInput
      run (Text.decode bytes) { begin name [] with input := s.input, clock := s.clock }
  | first :: rest =>
    if letters.contains 'c' then run first (begin (rest.headD name) (rest.drop 1))
    else
      match s.readFile first with
      | .error .notFound | .error .notDirectory =>
        (s.report (name ++ ": 0: cannot open " ++ first ++ ": No such file")).exit 2
      | .error e =>
        (s.report (name ++ ": 0: cannot open " ++ first ++ ": " ++ Utility.reason e)).exit 2
      | .ok content => run (Text.decode content.toList) (begin first rest)

/-- The programs that are known by names. -/
inductive Program where
  | shell
  | environment
  | utility (work : Utility)
  /-- The file at a path, which is read by an interpreter. -/
  | script (path : String) (interpreter : List String)

/-- The program of a name that is not a path. -/
def programNamed? (name : String) : Option Program :=
  match name with
  | "sh" | "dash" => some .shell
  | "env" => some .environment
  | _ => (Utility.named? name).map .utility

/-- The program that a name or a path leads to, or why there is none. -/
def findProgram (s : State) (name : String) : Except FileError Program := do
  if name.toList.contains '/' then
    let location ← s.tree.locate s.directory name
    match s.tree.node? location with
    | some (.file content true) =>
      match (installed.lookup location).bind programNamed?, interpreterLine? content with
      | some program, _ => .ok program
      | none, some interpreter => .ok (.script name interpreter)
      | none, none => .error .notExecutable
    | _ => .error .notPermitted
  else
    match programNamed? name with
    | some program => .ok program
    | none => .error .notFound

/-- Puts out the environment, or runs a program in another one. -/
def withEnvironment (run : String → List String → State → State) : List String → State → State
  | [], s => (s.environment.foldl (fun s entry => s.putLine (entry.1 ++ "=" ++ entry.2)) s).exit 0
  | text :: rest, s =>
    match Builtin.splitAssignment text with
    | (name, some value) => withEnvironment run rest ((s.assign name value).withExport name)
    | (_, none) =>
      if text == "-i" then withEnvironment run rest { s with exported := [] } else run text rest s

/-- Runs a program in place of the shell. -/
def runProgram (execute : Execute) :
    Nat → (name : String) → (arguments : List String) → State → Except FileError State
  | 0, _, _, _ => .error .tooManyLinks
  | fuel + 1, name, arguments, s => do
    let runOther (name : String) (arguments : List String) (s : State) : State :=
      match runProgram execute fuel name arguments s with
      | .ok after => after
      | .error e => (s.report ("env: '" ++ name ++ "': " ++ Utility.reason e)).exit 127
    match ← findProgram s name with
    | .shell => .ok (runShell execute name arguments s)
    | .environment => .ok (withEnvironment runOther arguments s)
    | .utility work => .ok (conclude (work arguments s))
    | .script path (interpreter :: options) =>
      runProgram execute fuel interpreter (options ++ path :: arguments) s
    | .script _ [] => .error .notExecutable

/-- How many interpreters may read each other. -/
def interpreterLimit : Nat := 5

/-- Runs a program for a shell, which reads a file itself that names no interpreter. -/
def runCommand (execute : Execute) (name : String) (arguments : List String) (s : State) : State :=
  match runProgram execute interpreterLimit name arguments s with
  | .ok after => after
  | .error .notFound | .error .notDirectory => (s.complain (name ++ ": not found")).exit 127
  | .error .notExecutable => runShell execute name (name :: arguments) s
  | .error e => (s.complain (name ++ ": " ++ Utility.reason e)).exit 126

/-! ## Simple commands -/

/-- How deep functions may be called inside each other. -/
def callLimit : Nat := 1000

/-- Calls a function. -/
def call (execute : Execute) (isTested : Bool) (body : Command) (arguments : List String)
    (s : State) : State :=
  if callLimit ≤ s.calls then
    s.abort ("Maximum function recursion depth (" ++ Text.natText callLimit ++ ") reached")
  else
    let inner :=
      execute isTested body { s with arguments, calls := s.calls + 1, locals := [], loops := 0 }
    let inner := inner.locals.foldl State.restore inner
    { inner with
      arguments := s.arguments, calls := s.calls, locals := s.locals, loops := s.loops
      flow := if inner.flow = .back then .next else inner.flow }

/-- Executes the text in a file. -/
def executeFile (execute : Execute) (isTested : Bool) (path : String) (s : State) : State :=
  let content := if path.toList.contains '/' then s.readFile path else .error .notPermitted
  match content with
  | .ok content =>
    let inner :=
      executeText execute isTested 1 (Text.decode content.toList).toList { s with command := path }
    { inner with flow := if inner.flow = .back then .next else inner.flow }
  | .error .notPermitted => s.abort (path ++ ": not found")
  | .error _ => s.abort ("cannot open " ++ path ++ ": No such file")

/-- Executes a command of one word with arguments.  The first state has the descriptors of the shell
itself, the second one those of the command. -/
def invoke (execute : Execute) (isTested canBeFunction : Bool) (outer : State) (name : String)
    (arguments : List String) (s : State) : State :=
  let named (work : State → State) : State :=
    { work { s with command := name } with command := s.command }
  match name, (s.functions.lookup name).filter fun _ => canBeFunction with
  | _, some body => call execute isTested body arguments s
  | "eval", none =>
    named fun s => executeText execute isTested 1
      (" ".intercalate arguments).toList (s.withStatus 0)
  | ".", none =>
    named fun s => arguments.head?.elim s fun path => executeFile execute isTested path
      (s.withStatus 0)
  | "exec", none =>
    match arguments with
    | [] => s.withStatus 0
    | program :: rest => named fun s => runCommand execute program rest s
  | _, none =>
    match Builtin.named? name with
    | some work => named (work arguments)
    | none =>
      let inner := runCommand execute name arguments (forked s)
      joined { s with outlets := outer.outlets } inner

/-- Executes a command that says how another one is to be executed. -/
def invokePlain (execute : Execute) (isTested : Bool) (outer : State) : List String → State → State
  | [], s => s.withStatus 0
  | "-p" :: rest, s => invokePlain execute isTested outer rest s
  | "-v" :: names, s | "-V" :: names, s => Builtin.locate names s
  | name :: rest, s => invoke execute isTested false outer name rest s

/-- Sets variables to words. -/
def assignAll (capture : Capture) : List (String × Word) → Expansion (List String)
  | [] => return []
  | (name, word) :: rest => do
    let value ← expandText capture word
    modify (Builtin.assign name value)
    return (name ++ "=" ++ value) :: (← assignAll capture rest)

/-- Says what is executed. -/
def trace (texts : List String) (s : State) : State :=
  if s.traces then s.report ("+ " ++ " ".intercalate texts) else s

/-- Whether a command changes the shell itself, with its assignments and redirections. -/
def isLasting (name : String) (arguments : List String) : Bool :=
  name == "exec" && arguments.isEmpty

/-- Executes the fields of a command with its assignments and redirections. -/
def executeFields (execute : Execute) (isTested : Bool) (assignments : List (String × Word))
    (fields : List String) (redirections : List Redirection) (s : State) : State :=
  match (redirectAll (capture execute) redirections).run s with
  | .error text => s.abort text
  | .ok (some problem, t) =>
    let t := withOutletsOf s redirections (t.complain problem)
    let isSpecial := fields.head?.any Builtin.specialNames.contains
    if isSpecial then t.exit 2 else t.withStatus 2
  | .ok (none, t) =>
    match (assignAll (capture execute) assignments).run t with
    | .error text => (withOutletsOf s redirections t).abort text
    | .ok (texts, u) =>
      let u := trace (texts ++ fields) u
      if u.flow ≠ .next then withOutletsOf s redirections u
      else
        match fields with
        | [] => withOutletsOf s redirections (u.withStatus u.substituted)
        | name :: arguments =>
          let names := assignments.map Prod.fst
          let u := names.foldl State.withExport u
          let after := if name == "command" then invokePlain execute isTested s arguments u
            else invoke execute isTested true s name arguments u
          let isSpecial := Builtin.specialNames.contains name
          let after := if isSpecial then after
            else names.foldl (fun after name => after.restore (name, t.value? name)) after
          let after := if names.isEmpty then after else { after with exported := t.exported }
          if isLasting name arguments then after else withOutletsOf s redirections after

/-- Executes a simple command. -/
def executeSimple (execute : Execute) (isTested : Bool) (assignments : List (String × Word))
    (words : List Word) (redirections : List Redirection) (s : State) : State :=
  match (expandWords (capture execute) words).run { s with substituted := 0 } with
  | .error text => s.abort text
  | .ok (fields, t) =>
    if t.flow ≠ .next then t
    else doPending execute (executeFields execute isTested assignments fields redirections t)

/-! ## Compound commands -/

/-- Executes the commands of a pipe, the second one with what the first one writes as its input. -/
def executePipe (first second : State → State) (s : State) : State :=
  let stream := Stream.inner (s.level + 1)
  let a := first ({ forked s with level := s.level + 1 }.redirect 1 (.stream stream))
  let (input, a) := a.takeWritten stream
  let b := second { besides (forked s) a with input, inputTime := a.clock }
  let a := if a.flow = .ended .killed && a.process = s.process then a else b
  joined s { a with clock := max a.clock b.clock, input := s.input, inputTime := s.inputTime }

/-- Starts a process in the background. -/
def executeBehind (command : State → State) (s : State) : State :=
  let inner := command { forked s with input := [], inputTime := 0 }
  let job : Job := ⟨State.firstJob + s.jobs.length, inner.clock, inner.status⟩
  { besides s inner with status := 0, jobs := job :: s.jobs }

/-- The command of the first case that has a pattern for a text. -/
def findCase (capture : Capture) (subject : List Char) :
    List (List Word × Command) → Expansion (Option Command)
  | [] => return none
  | (patterns, command) :: rest => do
    let rec fits : List Word → Expansion Bool
      | [] => return false
      | word :: words => do
        if standsFor (pattern (← expandMarked capture word)) subject then return true
        fits words
    if ← fits patterns then return some command
    findCase capture subject rest

/-- Fails altogether if a command has failed that nobody looks at, where that is wanted. -/
def checkFailure (isTested : Bool) (s : State) : State :=
  if s.flow = .next && s.stopsOnFailure && !isTested && s.status ≠ 0 then s.exit s.status else s

/-- Does something with what an expansion gives. -/
def withExpansion {α : Type} (expansion : Expansion α) (work : α → State → State)
    (s : State) : State :=
  match expansion.run s with
  | .error text => s.abort text
  | .ok (value, t) => if t.flow = .next then work value t else t

/-- Executes a command. -/
def execute : Nat → Execute
  | 0, _, _, s => s.hang
  | fuel + 1, isTested, command, s =>
    let run := execute fuel
    let continued (work : State → State) (s : State) : State := if s.flow = .next then work s else s
    let process (command : Command) (s : State) : State := atEnd run (run isTested command s)
    match command with
    | .nothing => s
    | .simple line assignments words redirections =>
      checkFailure isTested
        (executeSimple run isTested assignments words redirections { s with line })
    | .sequence first second => continued (run isTested second) (run isTested first s)
    | .both first second =>
      continued (fun s => if s.status = 0 then run isTested second s else s) (run true first s)
    | .either first second =>
      continued (fun s => if s.status = 0 then s else run isTested second s) (run true first s)
    | .opposite command => continued (fun s => s.ofTruth (s.status != 0)) (run true command s)
    | .pipe first second => checkFailure isTested (executePipe (process first) (process second) s)
    | .background command => executeBehind (process command) s
    | .subshell command => checkFailure isTested (joined s (process command (forked s)))
    | .redirected line command redirections =>
      withRedirections run redirections (run isTested command) { s with line }
    | .branch condition yes no =>
      continued (fun s => if s.status = 0 then run isTested yes s
        else run isTested no (s.withStatus 0))
        (run true condition s)
    | .loop whileTrue condition body =>
      insideLoop s (repeatWhile whileTrue (run true condition) (run isTested body)
        repetitionLimit 0)
    | .forEach line name words body =>
      withExpansion (expandWords (capture run) words)
        (fun values s => insideLoop s fun s => repeatFor name (run isTested body) values
          (s.withStatus 0))
        { s with line }
    | .choice line subject cases =>
      withExpansion
        (do findCase (capture run) (← expandText (capture run) subject).toList cases)
        (fun found s => found.elim (s.withStatus 0) fun command => run isTested command
          (s.withStatus 0))
        { s with line }
    | .define name body =>
      { s with status := 0, functions := (name, body) :: s.functions.filter fun entry =>
        entry.1 != name }

/-! ## Whole programs -/

/-- How deep commands may be executed inside each other. -/
def executionDepth : Nat := 100000

/-- How long what was written is still read when a program has ended and others hold its streams
open. -/
def graceTime : Nat := 250

/-- The bytes that were written to a stream up to a time. -/
def writtenUntil (s : State) (stream : Stream) (time : Nat) : List UInt8 :=
  let mine := s.written.reverse.filter fun w => w.stream = stream && w.time ≤ time
  ((mine.mergeSort fun v w => v.time ≤ w.time).map Written.bytes).flatten

/-- What is known of a program that has ended.  First its output is read to the end, then its
errors, each of them for as long as others hold it open but not for longer than the grace time. -/
def report (s : State) (ending : Ending) : ProcessReport :=
  let outputEnd := min (max s.clock (s.heldUntil .output)) (s.clock + graceTime)
  let errorsEnd := min (max outputEnd (s.heldUntil .errors)) (outputEnd + graceTime)
  { ending
    output := writtenUntil s .output outputEnd
    errors := writtenUntil s .errors errorsEnd }

/-- Starts a program, if it can be started; what is known of it when it has ended, and what it has
made of the files. -/
def launch (name : String) (arguments : List String) (s : State) :
    Except FileError (ProcessReport × FileTree) := do
  let after := conclude (← runProgram (execute executionDepth) interpreterLimit name arguments s)
  let ending := match after.flow with
    | .ended ending => ending
    | _ => .exited 0
  .ok (report after ending, after.tree)

end ActionBoard.Shell
