import ActionBoard.Simulation.Shell.Token

/-!
# Shell scripts: reading

A script is read and executed line by line, so a fault is only found once everything in the
lines before it has been done.  The reader therefore gives the commands up to the first
fault, and the fault.

Reserved words are words like all others except where a command may begin or a compound
command may go on.
-/

namespace ActionBoard.Shell

/-- What is wrong with a script, and in which line. -/
structure Failure where
  line : Nat
  message : String

/-- Reads something from tokens and gives the tokens behind it. -/
abbrev Reader (α : Type) := List Located → Except Failure (α × List Located)

/-! ## Tokens -/

def reservedWords : List String :=
  ["!", "case", "do", "done", "elif", "else", "esac", "fi", "for", "if", "in", "then", "until",
    "while", "\x7b", "\x7d"]

/-- The reserved words and operators that end a list of commands. -/
def closingMarks : List String :=
  ["do", "done", "elif", "else", "esac", "fi", "then", "\x7d", ")", ";;"]

/-- The reserved word or the operator that comes next. -/
def mark? : List Located → Option String
  | ⟨.word content, _, _⟩ :: _ =>
    ((Word.plain? content).map String.ofList).filter reservedWords.contains
  | ⟨.operator text, _, _⟩ :: _ => some text
  | _ => none

def isMark (text : String) (tokens : List Located) : Bool :=
  mark? tokens == some text

def isClosing (tokens : List Located) : Bool :=
  (mark? tokens).any closingMarks.contains

def token? (tokens : List Located) : Option Token :=
  tokens.head?.map Located.token

def isAtEnd (tokens : List Located) : Bool :=
  match token? tokens with
  | none | some .endOfFile => true
  | _ => false

/-- What the next token is called where it is not expected. -/
def description (tokens : List Located) : String :=
  match token? tokens with
  | some (.word _) => (mark? tokens).elim "word" fun text => "\"" ++ text ++ "\""
  | some (.operator text) => "\"" ++ text ++ "\""
  | some (.redirect ..) => "redirection"
  | some .newline => "newline"
  | some (.fault message) => message
  | some .endOfFile | none => "end of file"

def lineOf (tokens : List Located) : Nat :=
  (tokens.head?.map Located.last).getD 1

/-- The failure of finding what is next where nothing in particular is expected. -/
def unexpected (tokens : List Located) : Failure :=
  let isFault := (token? tokens) matches some (.fault _)
  ⟨lineOf tokens, description tokens ++ if isFault then "" else " unexpected"⟩

/-- The failure of not finding what is expected. -/
def missing (expected : String) (tokens : List Located) : Failure :=
  let failure := unexpected tokens
  if (token? tokens) matches some (.fault _) then failure
  else { failure with message := failure.message ++ " (expecting \"" ++ expected ++ "\")" }

/-- The tokens behind a mark that has to come next. -/
def expect (mark : String) (tokens : List Located) : Except Failure (List Located) :=
  if isMark mark tokens then .ok (tokens.drop 1) else .error (missing mark tokens)

def skipNewlines (tokens : List Located) : List Located :=
  tokens.dropWhile fun token => token.token == .newline

/-! ## Simple commands -/

/-- What the word behind a redirection says. -/
def targetOf (operator : String) (word : Word) : Target :=
  match operator with
  | "<" => .input word
  | ">>" => .append word
  | ">&" => .same word
  | "<<" | "<<-" => .here word
  | _ => .output word

/-- The redirection that comes next, if one does. -/
def redirection? : List Located → Except Failure (Option (Redirection × List Located))
  | ⟨.redirect d operator, _, _⟩ :: ⟨.word word, _, _⟩ :: rest =>
    .ok (some (⟨d, targetOf operator word⟩, rest))
  | ⟨.redirect .., _, _⟩ :: rest => .error (unexpected rest)
  | _ => .ok none

/-- The redirections that come next. -/
def readRedirections : Nat → Reader (List Redirection)
  | 0, tokens => .ok ([], tokens)
  | fuel + 1, tokens => do
    match ← redirection? tokens with
    | none => .ok ([], tokens)
    | some (first, rest) =>
      let (others, rest) ← readRedirections fuel rest
      .ok (first :: others, rest)

/-- The words and redirections that come next. -/
def readParts : Nat → Reader (List Word × List Redirection)
  | 0, tokens => .ok (([], []), tokens)
  | fuel + 1, tokens => do
    match tokens with
    | ⟨.word word, _, _⟩ :: rest =>
      let ((words, redirections), rest) ← readParts fuel rest
      .ok ((word :: words, redirections), rest)
    | _ =>
      match ← redirection? tokens with
      | none => .ok (([], []), tokens)
      | some (first, rest) =>
        let ((words, redirections), rest) ← readParts fuel rest
        .ok ((words, first :: redirections), rest)

/-- The variable that a word sets, and the word for its value. -/
def assignment? : Word → Option (String × Word)
  | .text content false :: rest =>
    let name := content.takeWhile (· != '=')
    match content.dropWhile (· != '=') with
    | _ :: value =>
      if isName name then some (String.ofList name, .text value false :: rest) else none
    | [] => none
  | _ => none

/-- The assignments in front of words, and the words behind them. -/
def splitAssignments : List Word → List (String × Word) × List Word
  | [] => ([], [])
  | word :: rest =>
    match assignment? word with
    | some assignment =>
      let (assignments, words) := splitAssignments rest
      (assignment :: assignments, words)
    | none => ([], word :: rest)

/-- Names that no function can have, because the shell needs them. -/
def specialNames : List String :=
  ["break", ":", "continue", ".", "eval", "exec", "exit", "export", "readonly", "return", "set",
    "shift", "times", "trap", "unset"]

/-- The name of the function that a word and the parenthesis behind it begin to define, and what is
behind the closing one. -/
def functionName (word : Word) (rest : List Located) : Except Failure (String × List Located) :=
  match rest with
  | ⟨.operator ")", _, _⟩ :: behind =>
    match (Word.plain? word).filter isName with
    | some name =>
      if specialNames.contains (String.ofList name) then
        .error ⟨lineOf rest, "Bad function name"⟩
      else .ok (String.ofList name, behind)
    | none => .error ⟨lineOf rest, "Bad function name"⟩
  | ⟨.word _, _, last⟩ :: _ => .error ⟨last, "word unexpected (expecting \")\")"⟩
  | _ => .error (missing ")" rest)

/-- A command of words, or the definition of a function. -/
def readSimple (readCommand : Reader Command) : Reader Command := fun tokens => do
  let line := (tokens.head?.map Located.first).getD 1
  let ((words, redirections), rest) ← readParts (tokens.length + 1) tokens
  match rest, words, redirections with
  | ⟨.operator "(", first, last⟩ :: behind, [word], [] =>
    if (assignment? word).isSome then .error (unexpected (⟨.operator "(", first, last⟩ :: behind))
    let (name, behind) ← functionName word behind
    let (body, rest) ← readCommand (skipNewlines behind)
    .ok (.define name body, rest)
  | _, _, _ =>
    if words.isEmpty && redirections.isEmpty then .error (unexpected tokens)
    else
      let (assignments, words) := splitAssignments words
      .ok (.simple line assignments words redirections, rest)

/-! ## Compound commands -/

/-- Where a list of commands stands, which decides about what ends it. -/
inductive Place where
  /-- In a compound command that needs at least one. -/
  | compound
  /-- In a case, where there need not be any. -/
  | inCase
  /-- Outside of everything, where a line ends it. -/
  | line
  deriving DecidableEq

abbrev ListReader := Place → Reader Command

/-- What follows the first word of a branch. -/
def readBranch (readList : ListReader) : Nat → Reader Command
  | 0, tokens => .error (unexpected tokens)
  | fuel + 1, tokens => do
    let (condition, rest) ← readList .compound tokens
    let (yes, rest) ← readList .compound (← expect "then" rest)
    if isMark "elif" rest then
      let (no, rest) ← readBranch readList fuel (rest.drop 1)
      .ok (.branch condition yes no, rest)
    else if isMark "else" rest then
      let (no, rest) ← readList .compound (rest.drop 1)
      .ok (.branch condition yes no, ← expect "fi" rest)
    else .ok (.branch condition yes .nothing, ← expect "fi" rest)

/-- What follows the first word of a loop on a condition. -/
def readLoop (readList : ListReader) (whileTrue : Bool) : Reader Command := fun tokens => do
  let (condition, rest) ← readList .compound tokens
  let (body, rest) ← readList .compound (← expect "do" rest)
  .ok (.loop whileTrue condition body, ← expect "done" rest)

/-- The words that come next. -/
def takeWords : List Located → List Word × List Located
  | ⟨.word word, _, _⟩ :: rest =>
    let (words, rest) := takeWords rest
    (word :: words, rest)
  | rest => ([], rest)

/-- The words of a loop over words, which are the arguments if there are no others. -/
def readLoopWords (tokens : List Located) : Except Failure (List Word × List Located) :=
  let rest := skipNewlines tokens
  if isMark "in" rest then
    let (words, rest) := takeWords (rest.drop 1)
    if token? rest == some .newline || isMark ";" rest then .ok (words, rest.drop 1)
    else .error (unexpected rest)
  else
    let arguments : Word := [.value "@" "" [] true]
    .ok ([arguments], if isMark ";" rest then rest.drop 1 else rest)

/-- What follows the first word of a loop over words. -/
def readForEach (readList : ListReader) (line : Nat) : Reader Command := fun tokens => do
  match tokens with
  | ⟨.word word, _, last⟩ :: rest =>
    match (Word.plain? word).filter isName with
    | none => .error ⟨last, "Bad for loop variable"⟩
    | some name =>
      let (words, rest) ← readLoopWords rest
      let (body, rest) ← readList .compound (← expect "do" (skipNewlines rest))
      .ok (.forEach line (String.ofList name) words body, ← expect "done" rest)
  | _ => .error ⟨lineOf tokens, "Bad for loop variable"⟩

/-- The patterns of a case. -/
def readPatterns : Nat → Reader (List Word)
  | 0, tokens => .error (unexpected tokens)
  | fuel + 1, tokens => do
    let pattern : Word := match token? tokens with
      | some (.word word) => word
      | _ => []
    let rest := tokens.drop 1
    if isMark "|" rest then
      let (others, rest) ← readPatterns fuel (rest.drop 1)
      .ok (pattern :: others, rest)
    else .ok ([pattern], ← expect ")" rest)

/-- The cases up to the end of a choice. -/
def readCases (readList : ListReader) : Nat → Reader (List (List Word × Command))
  | 0, tokens => .error (unexpected tokens)
  | fuel + 1, tokens => do
    let tokens := skipNewlines tokens
    if isMark "esac" tokens then .ok ([], tokens.drop 1)
    else
      let tokens := if isMark "(" tokens then tokens.drop 1 else tokens
      let (patterns, rest) ← readPatterns (tokens.length + 1) tokens
      let (command, rest) ← readList .inCase rest
      let rest := skipNewlines rest
      if isMark "esac" rest then .ok ([(patterns, command)], rest.drop 1)
      else
        let (others, rest) ← readCases readList fuel (← expect ";;" rest)
        .ok ((patterns, command) :: others, rest)

/-- What follows the first word of a choice. -/
def readChoice (readList : ListReader) (line : Nat) : Reader Command := fun tokens => do
  match tokens with
  | ⟨.word subject, _, _⟩ :: rest =>
    let rest ← expect "in" (skipNewlines rest)
    let (cases, rest) ← readCases readList (rest.length + 1) rest
    .ok (.choice line subject cases, rest)
  | _ => .error { unexpected tokens with message := description tokens ++
      " unexpected (expecting word)" }

/-- Commands between an opening mark, which is read already, and a closing one. -/
def readEnclosed (readList : ListReader) (closing : String) : Reader Command := fun tokens => do
  let (command, rest) ← readList .compound tokens
  .ok (command, ← expect closing rest)

/-- A compound command that begins with a mark, if one does. -/
def compound? (readList : ListReader) (tokens : List Located) :
    Option (Except Failure (Command × List Located)) :=
  let line := (tokens.head?.map Located.first).getD 1
  let rest := tokens.drop 1
  match mark? tokens with
  | some "(" => some ((readEnclosed readList ")" rest).map fun (c, rest) => (.subshell c, rest))
  | some "\x7b" => some (readEnclosed readList "\x7d" rest)
  | some "if" => some (readBranch readList tokens.length rest)
  | some "while" => some (readLoop readList true rest)
  | some "until" => some (readLoop readList false rest)
  | some "for" => some (readForEach readList line rest)
  | some "case" => some (readChoice readList line rest)
  | _ => none

/-- A command that is not joined with others. -/
def readCommand (readList : ListReader) : Nat → Reader Command
  | 0, tokens => .error (unexpected tokens)
  | fuel + 1, tokens => do
    match compound? readList tokens with
    | some result =>
      let (command, rest) ← result
      let (redirections, rest) ← readRedirections rest.length rest
      if redirections.isEmpty then .ok (command, rest)
      else .ok (.redirected (lineOf tokens) command redirections, rest)
    | none =>
      if (mark? tokens).isSome && mark? tokens != some "in" then .error (unexpected tokens)
      else readSimple (readCommand readList fuel) tokens

/-! ## Lists -/

/-- Commands joined by bars. -/
def readBars (readList : ListReader) : Nat → Reader Command
  | 0, tokens => .error (unexpected tokens)
  | fuel + 1, tokens => do
    let (first, rest) ← readCommand readList (tokens.length + 1) tokens
    if isMark "|" rest then
      let (second, rest) ← readBars readList fuel (skipNewlines (rest.drop 1))
      .ok (.pipe first second, rest)
    else .ok (first, rest)

/-- Commands joined by bars, which may be meant the other way round. -/
def readPipe (readList : ListReader) : Reader Command := fun tokens =>
  if isMark "!" tokens then
    (readBars readList (tokens.length + 1) (tokens.drop 1)).map fun (c, rest) => (.opposite c, rest)
  else readBars readList (tokens.length + 1) tokens

/-- What is joined behind a command on a condition. -/
def readJoined (readList : ListReader) : Nat → Command → Reader Command
  | 0, _, tokens => .error (unexpected tokens)
  | fuel + 1, first, tokens => do
    if isMark "&&" tokens then
      let (second, rest) ← readPipe readList (skipNewlines (tokens.drop 1))
      readJoined readList fuel (.both first second) rest
    else if isMark "||" tokens then
      let (second, rest) ← readPipe readList (skipNewlines (tokens.drop 1))
      readJoined readList fuel (.either first second) rest
    else .ok (first, tokens)

/-- The commands of a list, behind those that have been read. -/
def readItems (readList : ListReader) (place : Place) : Nat → Option Command → Reader Command
  | 0, _, tokens => .error (unexpected tokens)
  | fuel + 1, before, tokens => do
    let tokens := if place = .line then tokens else skipNewlines tokens
    let sofar := before.getD .nothing
    if token? tokens == some .newline then .ok (sofar, tokens.drop 1)
    else if isAtEnd tokens then .ok (sofar, tokens)
    else if isClosing tokens && (place = .inCase || (place = .compound && before.isSome)) then
      .ok (sofar, tokens)
    else
      let (first, rest) ← readPipe readList tokens
      let (command, rest) ← readJoined readList (rest.length + 1) first rest
      let joined (command : Command) : Option Command :=
        some (before.elim command fun before => .sequence before command)
      if isMark "&" rest
        then readItems readList place fuel (joined (.background command)) (rest.drop 1)
      else if isMark ";" rest then readItems readList place fuel (joined command) (rest.drop 1)
      else if token? rest == some .newline || isAtEnd rest then
        readItems readList place fuel (joined command) rest
      else if place = .line then .error (unexpected rest)
      else .ok ((joined command).getD .nothing, rest)

/-- The commands of a list. -/
def readList : Nat → ListReader
  | 0, _, tokens => .error (unexpected tokens)
  | fuel + 1, place, tokens => readItems (readList fuel) place (tokens.length + 1) none tokens

/-- The commands of a script, line by line, up to the first fault. -/
def readLines : Nat → List Located → List Command × Option Failure
  | 0, _ => ([], none)
  | fuel + 1, tokens =>
    if isAtEnd tokens then ([], none)
    else
      match readList (tokens.length + 1) .line tokens with
      | .error failure => ([], some failure)
      | .ok (command, rest) =>
        let (commands, failure) := readLines fuel rest
        (command :: commands, failure)

/-- The commands of a script that begins in a line, up to the first fault. -/
def read (line : Nat) (text : List Char) : List Command × Option Failure :=
  let tokens := tokens line text
  readLines (tokens.length + 1) tokens

end ActionBoard.Shell
