import ActionBoard.Simulation.Shell.Format
import ActionBoard.Simulation.Shell.State
import ActionBoard.Text.Lines
import ActionBoard.Text.Utf8

/-!
# Shell scripts: programs that work on texts and files

Small programs that scripts use besides the commands of the shell.  They read the input
or files, and write.
-/

namespace ActionBoard.Shell

/-- What a program does with its arguments. -/
abbrev Utility := List String → State → State

namespace Utility

/-- What the operating system says about an error. -/
def reason (e : FileError) : String :=
  Text.trimmed (String.ofList (e.message.toList.takeWhile (· != '(')))

/-- Writes what is wrong, and fails. -/
def fail (name text : String) (s : State) : State :=
  (s.report (name ++ ": " ++ text)).withStatus 1

def failOn (name path : String) (e : FileError) (s : State) : State :=
  fail name (path ++ ": " ++ reason e) s

/-- The bytes at a path, or of the input where the path is a dash. -/
def content (path : String) (s : State) : Except FileError (List UInt8 × State) :=
  if path == "-" then .ok s.takeInput else (s.readFile path).map fun bytes => (bytes.toList, s)

/-- Does something with the bytes of files, or of the input if there are none. -/
def eachFile (name : String) (work : String → List UInt8 → State → State) (paths : List String)
    (s : State) : State :=
  let paths := if paths.isEmpty then ["-"] else paths
  paths.foldl
    (fun s path =>
      match content path s with
      | .ok (bytes, s) => work path bytes s
      | .error e => failOn name path e s)
    (s.withStatus 0)

def isOption (text : String) : Bool :=
  text.toList.head? == some '-' && text != "-"

/-- The arguments behind the options. -/
def withoutOptions (arguments : List String) : List String :=
  arguments.dropWhile isOption

/-! ## Putting out -/

def concatenate : Utility := fun arguments =>
  eachFile "cat" (fun _ bytes s => s.putBytes bytes) (withoutOptions arguments)

/-- Bytes line by line, each with its end. -/
def linesOf (bytes : List UInt8) : List (List UInt8) :=
  let (last, lines) := bytes.foldr
    (fun b (acc : List UInt8 × List (List UInt8)) =>
      if b == 10 then ([10], if acc.1.isEmpty then acc.2 else acc.1 :: acc.2)
        else (b :: acc.1, acc.2))
    ([], [])
  if last.isEmpty then lines else last :: lines

/-- How much of a file is wanted. -/
structure Amount where
  count : Nat := 10
  inBytes : Bool := false
  /-- Whether it is counted from the other end. -/
  isReversed : Bool := false

/-- The amount that options say, and the other arguments. -/
def amount : Amount → List String → Amount × List String
  | a, "-n" :: count :: rest => amount (sized a false count.toList) rest
  | a, "-c" :: count :: rest => amount (sized a true count.toList) rest
  | a, option :: rest =>
    match option.toList with
    | '-' :: 'n' :: c :: count => amount (sized a false (c :: count)) rest
    | '-' :: 'c' :: c :: count => amount (sized a true (c :: count)) rest
    | '-' :: c :: count =>
      if Text.isAsciiDigit c then amount (sized a false (c :: count)) rest else (a, option :: rest)
    | _ => (a, option :: rest)
  | a, [] => (a, [])
where
  /-- The amount with a number. -/
  sized (a : Amount) (inBytes : Bool) (count : List Char) : Amount :=
    match count with
    | '+' :: digits | '-' :: digits => ⟨Text.digitsValue digits, inBytes, true⟩
    | digits => { a with count := Text.digitsValue digits, inBytes }

/-- The start of files. -/
def head : Utility := fun arguments =>
  let (a, paths) := amount {} arguments
  let take {α : Type} (all : List α) : List α :=
    all.take (if a.isReversed then all.length - a.count else a.count)
  let start (bytes : List UInt8) := if a.inBytes then take bytes else (take (linesOf bytes)).flatten
  eachOpened "head" (fun bytes s => s.putBytes (start bytes)) paths
where
  /-- Does something with the bytes of files that can be opened. -/
  eachOpened (name : String) (work : List UInt8 → State → State) (paths : List String)
      (s : State) : State :=
    let paths := if paths.isEmpty then ["-"] else paths
    paths.foldl
      (fun s path =>
        match content path s with
        | .ok (bytes, s) => work bytes s
        | .error e => fail name ("cannot open '" ++ path ++ "' for reading: " ++ reason e) s)
      (s.withStatus 0)

/-- The end of files. -/
def tail : Utility := fun arguments =>
  let (a, paths) := amount {} arguments
  let take {α : Type} (all : List α) : List α :=
    all.drop (if a.isReversed then a.count - 1 else all.length - a.count)
  let rest (bytes : List UInt8) := if a.inBytes then take bytes else (take (linesOf bytes)).flatten
  head.eachOpened "tail" (fun bytes s => s.putBytes (rest bytes)) paths

/-- Lines without end. -/
def yes : Utility := fun arguments s =>
  let line := (if arguments.isEmpty then "y" else " ".intercalate arguments) ++ "\n"
  let bytes := line.toUTF8.toList
  (s.putBytes (List.replicate (State.endlessLength / bytes.length) bytes).flatten).withStatus 0

/-- Numbers in sequence. -/
def sequence : Utility := fun arguments s =>
  let numbers := arguments.filterMap fun text => Text.int64Of? text.toList
  let (first, step, last) := match numbers with
    | [last] => (1, 1, last)
    | [first, last] => (first, 1, last)
    | first :: step :: last :: _ => (first, step, last)
    | [] => (1, 1, 0)
  let count := if step = 0 then 0 else ((last - first) / step + 1).toNat
  let line (n : Nat) : String := Text.intText (first + step * Int.ofNat n) ++ "\n"
  let text := (List.range count).flatMap fun n => (line n).toUTF8.toList
  (s.putBytes text).withStatus 0

/-- The value of an expression of two words and an operator between them; it fails if
that is nothing. -/
def expression : Utility := fun arguments s =>
  let truth (b : Bool) : String := if b then "1" else "0"
  let compare (left right : String) : Ordering :=
    match Text.int64Of? left.toList, Text.int64Of? right.toList with
    | some m, some n => Ord.compare m n
    | _, _ => Ord.compare left right
  let calculated (m n : Int) : String → Option Int
    | "+" => some (m + n)
    | "-" => some (m - n)
    | "*" => some (m * n)
    | "/" => if n = 0 then none else some (m.tdiv n)
    | "%" => if n = 0 then none else some (m.tmod n)
    | _ => none
  let value (text : String) : State :=
    (s.putLine text).ofTruth (text != "0" && !text.isEmpty)
  match arguments with
  | [text] => value text
  | [left, operator, right] =>
    match operator with
    | "=" => value (truth (compare left right == .eq))
    | "!=" => value (truth (compare left right != .eq))
    | "<" => value (truth (compare left right == .lt))
    | "<=" => value (truth (compare left right != .gt))
    | ">" => value (truth (compare left right == .gt))
    | ">=" => value (truth (compare left right != .lt))
    | _ =>
      match Text.int64Of? left.toList, Text.int64Of? right.toList with
      | some m, some n =>
        match calculated m n operator with
        | some n => value (Text.intText n)
        | none =>
          if operator == "/" || operator == "%" then (fail "expr" "division by zero" s).withStatus 2
          else (fail "expr" ("syntax error: unexpected argument '" ++ operator ++ "'")
            s).withStatus 2
      | _, _ => (fail "expr" "non-integer argument" s).withStatus 2
  | _ => (fail "expr" "syntax error" s).withStatus 2

/-- Numbers of lines, words and bytes. -/
def count : Utility := fun arguments s =>
  let options := (arguments.takeWhile isOption).flatMap fun option => option.toList.drop 1
  let paths := withoutOptions arguments
  let words (bytes : List UInt8) : Nat :=
    (bytes.foldl
      (fun (acc : Nat × Bool) b =>
        let isBlank := b == 32 || (9 ≤ b && b ≤ 13)
        (if acc.2 && !isBlank then acc.1 + 1 else acc.1, isBlank))
      (0, true)).1
  let all (bytes : List UInt8) : List (Char × Nat) :=
    [('l', bytes.count 10), ('w', words bytes), ('c', bytes.length)]
  let wanted := if options.isEmpty then ['l', 'w', 'c'] else options
  let line (path : String) (bytes : List UInt8) : String :=
    let counts := (all bytes).filter fun entry => wanted.contains entry.1
    let width := if counts.length = 1 then 1 else if path == "-" then 7
      else (Text.decimal bytes.length).length
    let texts := counts.map fun entry =>
      let digits := Text.decimal entry.2
      String.ofList (List.replicate (width - digits.length) ' ' ++ digits)
    " ".intercalate (texts ++ if path == "-" then [] else [path])
  eachFile "wc" (fun path bytes s => s.putLine (line path bytes)) paths s

/-- The characters of a set. -/
def setOf : List Char → List Char
  | low :: '-' :: high :: rest =>
    ((List.range (high.toNat + 1 - low.toNat)).map fun n => Char.ofNat (low.toNat + n)) ++
      setOf rest
  | '\\' :: '0' :: rest => '\x00' :: setOf rest
  | '\\' :: 'n' :: rest => '\n' :: setOf rest
  | '\\' :: 't' :: rest => '\t' :: setOf rest
  | c :: rest => c :: setOf rest
  | [] => []

/-- The input with some characters replaced or left out. -/
def translate : Utility := fun arguments s =>
  let (bytes, s) := s.takeInput
  let bytesOf (set : String) : List UInt8 := (setOf set.toList).map fun c => UInt8.ofNat c.toNat
  let result := match arguments with
    | ["-d", set] =>
      let set := bytesOf set
      bytes.filter fun b => !set.contains b
    | [source, target] =>
      let target := bytesOf target
      let last := target.getLast?.getD 0
      let source := bytesOf source
      let pairs := source.zip (target ++ List.replicate (source.length - target.length) last)
      bytes.map fun b => (pairs.lookup b).getD b
    | _ => bytes
  (s.putBytes result).withStatus 0

/-! ## Paths -/

def baseName : Utility := fun arguments s =>
  match arguments with
  | [] => fail "basename" "missing operand" s
  | path :: rest =>
    let name := ((Path.fileName? path).map String.ofList).getD path
    let ending := rest.headD ""
    let cut := ending.toList.isSuffixOf name.toList && name != ending
    let name := if cut then String.ofList (name.toList.take (name.length - ending.length)) else name
    (s.putLine name).withStatus 0

def directoryName : Utility := fun arguments s =>
  let name (path : String) : String :=
    match Path.parent? path with
    | none => "/"
    | some parent => if parent.isEmpty then "." else parent
  (arguments.foldl (fun s path => s.putLine (name path)) s).withStatus 0

/-! ## Directories -/

/-- The names in a directory, in their order. -/
def namesIn (tree : FileTree) (directory : Location) : List String :=
  let names := tree.nodes.filterMap fun (location, _) =>
    if location.length == directory.length + 1 && directory.isPrefixOf location then
      location.getLast?
    else none
  names.mergeSort (· ≤ ·)

/-- Puts out what is at paths, and what is in directories. -/
def list : Utility := fun arguments s =>
  let paths := withoutOptions arguments
  let paths := if paths.isEmpty then ["."] else paths
  let putOut (path : String) (s : State) : State :=
    match s.tree.locate s.directory path with
    | .error e =>
      (s.report ("ls: cannot access '" ++ path ++ "': " ++ reason e)).withStatus 2
    | .ok location =>
      if s.tree.isDirectoryAt location then
        let visible := (namesIn s.tree location).filter fun name => name.toList.head? != some '.'
        let s := if paths.length ≤ 1 then s else s.putLine (path ++ ":")
        visible.foldl State.putLine s
      else s.putLine path
  paths.foldl (fun s path => putOut path s) (s.withStatus 0)

/-- Makes directories. -/
def makeDirectory : Utility := fun arguments s =>
  let withParents := arguments.contains "-p"
  let make (s : State) (path : String) : State :=
    let result := if withParents then s.tree.makeDirectories s.directory path
      else s.tree.makeDirectory s.directory path
    match result with
    | .ok tree => { s with tree }
    | .error e => fail "mkdir" ("cannot create directory '" ++ path ++ "': " ++ reason e) s
  (withoutOptions arguments).foldl make (s.withStatus 0)

/-- A tree without a location and what is in it. -/
def withoutLocation (tree : FileTree) (location : Location) : FileTree :=
  ⟨tree.nodes.filter fun entry => !location.isPrefixOf entry.1⟩

/-- Removes files, and directories where an option says so. -/
def remove : Utility := fun arguments s =>
  let options := (arguments.takeWhile isOption).flatMap fun option => option.toList.drop 1
  let isRecursive := options.contains 'r' || options.contains 'R'
  let removeOne (s : State) (path : String) : State :=
    match s.tree.locate s.directory path with
    | .error e =>
      if options.contains 'f' then s
      else fail "rm" ("cannot remove '" ++ path ++ "': " ++ reason e) s
    | .ok location =>
      if s.tree.isDirectoryAt location && !isRecursive then
        fail "rm" ("cannot remove '" ++ path ++ "': Is a directory") s
      else { s with tree := withoutLocation s.tree location }
  (withoutOptions arguments).foldl removeOne (s.withStatus 0)

/-- Makes files that are not there yet. -/
def touch : Utility := fun arguments s =>
  let touchOne (s : State) (path : String) : State :=
    match s.tree.writingPlace s.directory path with
    | .ok location => if (s.tree.node? location).isSome then s else s.store location .empty
    | .error e => fail "touch" ("cannot touch '" ++ path ++ "': " ++ reason e) s
  (withoutOptions arguments).foldl touchOne (s.withStatus 0)

/-- Makes files executable. -/
def changeMode : Utility := fun arguments s =>
  match arguments with
  | mode :: paths =>
    let isExecutable := mode.toList.contains 'x' || mode.toList.any fun c => c == '7' || c == '5'
    paths.foldl
      (fun s path =>
        match s.tree.locate s.directory path with
        | .error e => fail "chmod" ("cannot access '" ++ path ++ "': " ++ reason e) s
        | .ok location =>
          match s.tree.node? location with
          | some (.file content _) =>
            let executable := isExecutable && mode.toList.head? != some '-'
            { s with tree := s.tree.put location (.file content executable) }
          | _ => s)
      (s.withStatus 0)
  | [] => fail "chmod" "missing operand" s

/-! ## Time -/

/-- A number of seconds, which may have a fraction, in milliseconds. -/
def duration? (text : String) : Option Nat :=
  let own := text.toList
  let (digits, factor) := match own.getLast? with
    | some 's' => (own.dropLast, 1)
    | some 'm' => (own.dropLast, 60)
    | some 'h' => (own.dropLast, 3600)
    | _ => (own, 1)
  let whole := digits.takeWhile Text.isAsciiDigit
  let fraction := digits.drop whole.length
  let isFraction := match fraction with
    | '.' :: rest => rest.all Text.isAsciiDigit
    | _ => fraction.isEmpty
  if digits.isEmpty || !isFraction then none
  else
    let thousandths := ((fraction.drop 1) ++ ['0', '0', '0']).take 3
    some (factor * (1000 * Text.digitsValue whole + Text.digitsValue thousandths))

/-- Lets time pass. -/
def sleep : Utility := fun arguments s =>
  let advice (s : State) : State := s.report "Try 'sleep --help' for more information."
  if arguments.isEmpty then (advice (fail "sleep" "missing operand" s)).withStatus 1
  else
    match arguments.find? fun text => (duration? text).isNone with
    | some text => (advice (fail "sleep" ("invalid time interval '" ++ text ++ "'") s)).withStatus 1
    | none =>
      let total := (arguments.filterMap duration?).foldl (· + ·) 0
      (s.waitUntil (s.clock + total)).withStatus 0

/-! ## All of them -/

/-- The program of a name. -/
def named? : String → Option Utility
  | "cat" => some concatenate
  | "head" => some head
  | "tail" => some tail
  | "yes" => some yes
  | "seq" => some sequence
  | "expr" => some expression
  | "wc" => some count
  | "tr" => some translate
  | "basename" => some baseName
  | "dirname" => some directoryName
  | "ls" => some list
  | "mkdir" => some makeDirectory
  | "rm" => some remove
  | "touch" => some touch
  | "chmod" => some changeMode
  | "sleep" => some sleep
  | "true" => some fun _ s => s.withStatus 0
  | "false" => some fun _ s => s.withStatus 1
  | "echo" => some fun arguments s => (s.putBytes (echo arguments)).withStatus 0
  | _ => none

end Utility

end ActionBoard.Shell
