import ActionBoard.Simulation.Shell.State

/-!
# Shell scripts: conditions

Conditions on texts, numbers and files, which are joined by operators of their own.
-/

namespace ActionBoard.Shell.Condition

/-- The value of a condition, or what is wrong with it; and the words behind it. -/
abbrev Reading := Except String (Bool × List String)

def unaryOperators : List String :=
  ["-n", "-z", "-e", "-f", "-d", "-r", "-w", "-x", "-s", "-L", "-h", "-t", "-p", "-S", "-b", "-c"]

def binaryOperators : List String :=
  ["=", "!=", "<", ">", "-eq", "-ne", "-lt", "-le", "-gt", "-ge", "-nt", "-ot", "-ef"]

/-- Whether something is true of a text or of the file at a path. -/
def unary (s : State) (operator text : String) : Bool :=
  let node := ((s.tree.locate s.directory text).toOption.bind s.tree.node?)
  match operator with
  | "-n" => !text.isEmpty
  | "-z" => text.isEmpty
  | "-e" | "-r" | "-w" => node.isSome
  | "-f" => s.tree.isFile s.directory text
  | "-d" => s.tree.isDirectory s.directory text
  | "-x" =>
    match node with
    | some .directory | some (.file _ true) => true
    | _ => false
  | "-s" =>
    match node with
    | some (.file content _) => content.size != 0
    | some .directory => true
    | _ => false
  | "-L" | "-h" =>
    match s.tree.locate s.directory (FileTree.directoryOf text), Path.fileName? text with
    | .ok above, some name =>
      match s.tree.node? (above ++ [String.ofList name]) with
      | some (.link _) => true
      | _ => false
    | _, _ => false
  | _ => false

/-- The number that a word is. -/
def number (text : String) : Except String Int :=
  match Text.int64Of? (Text.trim text.toList) with
  | some n => .ok n
  | none => .error ("Illegal number: " ++ text)

/-- Whether something is true of two texts. -/
def binary (operator left right : String) : Except String Bool := do
  match operator with
  | "=" => .ok (left == right)
  | "!=" => .ok (left != right)
  | "<" => .ok (left < right)
  | ">" => .ok (right < left)
  | "-eq" => .ok ((← number left) == (← number right))
  | "-ne" => .ok ((← number left) != (← number right))
  | "-lt" => .ok ((← number left) < (← number right))
  | "-le" => .ok ((← number left) ≤ (← number right))
  | "-gt" => .ok ((← number left) > (← number right))
  | "-ge" => .ok ((← number left) ≥ (← number right))
  | _ => .ok false

/-- A condition that is not joined with others. -/
def readPrimary (s : State) (readAll : List String → Reading) : Nat → List String → Reading
  | 0, words => .ok (false, words)
  | fuel + 1, words =>
    match words with
    | [] => .ok (false, [])
    | [text] => .ok (!text.isEmpty, [])
    | left :: operator :: rest =>
      if binaryOperators.contains operator &&
        !(left == "!" && binaryOperators.contains (rest.headD "")) then
        match rest with
        | right :: rest => (binary operator left right).map (·, rest)
        | [] => .error (operator ++ ": argument expected")
      else if left == "!" then
        (readPrimary s readAll fuel (operator :: rest)).map fun (truth, rest) => (!truth, rest)
      else if left == "(" then
        match readAll (operator :: rest) with
        | .ok (truth, ")" :: rest) => .ok (truth, rest)
        | .ok _ => .error "closing paren expected"
        | fault => fault
      else if unaryOperators.contains left then .ok (unary s left operator, rest)
      else if operator == "-a" || operator == "-o" || operator == ")" then
        .ok (!left.isEmpty, operator :: rest)
      else .error (left ++ ": unexpected operator")

/-- Conditions of which all, or of which one, has to be true. -/
def readJoined (operator : String) (readOne : List String → Reading) : Nat → List String → Reading
  | 0, words => .ok (false, words)
  | fuel + 1, words => do
    match ← readOne words with
    | (first, next :: rest) =>
      if next == operator then
        let (second, rest) ← readJoined operator readOne fuel rest
        .ok (if operator == "-a" then first && second else first || second, rest)
      else .ok (first, next :: rest)
    | result => .ok result

/-- A whole condition. -/
def readAll (s : State) : Nat → List String → Reading
  | 0, words => .ok (false, words)
  | fuel + 1, words =>
    let length := words.length + 1
    readJoined "-o" (readJoined "-a" (readPrimary s (readAll s fuel) length) length) length words

/-- Whether a condition is true. -/
def evaluate (s : State) (words : List String) : Except String Bool := do
  let (truth, rest) ← readAll s (words.length + 1) words
  if rest.isEmpty then .ok truth
  else .error ((words[words.length - rest.length - 1]?).getD "" ++ ": unexpected operator")

end ActionBoard.Shell.Condition
