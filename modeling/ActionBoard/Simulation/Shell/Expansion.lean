import ActionBoard.Simulation.Shell.Arithmetic
import ActionBoard.Simulation.Shell.Pattern
import ActionBoard.Simulation.Shell.State
import ActionBoard.Simulation.Shell.Token
import ActionBoard.Simulation.Shell.Utility

/-!
# Shell scripts: what becomes of words

A word becomes any number of fields.  Values that are not quoted are split at blanks, and a field
that is a pattern becomes the paths that it stands for, if there are any.

What is substituted may have to be executed, may set variables, and may be at fault.  How a script
is executed is an argument here.
-/

namespace ActionBoard.Shell

/-- Something that is done with a shell and may be at fault. -/
abbrev Expansion := StateT State (Except String)

/-- How a script is executed for what it writes. -/
abbrev Capture := List Char → State → List UInt8 × State

/-! ## Fields -/

/-- Fields that are complete, and one that is not, if there is one. -/
structure Fields where
  complete : List (List Marked) := []
  current : Option (List Marked) := none

namespace Fields

/-- With characters behind the last field. -/
def add (fields : Fields) (text : List Marked) : Fields :=
  { fields with current := some (fields.current.getD [] ++ text) }

/-- With the last field complete. -/
def close (fields : Fields) : Fields :=
  { complete := fields.complete ++ fields.current.toList }

def all (fields : Fields) : List (List Marked) :=
  fields.close.complete

end Fields

def quote (text : List Char) : List Marked :=
  text.map fun c => (c, true)

/-- The characters that fields are separated by. -/
def separators (s : State) : List Char :=
  ((s.value? "IFS").getD " \t\n").toList

/-- Fields with a value that is to be split behind them. -/
def splitInto (separators : List Char) (fields : Fields) : List Char → Fields
  | [] => fields
  | c :: rest =>
    if separators.contains c then
      if c == ' ' || c == '\t' || c == '\n' then splitInto separators fields.close rest
      else splitInto separators { complete := fields.complete ++ [fields.current.getD []] } rest
    else splitInto separators (fields.add [(c, false)]) rest

/-- Fields with a value behind them. -/
def addValue (s : State) (fields : Fields) (quoted : Bool) (value : List Char) : Fields :=
  if quoted then fields.add (quote value) else splitInto (separators s) fields value

/-- Fields with the arguments of the script behind them, each of them a field of its own.  If there
are none, the quotes around them make no field either. -/
def addArguments (fields : Fields) : List String → Fields
  | [] => if fields.current == some [] then { fields with current := none } else fields
  | [last] => fields.add (quote last.toList)
  | first :: rest => addArguments (fields.add (quote first.toList)).close rest

def withoutLineEnds (text : List Char) : List Char :=
  (text.reverse.dropWhile (· == '\n')).reverse

/-! ## Pieces -/

/-- What a script writes, without the ends of lines behind it. -/
def substituteOutput (capture : Capture) (script : List Char) : Expansion (List Char) := do
  let (bytes, s) := capture script (← get)
  set s
  return withoutLineEnds (Text.decode bytes).toList

/-- The value of an expression, in which everything has been replaced. -/
def substituteNumber (expression : List Char) : Expansion (List Char) := do
  let s ← get
  let fault (text : String) : String :=
    "arithmetic expression: " ++ text ++ ": \"" ++ String.ofList expression ++ "\""
  match Expression.ofText expression with
  | .error text => throw (fault text)
  | .ok e =>
    match e.evaluate (fun name => (s.value? name).getD "") [] with
    | .error (.ofExpression text) => throw (fault text)
    | .error (.ofValue text) => throw text
    | .ok (n, settings) =>
      set (settings.reverse.foldl (fun s entry => s.assign entry.1 (Text.intText entry.2)) s)
      return Text.decimalInt n

/-- The value of a parameter that need not have one. -/
def parameterValue (name : String) : Expansion (List Char) := do
  let s ← get
  match s.parameter? name with
  | some value => return value.toList
  | none =>
    if s.refusesUnset && name != "@" && name != "*" then throw (name ++ ": parameter not set")
    else return []

/-- What an operator makes of a parameter, where the argument is evaluated by `evaluate`; either a
value, or the argument itself. -/
def applyOperator (evaluate : List Char → Expansion (List Marked)) (name operator : String)
    (argument : List Char) : Expansion (List Char ⊕ Unit) := do
  let value := ((← get).parameter? name).map String.toList
  let present := if operator.length == 2 then value.filter (!·.isEmpty) else value
  let plain (text : List Marked) : List Char := text.map Prod.fst
  match operator with
  | "-" | ":-" => return present.elim (.inr ()) .inl
  | "+" | ":+" => return if present.isSome then .inr () else .inl []
  | "=" | ":=" =>
    match present with
    | some value => return .inl value
    | none =>
      let value := plain (← evaluate argument)
      modify fun s => s.assign name (String.ofList value)
      return .inl value
  | "?" | ":?" =>
    match present with
    | some value => return .inl value
    | none =>
      let text := plain (← evaluate argument)
      let standard := if operator == ":?" then "parameter not set or null" else "parameter not set"
      throw (name ++ ": " ++ if text.isEmpty then standard else String.ofList text)
  | "length" => return .inl (Text.decimal (← parameterValue name).length)
  | "%" => return .inl (withoutEnd false (pattern (← evaluate argument)) (value.getD []))
  | "%%" => return .inl (withoutEnd true (pattern (← evaluate argument)) (value.getD []))
  | "#" => return .inl (withoutStart false (pattern (← evaluate argument)) (value.getD []))
  | "##" => return .inl (withoutStart true (pattern (← evaluate argument)) (value.getD []))
  | "" => return .inl (← parameterValue name)
  | _ => throw "Bad substitution"

/-- Fields with the pieces of a word behind them.  At most `fuel` words may stand in each other. -/
def expandPieces (capture : Capture) (splits : Bool) : Nat → Word → Fields → Expansion Fields
  | 0, _, fields => return fields
  | _, [], fields => return fields
  | fuel + 1, piece :: rest, fields => do
    let evaluate (argument : List Char) : Expansion (List Marked) := do
      return (← expandPieces capture false fuel (wordOf argument) {}).all.flatten
    let add (quoted : Bool) (value : List Char) : Expansion Fields := do
      let s ← get
      return if splits then addValue s fields quoted value
        else fields.add (value.map fun c => (c, quoted))
    let fields ← match piece with
      | .text content quoted => pure (fields.add (content.map fun c => (c, quoted)))
      | .output script quoted =>
        let value ← substituteOutput capture script
        add quoted value
      | .number expression quoted =>
        let text ← expandPieces capture false fuel (hereWordOf expression) {}
        let value ← substituteNumber (text.all.flatten.map Prod.fst)
        add quoted value
      | .value "@" "" _ true =>
        let arguments := (← get).arguments
        pure (if splits then addArguments fields arguments
          else fields.add (quote (" ".intercalate arguments).toList))
      | .value name operator argument quoted =>
        match ← applyOperator evaluate name operator argument with
        | .inl value => add quoted value
        | .inr () =>
          if quoted then
            let marked ← evaluate argument
            pure (fields.add (quote (marked.map Prod.fst)))
          else expandPieces capture splits fuel (wordOf argument) fields
    expandPieces capture splits fuel rest fields

/-- How deep words may stand in each other, and how many pieces they may have. -/
def expansionDepth : Nat := 1000

/-- The characters of a word that is not split. -/
def expandMarked (capture : Capture) (word : Word) : Expansion (List Marked) := do
  return (← expandPieces capture false expansionDepth word {}).all.flatten

/-- The home directory in place of a tilde at the start of a word. -/
def expandTilde (s : State) (word : Word) : Word :=
  match word with
  | .text ('~' :: rest) false :: others =>
    match rest, s.value? "HOME" with
    | [], some home | '/' :: _, some home =>
      .text home.toList true :: .text rest false :: others
    | _, _ => word
  | _ => word

/-- The value of a word that is not split. -/
def expandText (capture : Capture) (word : Word) : Expansion String := do
  let marked ← expandMarked capture (expandTilde (← get) word)
  return String.ofList (marked.map Prod.fst)

/-! ## Paths -/

/-- The parts of a path that is marked. -/
def splitMarked : List Marked → List (List Marked)
  | [] => [[]]
  | m :: rest =>
    if m.1 == '/' then [] :: splitMarked rest
    else
      match splitMarked rest with
      | part :: parts => (m :: part) :: parts
      | [] => [[m]]

/-- The paths that parts of a path stand for behind a path that is given. -/
def expandParts (s : State) (start : List Char) : List (List Marked) → List (List Char)
  | [] => [start]
  | part :: rest =>
    let join (name : List Char) : List Char :=
      start ++ name ++ if rest.isEmpty then [] else ['/']
    if isPattern part then
      let place := if start.isEmpty then "." else String.ofList start
      let names := match s.tree.locate s.directory place with
        | .ok location => Utility.namesIn s.tree location
        | .error _ => []
      let isHidden (name : String) : Bool := name.toList.head? == some '.'
      let fits (name : String) : Bool :=
        standsFor (pattern part) name.toList && (!isHidden name || part.head?.any (·.1 == '.'))
      let found := (names.filter fits).filter fun name =>
        rest.isEmpty || s.tree.isDirectory s.directory (String.ofList (start ++ name.toList))
      found.flatMap fun name => expandParts s (join name.toList) rest
    else expandParts s (join (part.map Prod.fst)) rest

/-- The paths that a field stands for; itself, where there are none. -/
def expandPaths (s : State) (field : List Marked) : List String :=
  let own := String.ofList (field.map Prod.fst)
  if isPattern field then
    match (expandParts s [] (splitMarked field)).map String.ofList with
    | [] => [own]
    | found => found
  else [own]

/-- The fields that a word becomes. -/
def expandWord (capture : Capture) (word : Word) : Expansion (List String) := do
  let word := expandTilde (← get) word
  let fields ← expandPieces capture true expansionDepth word {}
  let s ← get
  return fields.all.flatMap (expandPaths s)

/-- The fields that words become. -/
def expandWords (capture : Capture) : List Word → Expansion (List String)
  | [] => return []
  | word :: rest => do
    let fields ← expandWord capture word
    return fields ++ (← expandWords capture rest)

end ActionBoard.Shell
