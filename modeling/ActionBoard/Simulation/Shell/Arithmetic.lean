import ActionBoard.Simulation.Shell.Syntax
import ActionBoard.Text.Numeral

/-!
# Shell scripts: expressions

Expressions on whole numbers.  A name stands for the number that is the value of its variable,
and for zero if that is empty.  Assignments are expressions, so evaluation gives the variables
that were set as well.
-/

namespace ActionBoard.Shell

inductive Expression where
  | literal (n : Int)
  | name (name : String)
  | unary (operator : String) (operand : Expression)
  | binary (operator : String) (left right : Expression)
  | choose (condition yes no : Expression)
  /-- Sets a variable to the value, or to what an operator makes of its own value and that. -/
  | assign (name operator : String) (value : Expression)

namespace Expression

/-! ## Reading -/

/-- The operators, longer ones first. -/
def operators : List String :=
  ["<<=", ">>=", "+=", "-=", "*=", "/=", "%=", "&=", "^=", "|=", "<<", ">>", "<=", ">=", "==", "!=",
    "&&", "||", "+", "-", "*", "/", "%", "<", ">", "=", "!", "~", "&", "|", "^", "?", ":", "(", ")"]

/-- A part of an expression: a number, a name or an operator. -/
inductive Part where
  | number (n : Int)
  | name (text : String)
  | operator (text : String)
  deriving DecidableEq

/-- The value of a digit in any base up to sixteen. -/
def digitOf (c : Char) : Nat :=
  if Text.isAsciiDigit c then c.toNat - '0'.toNat
  else if 'a' ≤ c && c ≤ 'f' then c.toNat - 'a'.toNat + 10
  else if 'A' ≤ c && c ≤ 'F' then c.toNat - 'A'.toNat + 10
  else 16

/-- The number of a row of digits in a base, if all of them are digits of it. -/
def inBase? (base : Nat) (digits : List Char) : Option Nat :=
  if !digits.isEmpty && digits.all fun c => digitOf c < base then
    some (digits.foldl (fun n c => base * n + digitOf c) 0)
  else none

/-- The number of a text that begins with a digit. -/
def numeral? : List Char → Option Nat
  | '0' :: 'x' :: rest | '0' :: 'X' :: rest => inBase? 16 rest
  | '0' :: rest => if rest.isEmpty then some 0 else inBase? 8 rest
  | digits => inBase? 10 digits

/-- The parts of a text. -/
def parts? : Nat → List Char → Option (List Part)
  | 0, _ => none
  | _, [] => some []
  | fuel + 1, c :: rest =>
    if c == ' ' || c == '\t' || c == '\n' then parts? fuel rest
    else if isNameStart c then
      let text := String.ofList (c :: rest.takeWhile isNameChar)
      (parts? fuel (rest.dropWhile isNameChar)).map (.name text :: ·)
    else if Text.isAsciiDigit c then do
      let n ← numeral? (c :: rest.takeWhile isNameChar)
      some (.number n :: (← parts? fuel (rest.dropWhile isNameChar)))
    else do
      let operator ← operators.find? fun operator => operator.toList.isPrefixOf (c :: rest)
      some (.operator operator :: (← parts? fuel ((c :: rest).drop operator.length)))

/-- How tightly an operator between two operands binds. -/
def precedence? : String → Option Nat
  | "*" | "/" | "%" => some 10
  | "+" | "-" => some 9
  | "<<" | ">>" => some 8
  | "<" | "<=" | ">" | ">=" => some 7
  | "==" | "!=" => some 6
  | "&" => some 5
  | "^" => some 4
  | "|" => some 3
  | "&&" => some 2
  | "||" => some 1
  | _ => none

/-- The operator in front of the equals sign of an assignment. -/
def assignment? (operator : String) : Option String :=
  if ["=", "+=", "-=", "*=", "/=", "%=", "&=", "^=", "|=", "<<=", ">>="].contains operator then
    some (String.ofList operator.toList.dropLast)
  else none

abbrev Reader := List Part → Except String (Expression × List Part)

/-- An operand: a number, a name, or an expression in parentheses. -/
def readPrimary (readAll : Reader) : Nat → Reader
  | 0, _ => .error "expecting primary"
  | fuel + 1, parts =>
    match parts with
    | .number n :: rest => .ok (literal n, rest)
    | .name text :: rest => .ok (name text, rest)
    | .operator "(" :: rest => do
      match ← readAll rest with
      | (inner, .operator ")" :: rest) => .ok (inner, rest)
      | _ => .error "expecting ')'"
    | .operator operator :: rest =>
      if ["+", "-", "!", "~"].contains operator then do
        let (operand, rest) ← readPrimary readAll fuel rest
        .ok (unary operator operand, rest)
      else .error "expecting primary"
    | [] => .error "expecting primary"

/-- Operands with operators between them that bind at least as tightly as given. -/
def readBinary (readAll : Reader) : Nat → Nat → Expression → Reader
  | 0, _, left, parts => .ok (left, parts)
  | fuel + 1, least, left, parts =>
    match parts with
    | .operator operator :: rest =>
      match (precedence? operator).filter (least ≤ ·) with
      | none => .ok (left, parts)
      | some own => do
        let (right, rest) ← readPrimary readAll (rest.length + 1) rest
        let (right, rest) ← readBinary readAll fuel (own + 1) right rest
        readBinary readAll fuel least (binary operator left right) rest
    | _ => .ok (left, parts)

/-- A whole expression. -/
def readWhole : Nat → Reader
  | 0, _ => .error "expecting primary"
  | fuel + 1, parts => do
    let assigned := match parts with
      | .name target :: .operator operator :: rest =>
        (assignment? operator).map fun operator => (target, operator, rest)
      | _ => none
    match assigned with
    | some (target, operator, rest) =>
      let (value, rest) ← readWhole fuel rest
      .ok (assign target operator value, rest)
    | none =>
      let (first, rest) ← readPrimary (readWhole fuel) (parts.length + 1) parts
      let (condition, rest) ← readBinary (readWhole fuel) (parts.length + 1) 1 first rest
      match rest with
      | .operator "?" :: rest =>
        match ← readWhole fuel rest with
        | (yes, .operator ":" :: rest) =>
          let (no, rest) ← readWhole fuel rest
          .ok (choose condition yes no, rest)
        | _ => .error "expecting ':'"
      | _ => .ok (condition, rest)

/-- The expression that a text is; zero if it is blank. -/
def ofText (text : List Char) : Except String Expression := do
  match parts? (text.length + 1) text with
  | none => .error "expecting EOF"
  | some [] => .ok (literal 0)
  | some parts =>
    match ← readWhole (parts.length + 1) parts with
    | (e, []) => .ok e
    | _ => .error "expecting EOF"

/-! ## Evaluating -/

/-- Why an expression has no value. -/
inductive Problem where
  /-- The expression is at fault. -/
  | ofExpression (text : String)
  /-- The value of a variable is at fault. -/
  | ofValue (text : String)

/-- The number that the value of a variable is. -/
def ofValue (text : String) : Except Problem Int :=
  let own := text.toList.filter fun c => c != ' '
  let (isNegative, digits) := match own with
    | '-' :: rest => (true, rest)
    | '+' :: rest => (false, rest)
    | _ => (false, own)
  if own.isEmpty then .ok 0
  else
    match numeral? digits with
    | some n => .ok (if isNegative then -Int.ofNat n else n)
    | none => .error (.ofValue ("Illegal number: " ++ text))

def ofBool (b : Bool) : Int := if b then 1 else 0

/-- What an operator makes of two numbers. -/
def applyBinary (operator : String) (m n : Int) : Except Problem Int :=
  let words (f : UInt64 → UInt64 → UInt64) : Int :=
    (Int64.ofUInt64 (f (Int64.ofInt m).toUInt64 (Int64.ofInt n).toUInt64)).toInt
  match operator with
  | "+" => .ok (m + n)
  | "-" => .ok (m - n)
  | "*" => .ok (m * n)
  | "/" => if n = 0 then .error (.ofExpression "division by zero") else .ok (m.tdiv n)
  | "%" => if n = 0 then .error (.ofExpression "division by zero") else .ok (m.tmod n)
  | "<" => .ok (ofBool (m < n))
  | "<=" => .ok (ofBool (m ≤ n))
  | ">" => .ok (ofBool (m > n))
  | ">=" => .ok (ofBool (m ≥ n))
  | "==" => .ok (ofBool (m == n))
  | "!=" => .ok (ofBool (m != n))
  | "&&" => .ok (ofBool (m != 0 && n != 0))
  | "||" => .ok (ofBool (m != 0 || n != 0))
  | "&" => .ok (words (· &&& ·))
  | "|" => .ok (words (· ||| ·))
  | "^" => .ok (words (· ^^^ ·))
  | "<<" => .ok (words (· <<< ·))
  | ">>" => .ok ((Int64.ofInt m >>> Int64.ofInt n).toInt)
  | _ => .ok n

def applyUnary (operator : String) (n : Int) : Int :=
  match operator with
  | "-" => -n
  | "!" => ofBool (n == 0)
  | "~" => -n - 1
  | _ => n

/-- Variables that were set, latest first. -/
abbrev Settings := List (String × Int)

/-- The value of an expression where variables have values. -/
def evaluate (lookup : String → String) : Expression → Settings → Except Problem (Int × Settings)
  | literal n, set => .ok (n, set)
  | name text, set =>
    match set.lookup text with
    | some n => .ok (n, set)
    | none => do .ok (← ofValue (lookup text), set)
  | unary operator operand, set => do
    let (n, set) ← evaluate lookup operand set
    .ok (applyUnary operator n, set)
  | binary operator left right, set => do
    let (m, set) ← evaluate lookup left set
    if (operator == "&&" && m == 0) || (operator == "||" && m != 0) then .ok (ofBool (m != 0), set)
    else
      let (n, set) ← evaluate lookup right set
      .ok (← applyBinary operator m n, set)
  | choose condition yes no, set => do
    let (n, set) ← evaluate lookup condition set
    if n == 0 then evaluate lookup no set else evaluate lookup yes set
  | assign target operator value, set => do
    let (n, set) ← evaluate lookup value set
    let n ← match set.lookup target with
      | some old => applyBinary operator old n
      | none =>
        if operator.isEmpty then .ok n else do applyBinary operator (← ofValue (lookup target)) n
    .ok (n, (target, n) :: set)

end Expression

end ActionBoard.Shell
