import ActionBoard.Simulation.Shell.Syntax
import ActionBoard.Text.Numeral

/-!
# Shell scripts: tokens

A script is cut into words, operators and ends of lines.  Blanks and comments separate and say
nothing.  Where a script cannot be cut any further, there is a token for that as well
(`Token.fault`), since what stands before that place is executed first.

A text that stands in the script below a redirection is a word behind the redirection; the lines
that it takes are passed over at the end of the line.
-/

namespace ActionBoard.Shell

inductive Token where
  | word (content : Word)
  | operator (text : String)
  /-- What stands before the target of a redirection. -/
  | redirect (descriptor : Nat) (operator : String)
  | newline
  | endOfFile
  /-- Something that has a beginning but no end. -/
  | fault (message : String)
  deriving DecidableEq

/-- A token with the lines in which it begins and behind which it ends. -/
structure Located where
  token : Token
  first : Nat
  last : Nat
  deriving DecidableEq

/-! ## Pieces -/

/-- The text up to the closing character that fits one that is open already, where `depth` more are
open, and what follows it. -/
def takeBalanced (opening closing : Char) (depth : Nat) (quote : Option Char) (isEscaped : Bool) :
    List Char → Option (List Char × List Char)
  | [] => none
  | c :: rest =>
    let goOn (depth : Nat) (quote : Option Char) (isEscaped : Bool) :
        Option (List Char × List Char) :=
      (takeBalanced opening closing depth quote isEscaped rest).map fun (text, behind) =>
        (c :: text, behind)
    if isEscaped then goOn depth quote false
    else if quote == some '\'' then goOn depth (if c == '\'' then none else quote) false
    else if c == '\\' then goOn depth quote true
    else if c == '"' then goOn depth (if quote.isNone then some '"' else none) false
    else if quote.isSome then goOn depth quote false
    else if c == '\'' then goOn depth (some '\'') false
    else if c == closing then
      match depth with
      | 0 => some ([], rest)
      | depth + 1 => goOn depth none false
    else goOn (if c == opening then depth + 1 else depth) none false

/-- The operators behind the name of a parameter, longer ones first. -/
def parameterOperators : List String :=
  [":-", ":=", ":?", ":+", "%%", "##", "-", "=", "?", "+", "%", "#"]

/-- The parameter in braces. -/
def readParameter (quoted : Bool) (text : List Char) : Piece :=
  let named (text : List Char) : List Char × List Char :=
    match text with
    | c :: rest =>
      if isNameStart c then (text.takeWhile isNameChar, text.dropWhile isNameChar)
      else if Text.isAsciiDigit c then
        (text.takeWhile Text.isAsciiDigit, text.dropWhile Text.isAsciiDigit)
      else ([c], rest)
    | [] => ([], [])
  match text with
  | '#' :: c :: rest =>
    .value (String.ofList (c :: rest)) "length" [] quoted
  | _ =>
    let (name, behind) := named text
    let name := String.ofList name
    if behind.isEmpty then .value name "" [] quoted
    else
      match parameterOperators.find? fun operator => operator.toList.isPrefixOf behind with
      | some operator => .value name operator (behind.drop operator.length) quoted
      | none => .value name "bad" [] quoted

/-- The piece behind a dollar sign and what follows it; none where the sign stands for itself. -/
def readDollar (quoted : Bool) : List Char → Except String (Option (Piece × List Char))
  | '(' :: rest =>
    match takeBalanced '(' ')' 0 none false rest with
    | none => .error "end of file unexpected (expecting \")\")"
    | some (inner, behind) =>
      match inner with
      | '(' :: expression =>
        if expression.getLast? == some ')' then
          .ok (some (.number expression.dropLast quoted, behind))
        else .ok (some (.output inner quoted, behind))
      | _ => .ok (some (.output inner quoted, behind))
  | '\x7b' :: rest =>
    match takeBalanced '\x7b' '\x7d' 0 none false rest with
    | none => .error "Missing '\x7d'"
    | some (inner, behind) => .ok (some (readParameter quoted inner, behind))
  | c :: rest =>
    if isNameStart c then
      let name := String.ofList (c :: rest.takeWhile isNameChar)
      .ok (some (.value name "" [] quoted, rest.dropWhile isNameChar))
    else if Text.isAsciiDigit c || "#?$@*!-".toList.contains c then
      .ok (some (.value (String.ofList [c]) "" [] quoted, rest))
    else .ok none
  | [] => .ok none

/-- The script up to the closing backquote, and what follows it. -/
def readBackquoted : List Char → Option (List Char × List Char)
  | [] => none
  | '\x60' :: rest => some ([], rest)
  | '\\' :: c :: rest =>
    (readBackquoted rest).map fun (text, behind) =>
      (if "`\\$".toList.contains c then c :: text else '\\' :: c :: text, behind)
  | c :: rest => (readBackquoted rest).map fun (text, behind) => (c :: text, behind)

/-! ## Words -/

/-- A word that has been read so far. -/
structure Scan where
  /-- The pieces, the last one first. -/
  pieces : Word
  rest : List Char
  /-- What is wrong, where the word has no end. -/
  fault : Option String := none

/-- With a character behind the pieces. -/
def addChar (c : Char) (quoted : Bool) : Word → Word
  | .text content q :: pieces =>
    if q == quoted then .text (content ++ [c]) q :: pieces
    else .text [c] quoted :: .text content q :: pieces
  | pieces => .text [c] quoted :: pieces

def unterminated (pieces : Word) : Scan :=
  { pieces, rest := [], fault := some "Unterminated quoted string" }

/-- Goes on behind a dollar sign or a backquote. -/
def substitutionWith (quoted : Bool) (goOn : Word → List Char → Scan) (pieces : Word) (c : Char)
    (rest : List Char) : Scan :=
  if c == '$' then
    match readDollar quoted rest with
    | .ok (some (piece, rest)) => goOn (piece :: pieces) rest
    | .ok none => goOn (addChar c quoted pieces) rest
    | .error message => { pieces, rest := [], fault := some message }
  else
    match readBackquoted rest with
    | some (script, rest) => goOn (.output script quoted :: pieces) rest
    | none => { pieces, rest := [], fault := some "EOF in backquote substitution" }

/-- Goes on between double quotes, or in a text that stands in the script and has no closing
quote. -/
def readQuoted (isHere : Bool) : Nat → Word → List Char → Scan
  | 0, pieces, rest => ⟨pieces, rest, none⟩
  | _, pieces, [] => if isHere then ⟨pieces, [], none⟩ else unterminated pieces
  | fuel + 1, pieces, c :: rest =>
    if c == '"' && !isHere then ⟨pieces, rest, none⟩
    else if c == '$' || c == '\x60' then
      substitutionWith true (readQuoted isHere fuel) pieces c rest
    else if c == '\\' then
      match rest with
      | d :: rest =>
        if d == '\n' then readQuoted isHere fuel pieces rest
        else if "$`\\".toList.contains d || (d == '"' && !isHere) then
          readQuoted isHere fuel (addChar d true pieces) rest
        else readQuoted isHere fuel (addChar d true (addChar c true pieces)) rest
      | [] => readQuoted isHere fuel (addChar c true pieces) []
    else readQuoted isHere fuel (addChar c true pieces) rest

/-- Whether a character ends a word that is not quoted. -/
def endsWord (c : Char) : Bool :=
  c == ' ' || c == '\t' || c == '\n' || ";&|()<>".toList.contains c

/-- Goes on in a word; in one that is not an argument nothing but the end ends it. -/
def readWord (isWhole : Bool) : Nat → Word → List Char → Scan
  | 0, pieces, rest => ⟨pieces, rest, none⟩
  | _, pieces, [] => ⟨pieces, [], none⟩
  | fuel + 1, pieces, c :: rest =>
    if endsWord c && !isWhole then ⟨pieces, c :: rest, none⟩
    else if c == '\'' then
      match rest.dropWhile (· != '\'') with
      | [] => unterminated pieces
      | _ :: behind =>
        readWord isWhole fuel (.text (rest.takeWhile (· != '\'')) true :: pieces) behind
    else if c == '"' then
      let inner := readQuoted false (rest.length + 1) (.text [] true :: pieces) rest
      if inner.fault.isSome then inner else readWord isWhole fuel inner.pieces inner.rest
    else if c == '$' || c == '\x60' then
      substitutionWith false (readWord isWhole fuel) pieces c rest
    else if c == '\\' then
      match rest with
      | d :: rest =>
        readWord isWhole fuel (if d == '\n' then pieces else addChar d true pieces) rest
      | [] => ⟨addChar c false pieces, [], none⟩
    else readWord isWhole fuel (addChar c false pieces) rest

/-- The word that a whole text is. -/
def wordOf (text : List Char) : Word :=
  (readWord true (text.length + 1) [] text).pieces.reverse

/-- The word that a text is as if in double quotes, where quotes stand for themselves. -/
def hereWordOf (text : List Char) : Word :=
  (readQuoted true (text.length + 1) [] text).pieces.reverse

/-! ## Texts in the script -/

/-- The lines of a text up to one that is the delimiter, what follows that line, and how many
lines that are. -/
def readHere (delimiter : List Char) (dropTabs : Bool) :
    Nat → List Char → List Char × List Char × Nat
  | 0, rest => ([], rest, 0)
  | _, [] => ([], [], 0)
  | fuel + 1, text =>
    let line := text.takeWhile (· != '\n')
    let behind := (text.dropWhile (· != '\n')).drop 1
    let line := if dropTabs then line.dropWhile (· == '\t') else line
    if line == delimiter then ([], behind, 1)
    else
      let (others, behind, count) := readHere delimiter dropTabs fuel behind
      (line ++ '\n' :: others, behind, count + 1)

/-- The characters of a word, quoted or not. -/
def Word.characters (word : Word) : List Char :=
  word.flatMap fun piece =>
    match piece with
    | .text content _ => content
    | _ => []

def Word.isQuoted (word : Word) : Bool :=
  word.any fun piece => piece matches .text _ true

/-! ## Scripts -/

/-- The operator at the start of a text, and what follows it. -/
def operator? : List Char → Option (Token × List Char)
  | '\n' :: rest => some (.newline, rest)
  | '&' :: '&' :: rest => some (.operator "&&", rest)
  | '|' :: '|' :: rest => some (.operator "||", rest)
  | ';' :: ';' :: rest => some (.operator ";;", rest)
  | '>' :: '>' :: rest => some (.redirect 1 ">>", rest)
  | '>' :: '&' :: rest => some (.redirect 1 ">&", rest)
  | '>' :: '|' :: rest => some (.redirect 1 ">", rest)
  | '>' :: rest => some (.redirect 1 ">", rest)
  | '<' :: '<' :: '-' :: rest => some (.redirect 0 "<<-", rest)
  | '<' :: '<' :: rest => some (.redirect 0 "<<", rest)
  | '<' :: '&' :: rest => some (.redirect 0 ">&", rest)
  | '<' :: rest => some (.redirect 0 "<", rest)
  | c :: rest =>
    if ";&|()".toList.contains c then some (.operator (String.ofList [c]), rest) else none
  | [] => none

/-- Where the script goes on behind the end of the current line, if not in the next line. -/
abbrev Resumption := Option (List Char × Nat)

/-- The tokens of a text from a line on. -/
def tokensFrom (line : Nat) (resumption : Resumption) : Nat → List Char → List Located
  | 0, _ => []
  | _, [] => [⟨.endOfFile, line, line⟩]
  | fuel + 1, c :: rest =>
    if c == ' ' || c == '\t' then tokensFrom line resumption fuel rest
    else if c == '#' then tokensFrom line resumption fuel (rest.dropWhile (· != '\n'))
    else if c == '\\' && rest.head? == some '\n' then
      tokensFrom (line + 1) resumption fuel (rest.drop 1)
    else
      match operator? (c :: rest) with
      | some (.newline, behind) =>
        let (behind, next) := resumption.getD (behind, line + 1)
        ⟨.newline, line, next⟩ :: tokensFrom next none fuel behind
      | some (.redirect d operator, behind) =>
        redirection line resumption fuel d operator behind
      | some (token, behind) => ⟨token, line, line⟩ :: tokensFrom line resumption fuel behind
      | none =>
        let scan := readWord false (rest.length + 2) [] (c :: rest)
        let taken := (c :: rest).take (rest.length + 1 - scan.rest.length)
        let next := line + taken.count '\n'
        let word := scan.pieces.reverse
        match scan.fault with
        | some message => [⟨.fault message, line, next⟩]
        | none =>
          let number := (Word.plain? word).filter isNumeral
          match number, operator? scan.rest with
          | some digits, some (.redirect _ operator, behind) =>
            redirection next resumption fuel (Text.digitsValue digits) operator behind
          | _, _ => ⟨.word word, line, next⟩ :: tokensFrom next resumption fuel scan.rest
where
  /-- The tokens from a redirection on. -/
  redirection (line : Nat) (resumption : Resumption) (fuel d : Nat) (operator : String)
      (behind : List Char) : List Located :=
    let here : Located := ⟨.redirect d operator, line, line⟩
    let target := behind.dropWhile fun c => c == ' ' || c == '\t'
    let scan := readWord false (target.length + 1) [] target
    let delimiter := scan.pieces.reverse
    if (operator == "<<" || operator == "<<-") && !delimiter.isEmpty && scan.fault.isNone then
      let below := (scan.rest.dropWhile (· != '\n')).drop 1
      let (start, next) := resumption.getD (below, line + 1)
      let (text, after, count) :=
        readHere (Word.characters delimiter) (operator == "<<-") (start.length + 1) start
      let word := if Word.isQuoted delimiter then [.text text true] else hereWordOf text
      here :: ⟨.word word, line, line⟩
        :: tokensFrom line (some (after, next + count)) fuel scan.rest
    else here :: tokensFrom line resumption fuel behind

/-- The tokens of a script that begins in a line. -/
def tokens (line : Nat) (text : List Char) : List Located :=
  tokensFrom line none (text.length + 1) text

end ActionBoard.Shell
