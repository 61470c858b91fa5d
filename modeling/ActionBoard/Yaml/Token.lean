import ActionBoard.Yaml.Scalar

/-!
# Tokens of YAML texts

Outside of brackets the structure of a text is in its indentation.  The tokens make it explicit: a
deeper column begins a block, and a column further left ends the blocks that are deeper.

That a scalar is a key is seen only at the colon behind it.  Wherever a key may begin, the scanner
therefore remembers how many tokens there were; at the colon it puts the token for the key, and
where needed the beginning of a block, in front of what has been scanned since.  A key has to
stand in one line of at most 1024 characters.  Where the indentation admits nothing but a key, a
colon has to follow.

Of the full language, directives, anchors, aliases and the two forms of block scalars are refused.
-/

namespace ActionBoard.Yaml

/-- What the text of a document is made of. -/
inductive Token where
  | documentStart
  | documentEnd
  | blockSequenceStart
  | blockMappingStart
  | blockEnd
  | flowSequenceStart
  | flowSequenceEnd
  | flowMappingStart
  | flowMappingEnd
  | blockEntry
  | flowEntry
  | key
  | value
  | tag (text : String)
  | scalar (text : String) (plain : Bool)
  deriving DecidableEq

/-- A place where a key may have begun. -/
structure PossibleKey where
  /-- Whether it has to be a key. -/
  required : Bool
  /-- How many tokens stand before it. -/
  tokens : Nat
  position : Position

/-- The key is too far away now to be one. -/
def PossibleKey.isStale (key : PossibleKey) (p : Position) : Bool :=
  key.position.line < p.line || key.position.index + 1024 < p.index

/-- How far a text has been scanned. -/
structure Scanner where
  rest : List Char
  position : Position := {}
  /-- The tokens so far, latest first. -/
  tokens : List Token := []
  /-- The columns of the open blocks, innermost first. -/
  indents : List Nat := []
  key : Option PossibleKey := none
  /-- The possible keys outside of the open brackets, innermost first. -/
  outerKeys : List (Option PossibleKey) := []
  keyAllowed : Bool := true

namespace Scanner

def inFlow (s : Scanner) : Bool :=
  !s.outerKeys.isEmpty

/-- The column of the innermost block; -1, where none is open. -/
def indent (s : Scanner) : Int :=
  (s.indents.head?.map Int.ofNat).getD (-1)

def emit (s : Scanner) (token : Token) : Scanner :=
  { s with tokens := token :: s.tokens }

/-- With a token put behind the first `n` ones. -/
def insert (s : Scanner) (n : Nat) (token : Token) : Scanner :=
  let (later, earlier) := s.tokens.splitAt (s.tokens.length - n)
  { s with tokens := later ++ token :: earlier }

/-- Behind the next `n` characters, which lie in the same line. -/
def skip (s : Scanner) (n : Nat) : Scanner :=
  { s with rest := s.rest.drop n, position := s.position.skip n }

def allowKey (s : Scanner) (allowed : Bool) : Scanner :=
  { s with keyAllowed := allowed }

/-! ## Blocks -/

/-- With the blocks ended that are deeper than a column. -/
def unroll (s : Scanner) (column : Int) : Scanner :=
  if s.inFlow then s
  else
    let ended := (s.indents.takeWhile fun i => column < Int.ofNat i).length
    { s with
      indents := s.indents.drop ended
      tokens := List.replicate ended .blockEnd ++ s.tokens }

/-- With a block begun behind the first `n` tokens, if the column is deeper than the innermost
one. -/
def roll (s : Scanner) (column : Nat) (n : Nat) (start : Token) : Scanner :=
  if !s.inFlow && s.indent < Int.ofNat column then
    { s.insert n start with indents := column :: s.indents }
  else
    s

/-! ## Possible keys -/

/-- Without a possible key; one that has to be a key is missing its colon. -/
def dropKey? (s : Scanner) : Option Scanner :=
  match s.key with
  | some key => if key.required then none else some { s with key := none }
  | none => some s

/-- With a possible key here, if there may be one. -/
def saveKey? (s : Scanner) : Option Scanner :=
  if s.keyAllowed then
    let required := !s.inFlow && s.indent == Int.ofNat s.position.column
    (s.dropKey?).map fun s =>
      { s with key := some ⟨required, s.tokens.length, s.position⟩ }
  else
    some s

/-- A possible key, unless it is stale. -/
def refresh? (p : Position) : Option PossibleKey → Option (Option PossibleKey)
  | none => some none
  | some key =>
    if key.isStale p then (if key.required then none else some none) else some (some key)

/-- Without stale keys. -/
def dropStale? (s : Scanner) : Option Scanner := do
  let key ← refresh? s.position s.key
  let outerKeys ← s.outerKeys.mapM (refresh? s.position)
  return { s with key, outerKeys }

/-! ## Blanks -/

/-- The text behind blanks, line breaks and comments, and whether a key may stand there.  A tab is
no blank where it would indent. -/
def skipBlanks (flow : Bool) (comment allowed : Bool) :
    List Char → Position → List Char × Position × Bool
  | [], p => ([], p, allowed)
  | c :: rest, p =>
    if isBreak c then skipBlanks flow false (allowed || !flow) rest p.nextLine
    else if comment || c == '#' then skipBlanks flow true allowed rest p.next
    else if c == ' ' || (c == '\t' && (flow || !allowed)) then
      skipBlanks flow false allowed rest p.next
    else (c :: rest, p, allowed)

def toNextToken (s : Scanner) : Scanner :=
  let (rest, position, keyAllowed) := skipBlanks s.inFlow false s.keyAllowed s.rest s.position
  { s with rest, position, keyAllowed }

/-! ## Tokens -/

/-- A token that begins or ends a document. -/
def documentMark? (s : Scanner) (token : Token) : Option Scanner :=
  ((s.unroll (-1)).dropKey?).map fun s => ((s.allowKey false).skip 3).emit token

def openBracket? (s : Scanner) (token : Token) : Option Scanner :=
  (s.saveKey?).map fun s =>
    (({ s with key := none, outerKeys := s.key :: s.outerKeys }.allowKey true).skip 1).emit token

def closeBracket? (s : Scanner) (token : Token) : Option Scanner :=
  (s.dropKey?).map fun s =>
    let s := match s.outerKeys with
      | key :: outerKeys => { s with key, outerKeys }
      | [] => s
    ((s.allowKey false).skip 1).emit token

def flowEntry? (s : Scanner) : Option Scanner :=
  (s.dropKey?).map fun s => ((s.allowKey true).skip 1).emit .flowEntry

def blockEntry? (s : Scanner) : Option Scanner :=
  if !s.inFlow && !s.keyAllowed then none
  else
    let s := s.roll s.position.column s.tokens.length .blockSequenceStart
    (s.dropKey?).map fun s => ((s.allowKey true).skip 1).emit .blockEntry

/-- The sign of a key that is not seen to be one by its colon. -/
def explicitKey? (s : Scanner) : Option Scanner :=
  if !s.inFlow && !s.keyAllowed then none
  else
    let s := s.roll s.position.column s.tokens.length .blockMappingStart
    (s.dropKey?).map fun s => ((s.allowKey !s.inFlow).skip 1).emit .key

/-- The colon behind a key. -/
def value? (s : Scanner) : Option Scanner :=
  match s.key with
  | some key =>
    let s := s.insert key.tokens .key
    let s := s.roll key.position.column key.tokens .blockMappingStart
    some ((({ s with key := none }.allowKey false).skip 1).emit .value)
  | none =>
    if !s.inFlow && !s.keyAllowed then none
    else
      let s := s.roll s.position.column s.tokens.length .blockMappingStart
      some (((s.allowKey !s.inFlow).skip 1).emit .value)

/-- Whether a character may stand in a tag. -/
def isTagChar (c : Char) : Bool :=
  Text.isAsciiLetter c || Text.isAsciiDigit c || "_-;/?:@&=+$.!~*'()".toList.contains c

def isHandleChar (c : Char) : Bool :=
  Text.isAsciiLetter c || Text.isAsciiDigit c || c == '_' || c == '-'

/-- The tag that its text behind the exclamation mark stands for.  Two exclamation marks begin a tag
of the language itself; other names for groups of tags would have to be declared. -/
def tagOf? (text : List Char) : Option String :=
  match text.dropWhile isHandleChar with
  | '!' :: suffix =>
    if text.head? == some '!' && !suffix.isEmpty then
      some ("tag:yaml.org,2002:" ++ String.ofList suffix)
    else none
  | _ => some (String.ofList ('!' :: text))

def tag? (s : Scanner) : Option Scanner := do
  let s ← s.saveKey?
  let text := (s.rest.drop 1).takeWhile isTagChar
  let tag ← tagOf? text
  let s := (s.allowKey false).skip (text.length + 1)
  if endsWord s.rest || (s.inFlow && s.rest.head? == some ',') then some (s.emit (.tag tag))
  else none

/-- With a scalar that was read. -/
def scalar (s : Scanner) (plain : Bool) (read : ScalarRead) : Scanner :=
  { s with rest := read.rest, position := read.position, keyAllowed := read.broken }.emit
    (.scalar read.text plain)

def quoted? (s : Scanner) (double : Bool) : Option Scanner := do
  let s ← s.saveKey?
  let rest := s.rest.drop 1
  let read ← if double then readDouble {} rest s.position.next
    else readSingle {} rest s.position.next
  return s.scalar false read

def plain? (s : Scanner) : Option Scanner := do
  let s ← s.saveKey?
  let read ← readPlain s.inFlow (s.indent + 1).toNat {} s.rest s.position
  return s.scalar true read

/-- Whether a scalar without quotes may begin with these characters. -/
def startsPlain (flow : Bool) (c : Char) (rest : List Char) : Bool :=
  !"-?:,[]\x7b\x7d#&*!|>'\"%@`".toList.contains c
    || (c == '-' && !(rest.head?.any isSpace))
    || (!flow && (c == '?' || c == ':') && !endsWord rest)

/-- The next token, which begins with the character `c`. -/
def next? (s : Scanner) (c : Char) (rest : List Char) : Option Scanner :=
  let atStart := s.position.column == 0
  if atStart && c == '%' then none
  else if atStart && c == '-' && isDocumentMark s.rest then s.documentMark? .documentStart
  else if atStart && c == '.' && isDocumentMark s.rest then s.documentMark? .documentEnd
  else if c == '[' then s.openBracket? .flowSequenceStart
  else if c == '\x7b' then s.openBracket? .flowMappingStart
  else if c == ']' then s.closeBracket? .flowSequenceEnd
  else if c == '\x7d' then s.closeBracket? .flowMappingEnd
  else if c == ',' then s.flowEntry?
  else if c == '-' && endsWord rest then s.blockEntry?
  else if c == '?' && (s.inFlow || endsWord rest) then s.explicitKey?
  else if c == ':' && (s.inFlow || endsWord rest) then s.value?
  else if c == '!' then s.tag?
  else if c == '\'' then s.quoted? false
  else if c == '"' then s.quoted? true
  else if startsPlain s.inFlow c rest then s.plain?
  else none

/-- The end of the text, which ends the last line and all blocks. -/
def finish? (s : Scanner) : Option (List Token) :=
  ((s.unroll (-1)).dropKey?).map fun s => s.tokens.reverse

/-- Scans on, where there are at most as many tokens left as `fuel` says. -/
def scan? : Nat → Scanner → Option (List Token)
  | 0, _ => none
  | fuel + 1, s =>
    (s.toNextToken.dropStale?).bind fun s =>
      match s.rest with
      | [] => s.finish?
      | c :: rest => ((s.unroll s.position.column).next? c rest).bind (scan? fuel)

end Scanner

/-! ## Texts -/

/-- Whether a character may stand in a text at all. -/
def isAdmitted (c : Char) : Bool :=
  let n := c.toNat
  n == 0x09 || n == 0x0A || n == 0x0D || (0x20 ≤ n && n ≤ 0x7E) || n == 0x85
    || (0xA0 ≤ n && n ≤ 0xFFFD) || 0x10000 ≤ n

/-- The text with one convention for line ends. -/
def unifyBreaks : List Char → List Char
  | '\r' :: '\n' :: rest => '\n' :: unifyBreaks rest
  | c :: rest => (if c == '\r' || c == '\u0085' then '\n' else c) :: unifyBreaks rest
  | [] => []

/-- The tokens of a text.  A byte order mark at its start is passed over. -/
def tokens? (text : List Char) : Option (List Token) :=
  let text := match text with
    | c :: rest => if c == '\uFEFF' then rest else text
    | [] => text
  if text.all isAdmitted then
    let text := unifyBreaks text
    Scanner.scan? (text.length + 1) { rest := text }
  else
    none

end ActionBoard.Yaml
