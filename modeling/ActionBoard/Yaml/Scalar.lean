import ActionBoard.Yaml.Basic

/-!
# The text of scalars over several lines

A scalar may go on over several lines.  Blanks around a line break do not count; a single line break
becomes a space, and of several the first one is dropped.  `Fold` gathers a scalar in this way;
blanks and line breaks are kept apart until it is clear that the scalar goes on behind them.

Line breaks are line feeds, to which the other conventions have been reduced before, and the two
separators of Unicode, which are kept where a line feed would become a space.
-/

namespace ActionBoard.Yaml

/-! ## Characters and positions -/

def isBreak (c : Char) : Bool :=
  c == '\n' || c == '\u2028' || c == '\u2029'

def isSpace (c : Char) : Bool :=
  c == ' ' || c == '\t'

/-- Whether a text is at its end or goes on with a blank or a line break. -/
def endsWord : List Char → Bool
  | [] => true
  | c :: _ => isSpace c || isBreak c

/-- Whether three signs that begin or end a document stand here. -/
def isDocumentMark : List Char → Bool
  | '-' :: '-' :: '-' :: rest => endsWord rest
  | '.' :: '.' :: '.' :: rest => endsWord rest
  | _ => false

/-- A place in a text; all counts begin at zero. -/
structure Position where
  index : Nat := 0
  line : Nat := 0
  column : Nat := 0

namespace Position

def next (p : Position) : Position :=
  { p with index := p.index + 1, column := p.column + 1 }

def nextLine (p : Position) : Position :=
  ⟨p.index + 1, p.line + 1, 0⟩

/-- The place behind a character. -/
def after (p : Position) (c : Char) : Position :=
  if isBreak c then p.nextLine else p.next

/-- The place `n` characters further in the same line. -/
def skip (p : Position) (n : Nat) : Position :=
  { p with index := p.index + n, column := p.column + n }

end Position

/-! ## Folding -/

/-- The text of a scalar so far; all lists are in reverse. -/
structure Fold where
  text : List Char := []
  /-- Blanks behind the text in the same line. -/
  blanks : List Char := []
  /-- Whether a line has ended since. -/
  broken : Bool := false
  /-- The line breaks since, the first one apart. -/
  first : List Char := []
  further : List Char := []

namespace Fold

/-- Whether blanks or line breaks stand behind the text. -/
def isPending (f : Fold) : Bool :=
  f.broken || !f.blanks.isEmpty

/-- What stands for the blanks or line breaks behind the text. -/
def gap (f : Fold) : List Char :=
  if !f.broken then f.blanks
  else if f.first = ['\n'] then (if f.further.isEmpty then [' '] else f.further)
  else f.further ++ f.first

/-- With the blanks and line breaks made part of the text. -/
def settle (f : Fold) : Fold :=
  { text := f.gap ++ f.text }

/-- With a character behind the blanks. -/
def push (f : Fold) (c : Char) : Fold :=
  { text := c :: f.settle.text }

/-- With a blank or a line break. -/
def blank (f : Fold) (c : Char) : Fold :=
  if isBreak c then
    if f.broken then { f with further := c :: f.further }
    else { f with blanks := [], broken := true, first := [c] }
  else if f.broken then f
  else { f with blanks := c :: f.blanks }

/-- With the line ended without any trace. -/
def joinLine (f : Fold) : Fold :=
  { text := f.settle.text, broken := true }

def string (f : Fold) : String :=
  String.ofList f.text.reverse

end Fold

/-- A scalar that was read, and where the text goes on. -/
structure ScalarRead where
  text : String
  /-- Whether a new line was begun behind it. -/
  broken : Bool
  rest : List Char
  position : Position

/-! ## Scalars without quotes -/

/-- Whether a colon here is no part of a scalar in a collection in brackets, and is refused. -/
def isRefusedColon : List Char → Bool
  | c :: _ => ",?[]\x7b\x7d".toList.contains c
  | [] => false

/-- Whether the character ends a scalar without quotes. -/
def endsPlain (flow : Bool) (c : Char) (rest : List Char) : Bool :=
  (c == ':' && endsWord rest) || (flow && ",[]\x7b\x7d".toList.contains c)

/-- Whether, behind blanks, a scalar without quotes does not go on here. -/
def endsBehindBlanks (flow : Bool) (indent : Nat) (text : List Char) (p : Position) : Bool :=
  (!flow && p.column < indent) || (p.column == 0 && isDocumentMark text) || text.head? == some '#'

/-- Reads on a scalar without quotes, which ends at anything that cannot be part of it.  Outside of
brackets it ends where a line is indented less than `indent`. -/
def readPlain (flow : Bool) (indent : Nat) (f : Fold) :
    List Char → Position → Option ScalarRead
  | [], p => some ⟨f.string, f.broken, [], p⟩
  | c :: rest, p =>
    if isSpace c || isBreak c then
      if f.broken && c == '\t' && p.column < indent then none
      else readPlain flow indent (f.blank c) rest (p.after c)
    else if f.isPending && endsBehindBlanks flow indent (c :: rest) p then
      some ⟨f.string, f.broken, c :: rest, p⟩
    else if flow && c == ':' && isRefusedColon rest then none
    else if endsPlain flow c rest then some ⟨f.string, f.broken, c :: rest, p⟩
    else readPlain flow indent (f.push c) rest p.next

/-! ## Scalars in quotes -/

/-- Reads on a scalar in single quotes; two quotes within stand for one. -/
def readSingle (f : Fold) : List Char → Position → Option ScalarRead
  | [], _ => none
  | '\'' :: '\'' :: rest, p => readSingle (f.push '\'') rest (p.skip 2)
  | '\'' :: rest, p => some ⟨f.settle.string, false, rest, p.next⟩
  | c :: rest, p =>
    if p.column == 0 && isDocumentMark (c :: rest) then none
    else if isSpace c || isBreak c then readSingle (f.blank c) rest (p.after c)
    else readSingle (f.push c) rest p.next

/-- The character that a letter behind a backslash stands for. -/
def escaped? : Char → Option Char
  | '0' => some '\x00'
  | 'a' => some '\x07'
  | 'b' => some '\x08'
  | 't' | '\t' => some '\t'
  | 'n' => some '\n'
  | 'v' => some '\x0b'
  | 'f' => some '\x0c'
  | 'r' => some '\r'
  | 'e' => some '\x1b'
  | ' ' => some ' '
  | '"' => some '"'
  | '/' => some '/'
  | '\\' => some '\\'
  | 'N' => some '\u0085'
  | '_' => some '\u00a0'
  | 'L' => some '\u2028'
  | 'P' => some '\u2029'
  | _ => none

/-- The character of a code point. -/
def ofCode? (digits : List Char) : Option Char :=
  (digitsIn? 16 digits).bind fun n =>
    if n < 0xD800 || (0xDFFF < n && n < 0x110000) then some (Char.ofNat n) else none

/-- Reads on a scalar in double quotes. -/
def readDouble (f : Fold) : List Char → Position → Option ScalarRead
  | [], _ => none
  | '"' :: rest, p => some ⟨f.settle.string, false, rest, p.next⟩
  | '\\' :: 'x' :: a :: b :: rest, p => do
    readDouble (f.push (← ofCode? [a, b])) rest (p.skip 4)
  | '\\' :: 'u' :: a :: b :: c :: d :: rest, p => do
    readDouble (f.push (← ofCode? [a, b, c, d])) rest (p.skip 6)
  | '\\' :: 'U' :: a :: b :: c :: d :: e :: g :: h :: i :: rest, p => do
    readDouble (f.push (← ofCode? [a, b, c, d, e, g, h, i])) rest (p.skip 10)
  | '\\' :: c :: rest, p =>
    if isBreak c then readDouble f.joinLine rest p.nextLine
    else do readDouble (f.push (← escaped? c)) rest (p.skip 2)
  | c :: rest, p =>
    if p.column == 0 && isDocumentMark (c :: rest) then none
    else if isSpace c || isBreak c then readDouble (f.blank c) rest (p.after c)
    else if c == '\\' then none
    else readDouble (f.push c) rest p.next

end ActionBoard.Yaml
