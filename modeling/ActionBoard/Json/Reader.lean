import ActionBoard.Json.Basic
import ActionBoard.Number.DecimalText

/-!
# Reading JSON text

A reader takes a text and gives back what it read and the text behind it, or nothing when the text
is not well formed.  The grammar is the strict one: no comments, no trailing commas, no leading
zeros, no raw control characters in strings, and no escape that leaves half of a surrogate pair.

Nesting is limited, and the limit is what makes reading total: `readValue` recurses on the depth
that is left, while the items of one array or object are walked by a loop that needs no more rounds
than the text has characters.

Numbers without point and exponent are whole while they fit in 64 bits; all others, and minus
zero, are binary64 numbers.  Their digits are gathered in 64 bits: a digit of the whole part
that no longer fits only raises the exponent, a digit behind the point that no longer fits
ends the gathering.
-/

namespace ActionBoard.Json

/-- Reads something off the start of a text; nothing, if the text is malformed there. -/
abbrev Reader (α : Type) := List Char → Option (α × List Char)

/-- The nesting that a text may have. -/
def nestingLimit : Nat := 127

def isSpace (c : Char) : Bool :=
  c == ' ' || c == '\n' || c == '\t' || c == '\r'

def skipSpace (text : List Char) : List Char :=
  text.dropWhile isSpace

/-! ## Strings -/

def hexDigit? (c : Char) : Option Nat :=
  if Text.isAsciiDigit c then some (c.toNat - '0'.toNat)
  else if 'a' ≤ c && c ≤ 'f' then some (c.toNat - 'a'.toNat + 10)
  else if 'A' ≤ c && c ≤ 'F' then some (c.toNat - 'A'.toNat + 10)
  else none

/-- A unit of 16 bits in four hexadecimal digits. -/
def hexUnit? (a b c d : Char) : Option Nat :=
  match hexDigit? a, hexDigit? b, hexDigit? c, hexDigit? d with
  | some a, some b, some c, some d => some (((a * 16 + b) * 16 + c) * 16 + d)
  | _, _, _, _ => none

/-- The character of a two-character escape. -/
def escaped? : Char → Option Char
  | '"' => some '"'
  | '\\' => some '\\'
  | '/' => some '/'
  | 'b' => some '\x08'
  | 'f' => some '\x0c'
  | 'n' => some '\n'
  | 'r' => some '\r'
  | 't' => some '\t'
  | _ => none

/-- The character of two halves of a surrogate pair. -/
def pairedChar? (high low : Nat) : Option Char :=
  if 0xDC00 ≤ low && low < 0xE000 then
    some (Char.ofNat (0x10000 + (high - 0xD800) * 0x400 + (low - 0xDC00)))
  else
    none

/-- The characters of a string up to its closing quote, behind those already read, in reverse. -/
def readChars : List Char → Reader (List Char)
  | _, [] => none
  | read, '"' :: rest => some (read.reverse, rest)
  | read, '\\' :: 'u' :: a :: b :: c :: d :: rest =>
    match hexUnit? a b c d with
    | none => none
    | some unit =>
      if unit < 0xD800 || 0xE000 ≤ unit then readChars (Char.ofNat unit :: read) rest
      else if 0xDC00 ≤ unit then none
      else
        match rest with
        | '\\' :: 'u' :: e :: f :: g :: h :: behind =>
          match (hexUnit? e f g h).bind (pairedChar? unit) with
          | some char => readChars (char :: read) behind
          | none => none
        | _ => none
  | read, '\\' :: e :: rest =>
    match escaped? e with
    | some char => readChars (char :: read) rest
    | none => none
  | read, c :: rest => if c == '\\' || c < ' ' then none else readChars (c :: read) rest

/-- A string behind its opening quote. -/
def readStringBody : Reader String := fun text =>
  (readChars [] text).map fun (chars, rest) => (String.ofList chars, rest)

/-! ## Numbers -/

/-- Digits gathered in 64 bits: the value so far, and how many powers of ten it has to be raised
by. -/
structure Gathered where
  significand : Nat
  exponent : Int

def Gathered.fits (g : Gathered) (c : Char) : Bool :=
  g.significand * 10 + Text.digitValue c < UInt64.size

/-- The digits before the point. -/
def gatherWhole (g : Gathered) : List Char → Gathered
  | [] => g
  | c :: rest =>
    if g.fits c then gatherWhole ⟨g.significand * 10 + Text.digitValue c, g.exponent⟩ rest
    else ⟨g.significand, g.exponent + (rest.length + 1)⟩

/-- The digits behind the point. -/
def gatherPlaces (g : Gathered) : List Char → Gathered
  | [] => g
  | c :: rest =>
    if g.fits c then gatherPlaces ⟨g.significand * 10 + Text.digitValue c, g.exponent - 1⟩ rest
    else g

/-- A whole number, if it fits and is not minus zero. -/
def wholeNumber? (negative : Bool) (whole : List Char) : Option JsonNumber :=
  let n := Text.digitsValue whole
  if negative && n == 0 then none
  else (WideInt.ofInt? (if negative then -n else n)).map .int

/-- A number as a binary64 number. -/
def floatNumber? (negative : Bool) (whole places : List Char) (exponent : Int) :
    Option JsonNumber :=
  let g := gatherPlaces (gatherWhole ⟨0, 0⟩ whole) places
  (Binary64.scaled? g.significand (g.exponent + exponent)).map fun x =>
    .float (if negative then x.negate else x)

/-- The exponent of a number: `none` without one, and nothing when no digit follows the mark. -/
def readExponent : Reader (Option Int)
  | c :: rest =>
    if c == 'e' || c == 'E' then
      let (negative, digits) := match rest with
        | '+' :: behind => (false, behind)
        | '-' :: behind => (true, behind)
        | _ => (false, rest)
      let exponent := digits.takeWhile Text.isAsciiDigit
      if exponent.isEmpty then none
      else
        let n : Int := Text.digitsValue exponent
        some (some (if negative then -n else n), digits.dropWhile Text.isAsciiDigit)
    else
      some (none, c :: rest)
  | [] => some (none, [])

/-- The digits behind a point: `none` without a point, and nothing when no digit follows it. -/
def readPlaces : Reader (Option (List Char))
  | '.' :: rest =>
    let places := rest.takeWhile Text.isAsciiDigit
    if places.isEmpty then none else some (some places, rest.dropWhile Text.isAsciiDigit)
  | text => some (none, text)

/-- A number without its sign. -/
def readMagnitude (negative : Bool) : Reader JsonNumber := fun text => do
  let whole := text.takeWhile Text.isAsciiDigit
  if whole.isEmpty || (whole.head? == some '0' && whole.length != 1) then none
  else
    let (places, rest) ← readPlaces (text.dropWhile Text.isAsciiDigit)
    let (exponent, rest) ← readExponent rest
    let asFloat := floatNumber? negative whole (places.getD []) (exponent.getD 0)
    let number ←
      if places.isNone && exponent.isNone then (wholeNumber? negative whole).or asFloat else asFloat
    some (number, rest)

/-! ## Trees -/

/-- The text behind a word that has to stand at its start. -/
def readWord (word : String) (json : Json) : Reader Json := fun text =>
  (word.toList.isPrefixOf? text).map (json, ·)

/-- The items of an array from the start of the next item on, behind those already read. -/
def readItems (item : Reader Json) : Nat → List Json → Reader (List Json)
  | 0, _ => fun _ => none
  | rounds + 1, read => fun text => do
    let (json, rest) ← item text
    match skipSpace rest with
    | ',' :: rest => readItems item rounds (json :: read) rest
    | ']' :: rest => some ((json :: read).reverse, rest)
    | _ => none

/-- The name of a member and the colon behind it. -/
def readName : Reader String := fun text =>
  match skipSpace text with
  | '"' :: rest => readStringBody rest
  | _ => none

/-- The colon between the name and the value of a member. -/
def readColon (text : List Char) : Option (List Char) :=
  match skipSpace text with
  | ':' :: rest => some rest
  | _ => none

/-- The members of an object from the next name on, behind those already read. -/
def readMembers (value : Reader Json) :
    Nat → List (String × Json) → Reader (List (String × Json))
  | 0, _ => fun _ => none
  | rounds + 1, read => fun text => do
    let (name, rest) ← readName text
    let (json, rest) ← value (← readColon rest)
    match skipSpace rest with
    | ',' :: rest => readMembers value rounds ((name, json) :: read) rest
    | '}' :: rest => some (((name, json) :: read).reverse, rest)
    | _ => none

/-- A tree that nests no deeper than `depth`. -/
def readValue (depth : Nat) : Reader Json := fun text =>
  match skipSpace text with
  | 'n' :: rest => readWord "ull" .null rest
  | 't' :: rest => readWord "rue" (.bool true) rest
  | 'f' :: rest => readWord "alse" (.bool false) rest
  | '"' :: rest => (readStringBody rest).map fun (s, rest) => (.string s, rest)
  | '-' :: rest => (readMagnitude true rest).map fun (n, rest) => (.number n, rest)
  | '[' :: rest =>
    match depth with
    | 0 => none
    | depth + 1 =>
      match skipSpace rest with
      | ']' :: behind => some (.array [], behind)
      | _ =>
        (readItems (readValue depth) (rest.length + 1) [] rest).map fun (items, rest) =>
          (.array items, rest)
  | '{' :: rest =>
    match depth with
    | 0 => none
    | depth + 1 =>
      match skipSpace rest with
      | '}' :: behind => some (.object [], behind)
      | _ =>
        (readMembers (readValue depth) (rest.length + 1) [] rest).map fun (members, rest) =>
          (.object members, rest)
  | c :: rest =>
    if Text.isAsciiDigit c then
      (readMagnitude false (c :: rest)).map fun (n, rest) => (.number n, rest)
    else
      none
  | [] => none

/-- The tree of a whole text. -/
def parse? (text : List Char) : Option Json :=
  match readValue nestingLimit text with
  | some (json, rest) => if (skipSpace rest).isEmpty then some json else none
  | none => none

end ActionBoard.Json
