import ActionBoard.Text.Numeral

/-!
# Shell scripts: formats

What commands write that put texts together from formats.  A backslash begins a character that is
hard to write otherwise, and a percent sign the place of an argument.
-/

namespace ActionBoard.Shell

def charBytes (c : Char) : List UInt8 :=
  (String.ofList [c]).toUTF8.toList

def textBytes (text : List Char) : List UInt8 :=
  (String.ofList text).toUTF8.toList

/-! ## Backslashes -/

def isOctal (c : Char) : Bool :=
  '0' ≤ c && c ≤ '7'

/-- The byte of an octal number at the start of a text, of at most three digits, and
what follows it. -/
def takeOctal (text : List Char) : UInt8 × List Char :=
  let digits := (text.take 3).takeWhile isOctal
  (UInt8.ofNat (digits.foldl (fun n c => 8 * n + Text.digitValue c) 0), text.drop digits.length)

/-- What a letter behind a backslash stands for. -/
def escapedByte? : Char → Option UInt8
  | 'a' => some 7
  | 'b' => some 8
  | 't' => some 9
  | 'n' => some 10
  | 'v' => some 11
  | 'f' => some 12
  | 'r' => some 13
  | 'e' => some 27
  | '\\' => some 92
  | _ => none

/-- The bytes that stand behind a backslash, and what follows them. -/
def takeEscaped : List Char → List UInt8 × List Char
  | c :: rest =>
    match escapedByte? c with
    | some byte => ([byte], rest)
    | none =>
      if isOctal c then
        let (byte, behind) := takeOctal (c :: rest)
        ([byte], behind)
      else ([92], c :: rest)
  | [] => ([92], [])

/-- The bytes of a text with what stands behind its backslashes, where an octal number may have a
zero more, and whether nothing is to be written behind it. -/
def unescape : Nat → List Char → List UInt8 × Bool
  | 0, _ => ([], false)
  | _, [] => ([], false)
  | _, '\\' :: 'c' :: _ => ([], true)
  | fuel + 1, '\\' :: rest =>
    let (bytes, rest) := match rest with
      | '0' :: digits =>
        let (byte, behind) := takeOctal digits
        ([byte], behind)
      | _ => takeEscaped rest
    let (others, isLast) := unescape fuel rest
    (bytes ++ others, isLast)
  | fuel + 1, c :: rest =>
    let (others, isLast) := unescape fuel rest
    (charBytes c ++ others, isLast)

/-- What is written for words, with the end of a line unless the first word says otherwise. -/
def echo (arguments : List String) : List UInt8 :=
  let (lineEnd, arguments) : List UInt8 × List String := match arguments with
    | "-n" :: rest => ([], rest)
    | _ => ([10], arguments)
  let text := (" ".intercalate arguments).toList
  let (bytes, isLast) := unescape (text.length + 1) text
  bytes ++ if isLast then [] else lineEnd

/-! ## Places of arguments -/

/-- How an argument is put at its slot. -/
structure Slot where
  flags : List Char
  width : Nat := 0
  precision : Option Nat := none
  conversion : Char

/-- What has been put together so far. -/
structure Formatted where
  bytes : List UInt8 := []
  /-- The arguments that are left. -/
  left : List String
  /-- What is wrong with arguments. -/
  problems : List String := []
  /-- Whether nothing is to be written any more. -/
  isLast : Bool := false
  /-- Why the format has no meaning. -/
  fault : Option String := none

namespace Formatted

def add (f : Formatted) (bytes : List UInt8) : Formatted :=
  { f with bytes := f.bytes ++ bytes }

/-- The next argument, and what is left then. -/
def next (f : Formatted) : String × Formatted :=
  (f.left.headD "", { f with left := f.left.drop 1 })

/-- The number that an argument is, as far as it is one. -/
def number (text : String) : Int × Option String :=
  match Text.trim text.toList with
  | [] => (0, if text.isEmpty then none else some (text ++ ": expected numeric value"))
  | '\'' :: rest | '"' :: rest => (rest.head?.elim 0 fun c => Int.ofNat c.toNat, none)
  | c :: rest =>
    let isNegative := c == '-'
    let own := if c == '-' || c == '+' then rest else c :: rest
    let digits := own.takeWhile Text.isAsciiDigit
    let n := Int.ofNat (Text.digitsValue digits)
    let value := if isNegative then -n else n
    if digits.isEmpty then (0, some (text ++ ": expected numeric value"))
    else (value, if digits.length = own.length
      then none else some (text ++ ": not completely converted"))

/-- The digits of a number in a base. -/
def digitsIn (base : Nat) (isUpper : Bool) (n : Nat) : List Char :=
  (Nat.toDigits base n).map fun c => if isUpper then c.toUpper else c

/-- A number as a place has it. -/
def numberText (slot : Slot) (n : Int) : List Char × List Char :=
  let unsigned := if n < 0 then (n + UInt64.size).toNat else n.toNat
  let has (flag : Char) := slot.flags.contains flag
  match slot.conversion with
  | 'o' => (if has '#' then ['0'] else [], digitsIn 8 false unsigned)
  | 'x' => (if has '#' && n ≠ 0 then ['0', 'x'] else [], digitsIn 16 false unsigned)
  | 'X' => (if has '#' && n ≠ 0 then ['0', 'X'] else [], digitsIn 16 true unsigned)
  | 'u' => ([], Text.decimal unsigned)
  | _ =>
    (if n < 0 then ['-'] else if has '+' then ['+'] else if has ' ' then [' '] else [],
      Text.decimal n.natAbs)

/-- Bytes made as long as a place is. -/
def pad (slot : Slot) (bytes : List UInt8) : List UInt8 :=
  let blanks := List.replicate (slot.width - bytes.length) (32 : UInt8)
  if slot.flags.contains '-' then bytes ++ blanks else blanks ++ bytes

/-- With a number at a slot. -/
def addNumber (f : Formatted) (slot : Slot) : Formatted :=
  let (text, f) := f.next
  let (n, problem) := number text
  let (sign, digits) := numberText slot n
  let missing := slot.precision.getD 0 - digits.length
  let filled := List.replicate missing '0' ++ digits
  let isFilled := slot.flags.contains '0' && !slot.flags.contains '-' && slot.precision.isNone
  let zeros := if isFilled then slot.width - (sign.length + filled.length) else 0
  let all := sign ++ List.replicate zeros '0' ++ filled
  { f.add (pad slot (textBytes all)) with problems := f.problems ++ problem.toList }

/-- With the next argument at a slot. -/
def addSlot (f : Formatted) (slot : Slot) : Formatted :=
  let cut (bytes : List UInt8) := slot.precision.elim bytes bytes.take
  match slot.conversion with
  | 's' =>
    let (text, f) := f.next
    f.add (pad slot (cut text.toUTF8.toList))
  | 'c' =>
    let (text, f) := f.next
    f.add (pad slot (text.toUTF8.toList.take 1))
  | 'b' =>
    let (text, f) := f.next
    let (bytes, isLast) := unescape (text.length + 1) text.toList
    { f.add (pad slot (cut bytes)) with isLast }
  | _ => f.addNumber slot

/-- The number at the start of a text, or the one of the next argument where there is a star. -/
def takeNumber (f : Formatted) : List Char → Nat × Formatted × List Char
  | '*' :: rest =>
    let (text, f) := f.next
    ((number text).1.toNat, f, rest)
  | text =>
    let digits := text.takeWhile Text.isAsciiDigit
    (Text.digitsValue digits, f, text.drop digits.length)

/-- With what a format says, once. -/
def once : Nat → List Char → Formatted → Formatted
  | 0, _, f => f
  | _, [], f => f
  | fuel + 1, '%' :: '%' :: rest, f => once fuel rest (f.add [37])
  | fuel + 1, '%' :: rest, f =>
    let flags := rest.takeWhile fun c => "-+ #0".toList.contains c
    let (width, g, behind) := f.takeNumber (rest.drop flags.length)
    let (precision, g, behind) := match behind with
      | '.' :: behind =>
        let (precision, g, behind) := g.takeNumber behind
        (some precision, g, behind)
      | _ => (none, g, behind)
    match behind with
    | conversion :: behind =>
      if "sbcdiouxX".toList.contains conversion then
        let g := g.addSlot { flags, width, precision, conversion }
        if g.isLast then g else once fuel behind g
      else
        let own := rest.take (rest.length - behind.length)
        { f with fault := some ("%" ++ String.ofList own ++ ": invalid directive") }
    | [] => { f with fault := some ("%" ++ String.ofList rest ++ ": invalid directive") }
  | fuel + 1, '\\' :: rest, f =>
    let (bytes, behind) := takeEscaped rest
    once fuel behind (f.add bytes)
  | fuel + 1, c :: rest, f => once fuel rest (f.add (charBytes c))

/-- With what a format says, as often as there are arguments for it. -/
def repeated (text : List Char) : Nat → Formatted → Formatted
  | 0, f => f
  | fuel + 1, f =>
    let g := once (text.length + 1) text f
    if g.left.isEmpty || g.left.length = f.left.length || g.isLast || g.fault.isSome then g
    else repeated text fuel g

end Formatted

/-- What a format makes of arguments. -/
def format (text : String) (arguments : List String) : Formatted :=
  Formatted.repeated text.toList (arguments.length + 1) { left := arguments }

end ActionBoard.Shell
