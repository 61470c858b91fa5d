/-!
# Bytes as text

Bytes that are meant to be UTF-8 and may not be.  Reading goes through the bytes once and remembers
a sequence that has begun: what it stands for so far, how many bytes are missing, and in which range
the next one has to lie.  The range is narrower behind those first bytes that could otherwise begin
an overlong sequence, a surrogate or a number that is no code point.

A byte that does not fit ends the sequence before it.  Each sequence that is broken off, and each
byte that can begin none, becomes one replacement character.
-/

namespace ActionBoard.Text

/-- The character that stands for bytes that are no text. -/
def replacementCharacter : Char := '\uFFFD'

/-- A sequence that has begun. -/
structure PartialCharacter where
  value : Nat
  missing : Nat
  /-- The range of the next byte. -/
  low : Nat := 0x80
  high : Nat := 0xBF

/-- What a first byte stands for: a character, the beginning of a sequence, or nothing. -/
def firstByte (b : Nat) : Option (Char ⊕ PartialCharacter) :=
  if b < 0x80 then some (.inl (Char.ofNat b))
  else if b < 0xC2 then none
  else if b < 0xE0 then some (.inr { value := b - 0xC0, missing := 1 })
  else if b < 0xF0 then
    some (.inr
      { value := b - 0xE0, missing := 2
        low := if b == 0xE0 then 0xA0 else 0x80
        high := if b == 0xED then 0x9F else 0xBF })
  else if b < 0xF5 then
    some (.inr
      { value := b - 0xF0, missing := 3
        low := if b == 0xF0 then 0x90 else 0x80
        high := if b == 0xF4 then 0x8F else 0xBF })
  else none

/-- The sequence with one more byte, or the character if it was the last one; nothing, if the
byte does not fit. -/
def PartialCharacter.next (p : PartialCharacter) (b : Nat) : Option (Char ⊕ PartialCharacter) :=
  if b < p.low || p.high < b then none
  else
    let value := 64 * p.value + (b - 0x80)
    if p.missing ≤ 1 then some (.inl (Char.ofNat value))
    else some (.inr { value, missing := p.missing - 1 })

/-- Reads a byte that begins something. -/
def startWith (b : Nat) (rest : Option PartialCharacter → List Char) : List Char :=
  match firstByte b with
  | some (.inl c) => c :: rest none
  | some (.inr p) => rest (some p)
  | none => replacementCharacter :: rest none

/-- Reads bytes behind those of a sequence that has begun. -/
def decodeFrom : List UInt8 → Option PartialCharacter → List Char
  | [], none => []
  | [], some _ => [replacementCharacter]
  | b :: bytes, none => startWith b.toNat (decodeFrom bytes)
  | b :: bytes, some p =>
    match p.next b.toNat with
    | some (.inl c) => c :: decodeFrom bytes none
    | some (.inr p) => decodeFrom bytes (some p)
    | none => replacementCharacter :: startWith b.toNat (decodeFrom bytes)

/-- The text of bytes, with a replacement character for everything that is none. -/
def decode (bytes : List UInt8) : String :=
  String.ofList (decodeFrom bytes none)

end ActionBoard.Text
