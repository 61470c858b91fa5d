import ActionBoard.Number.Binary64
import ActionBoard.Text.Numeral

/-!
# Reading binary64 numbers from decimal text

Two readings are needed.  Texts in metadata and in scripts are read exactly: the decimal is
taken as a quotient and rounded once (`ofDecimalText?`).  Numbers in documents are read in two
roundings: their digits are gathered in a number of 64 bits, which is rounded, and then scaled
by a power of ten that is itself rounded (`scaled?`).  The second reading can differ from the
first in the last bit.
-/

namespace ActionBoard.Binary64

/-! ## Exact reading -/

/-- `digits * 10 ^ exponent`, rounded once.  The two shortcuts keep the quotient small and change
nothing: the value is above every finite number, or below half of the smallest positive one. -/
def ofDecimal (digits : Nat) (exponent : Int) : Binary64 :=
  let magnitude : Int := (Text.decimal digits).length + exponent
  if digits = 0 then zero
  else if 310 < magnitude then infinity
  else if magnitude < -330 then zero
  else if 0 ≤ exponent then ofRatio (digits * Nat.pow 10 exponent.toNat) 1
  else ofRatio digits (Nat.pow 10 (-exponent).toNat)

/-- The exponent behind a mantissa: nothing, or an `e` with a signed row of digits. -/
def exponentOf? : List Char → Option Int
  | [] => some 0
  | c :: rest =>
    if c = 'e' || c = 'E' then
      match rest with
      | '+' :: digits => (Text.natOf? digits).map Int.ofNat
      | '-' :: digits => (Text.natOf? digits).map fun n => -Int.ofNat n
      | digits => (Text.natOf? digits).map Int.ofNat
    else
      none

/-- A number without sign: digits with an optional point, at least one digit, and an optional
exponent. -/
def ofUnsignedText? (cs : List Char) : Option Binary64 :=
  let whole := cs.takeWhile Text.isAsciiDigit
  let rest := cs.dropWhile Text.isAsciiDigit
  let (places, tail) := match rest with
    | '.' :: behind => (behind.takeWhile Text.isAsciiDigit, behind.dropWhile Text.isAsciiDigit)
    | _ => ([], rest)
  if whole.isEmpty && places.isEmpty then none
  else
    (exponentOf? tail).map fun exponent =>
      ofDecimal (Text.digitsValue (whole ++ places)) (exponent - places.length)

/-- A number without sign, or one of the names of infinity and of what is no number. -/
def ofMagnitudeText? (cs : List Char) : Option Binary64 :=
  let name := cs.map Text.asciiLower
  if name = "inf".toList || name = "infinity".toList then some infinity
  else if name = "nan".toList then some nan
  else ofUnsignedText? cs

/-- The number a text stands for, with an optional sign. -/
def ofDecimalText? : List Char → Option Binary64
  | '+' :: rest => ofMagnitudeText? rest
  | '-' :: rest => (ofMagnitudeText? rest).map negate
  | cs => ofMagnitudeText? cs

/-! ## Reading in two roundings -/

/-- `10 ^ n`, rounded; exact up to `n = 22`. -/
def powerOfTen (n : Nat) : Binary64 :=
  ofNat (Nat.pow 10 n)

/-- Division by `10 ^ n`, in steps of at most `10 ^ 308` and no further than to zero. -/
def divPowerOfTen (x : Binary64) (n : Nat) : Binary64 :=
  if n ≤ 308 then x.divMagnitude (powerOfTen n)
  else if x.isZero then x
  else divPowerOfTen (x.divMagnitude (powerOfTen 308)) (n - 308)
termination_by n

/-- `significand * 10 ^ exponent` in two roundings; none where it is too large. -/
def scaled? (significand : Nat) (exponent : Int) : Option Binary64 :=
  let x := ofNat significand
  if exponent < 0 then some (x.divPowerOfTen exponent.natAbs)
  else if 308 < exponent then (if x.isZero then some x else none)
  else
    let product := x.mulMagnitude (powerOfTen exponent.toNat)
    if product.isInfinite then none else some product

end ActionBoard.Binary64
