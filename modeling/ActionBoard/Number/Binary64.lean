/-!
# Binary64 numbers as bits

Metadata may hold fractions, and a few decisions of the handlers depend on their last bit: a
confidence is handed on as it was written, a fractional timeout is cut to whole milliseconds.  A
number is therefore its 64 bits, and every operation goes through exact arithmetic on natural
numbers: a finite number is `significand * 2 ^ exponent`, an operation computes the exact result as
a quotient, and `ofRatio` rounds that quotient once.

Rounding is to the nearest number, and a tie goes to the even significand.  The position of the last
bit is found first (`unitExponent`), with the exponent of the subnormal numbers as its lower
limit, so that one formula covers normal and subnormal results as well as the carry into the
next power of two.
-/

namespace ActionBoard

/-- A number of the format binary64: sign, eleven bits of exponent, 52 bits of fraction. -/
structure Binary64 where
  bits : UInt64
  deriving DecidableEq, Repr

namespace Binary64

/-! ## The fields -/

/-- The bit of the sign, which is also the number of magnitudes. -/
def signBit : Nat := 0x8000000000000000

/-- The first bit of a normal significand, which is not stored. -/
def leadingBit : Nat := 0x10000000000000

def magnitudeBits (x : Binary64) : Nat :=
  x.bits.toNat % signBit

def isNegative (x : Binary64) : Bool :=
  signBit ≤ x.bits.toNat

def exponentField (x : Binary64) : Nat :=
  x.magnitudeBits / leadingBit

def fraction (x : Binary64) : Nat :=
  x.bits.toNat % leadingBit

def isNaN (x : Binary64) : Bool :=
  x.exponentField == 2047 && x.fraction != 0

def isInfinite (x : Binary64) : Bool :=
  x.exponentField == 2047 && x.fraction == 0

def isZero (x : Binary64) : Bool :=
  x.magnitudeBits == 0

/-- With `exponent`, the magnitude of a finite number. -/
def significand (x : Binary64) : Nat :=
  if x.exponentField = 0 then x.fraction else leadingBit + x.fraction

/-- The magnitude of a finite number is `significand * 2 ^ exponent`. -/
def exponent (x : Binary64) : Int :=
  max x.exponentField 1 - 1075

/-- The bits of positive infinity; larger bits of a magnitude are no numbers. -/
def infinityBits : Nat :=
  2047 * leadingBit

def ofMagnitude (negative : Bool) (magnitude : Nat) : Binary64 :=
  ⟨UInt64.ofNat (if negative then signBit + magnitude else magnitude)⟩

def zero : Binary64 := ⟨0⟩

def infinity : Binary64 := ofMagnitude false infinityBits

def nan : Binary64 := ofMagnitude false (infinityBits + leadingBit / 2)

def negate (x : Binary64) : Binary64 :=
  ofMagnitude (!x.isNegative) x.magnitudeBits

/-- Whether two numbers that are no NaN are equal: the two zeros are. -/
def sameNumber (x y : Binary64) : Bool :=
  x == y || (x.isZero && y.isZero)

/-! ## Rounding a quotient -/

/-- `num / den` to the nearest natural number, a tie to the even one. -/
def roundQuotient (num den : Nat) : Nat :=
  let quotient := num / den
  let twice := 2 * (num % den)
  if twice > den || (twice == den && quotient % 2 == 1) then quotient + 1 else quotient

/-- `num / den / 2 ^ unit` as a quotient of natural numbers. -/
def scaleQuotient (num den : Nat) (unit : Int) : Nat × Nat :=
  if 0 ≤ unit then (num, den * Nat.pow 2 unit.toNat) else (num * Nat.pow 2 (-unit).toNat, den)

/-- The exponent of the last bit of `num / den`: the quotient has 53 bits before that place, or the
place is the last one that the format has. -/
def unitExponent (num den : Nat) : Int :=
  let guess : Int := (Nat.log2 num : Int) - Nat.log2 den - 52
  let scaled := scaleQuotient num den guess
  max (if scaled.1 / scaled.2 < leadingBit then guess - 1 else guess) (-1074)

/-- The positive quotient `num / den`, rounded; infinity where it is too large. -/
def ofRatio (num den : Nat) : Binary64 :=
  if num = 0 then zero
  else
    let unit := unitExponent num den
    let scaled := scaleQuotient num den unit
    let magnitude := (unit + 1074).toNat * leadingBit + roundQuotient scaled.1 scaled.2
    ofMagnitude false (min magnitude infinityBits)

/-- The natural number `n`, rounded. -/
def ofNat (n : Nat) : Binary64 :=
  ofRatio n 1

/-- The integer `n`, rounded. -/
def ofInt (n : Int) : Binary64 :=
  if n < 0 then (ofNat n.natAbs).negate else ofNat n.natAbs

/-- `num * 2 ^ scale / den`, rounded. -/
def ofScaled (num den : Nat) (scale : Int) : Binary64 :=
  let scaled := scaleQuotient num den (-scale)
  ofRatio scaled.1 scaled.2

/-- The product of two finite numbers without sign. -/
def mulMagnitude (x y : Binary64) : Binary64 :=
  ofScaled (x.significand * y.significand) 1 (x.exponent + y.exponent)

/-- The quotient of two finite numbers without sign, the second not zero. -/
def divMagnitude (x y : Binary64) : Binary64 :=
  ofScaled x.significand y.significand (x.exponent - y.exponent)

/-- The product with a positive finite number. -/
def scaleBy (x factor : Binary64) : Binary64 :=
  if x.exponentField = 2047 then x
  else
    let product := mulMagnitude x factor
    if x.isNegative then product.negate else product

/-! ## Back to whole numbers -/

/-- The magnitude of a finite number without its fractional part. -/
def wholeMagnitude (x : Binary64) : Nat :=
  if 0 ≤ x.exponent then x.significand * Nat.pow 2 x.exponent.toNat
  else x.significand / Nat.pow 2 (-x.exponent).toNat

/-- The number cut toward zero and clipped to 64 bits with a sign; what is no number becomes
zero. -/
def toInt64 (x : Binary64) : Int :=
  if x.isNaN then 0
  else if x.isNegative then
    if x.isInfinite then -signBit else max (-signBit) (-(x.wholeMagnitude : Int))
  else
    if x.isInfinite then signBit - 1 else min (signBit - 1) x.wholeMagnitude

/-- The larger of the number and zero; what is no number becomes zero. -/
def orZero (x : Binary64) : Binary64 :=
  if x.isNaN || x.isNegative then zero else x

end Binary64

end ActionBoard
