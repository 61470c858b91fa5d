import ActionBoard.Number.Binary64
import ActionBoard.Text.Numeral

/-!
# The shortest decimal of a binary64 number

A positive finite number is written with the fewest digits that still read back as that number, and
among the decimals of that length with the one nearest to it.

All decimals that read back form an interval around the number: halfway to its neighbours on either
side, with the ends included when the significand is even, because a tie is read as the even
neighbour.  Below a power of two the lower neighbour is only half as far away.  For a given number
of digits only two decimals can be the nearest ones in the interval, the two neighbours of the
number on the grid of that many digits; the first length for which one of them lies in the interval
wins.  Seventeen digits always suffice.

Lengths are measured in quarters of the unit of the last bit, which makes every end of an interval a
natural number; the comparison with a power of ten is a comparison of products.
-/

namespace ActionBoard

/-- A decimal `0.d₁d₂…dₙ * 10 ^ (exponent + 1)`, so that `exponent` is the power of ten of its first
digit.  The digits are those of `digits`, the first and the last of them not zero. -/
structure Decimal where
  digits : Nat
  exponent : Int
  deriving DecidableEq, Repr

namespace Binary64

/-- The decimals that read back as a number, in multiples of `num / den`: the number itself is
`value`, and the interval reaches from `low` to `high`. -/
structure Interval where
  low : Nat
  value : Nat
  high : Nat
  closed : Bool
  num : Nat
  den : Nat

/-- The interval of a positive finite number. -/
def interval (x : Binary64) : Interval :=
  let m := x.significand
  let below := if x.fraction = 0 && 1 < x.exponentField then 1 else 2
  let quarter := x.exponent - 2
  { low := 4 * m - below, value := 4 * m, high := 4 * m + 2, closed := m % 2 == 0
    num := if 0 ≤ quarter then Nat.pow 2 quarter.toNat else 1
    den := if 0 ≤ quarter then 1 else Nat.pow 2 (-quarter).toNat }

/-- A multiple of the unit of the interval and a multiple of `10 ^ place`, on one scale. -/
def Interval.onScale (i : Interval) (place : Int) (multiple decimal : Nat) : Nat × Nat :=
  if 0 ≤ place then (multiple * i.num, decimal * Nat.pow 10 place.toNat * i.den)
  else (multiple * i.num * Nat.pow 10 (-place).toNat, decimal * i.den)

/-- Whether `decimal * 10 ^ place` lies in the interval. -/
def Interval.contains (i : Interval) (place : Int) (decimal : Nat) : Bool :=
  let (low, above) := i.onScale place i.low decimal
  let (high, below) := i.onScale place i.high decimal
  if i.closed then low ≤ above && below ≤ high else low < above && below < high

/-- The largest `d` with `d * 10 ^ place` not above the number. -/
def Interval.floorAt (i : Interval) (place : Int) : Nat :=
  let (value, one) := i.onScale place i.value 1
  value / one

/-- Whether the number is nearer to `d + 1` than to `d` on the grid; a tie goes to the even one. -/
def Interval.nearerAbove (i : Interval) (place : Int) (d : Nat) : Bool :=
  let (value, one) := i.onScale place i.value 1
  let twice := 2 * (value - d * one)
  twice > one || (twice == one && d % 2 == 1)

/-- The one of the two neighbours on the grid of `10 ^ place` that is to be written, if any of them
lies in the interval. -/
def Interval.pick? (i : Interval) (place : Int) : Option Nat :=
  let d := i.floorAt place
  match i.contains place d, i.contains place (d + 1) with
  | true, true => some (if i.nearerAbove place d then d + 1 else d)
  | true, false => some d
  | false, true => some (d + 1)
  | false, false => none

/-- The power of ten of the first digit of the number. -/
def Interval.leadingPlace (i : Interval) : Int :=
  let bits : Int := (Nat.log2 (i.value * i.num) : Int) - Nat.log2 i.den
  let guess := bits * 30103 / 100000
  let reaches := fun place : Int =>
    let (value, one) := i.onScale place i.value 1
    decide (one ≤ value)
  if reaches (guess + 1) then guess + 1 else if reaches guess then guess else guess - 1

/-- The first grid, from the coarsest on, with a decimal to be written. -/
def Interval.search (i : Interval) (leading : Int) : Nat → Nat → Nat × Int
  | 0, length => (i.floorAt (leading - length), leading - length)
  | more + 1, length =>
    match i.pick? (leading - length) with
    | some d => (d, leading - length)
    | none => i.search leading more (length + 1)

/-- The number without the zeros at its end, and how many there were; at most `fuel` are dropped. -/
def dropZeros : Nat → Nat → Nat → Nat × Nat
  | 0, n, dropped => (n, dropped)
  | fuel + 1, n, dropped => if n % 10 = 0 then dropZeros fuel (n / 10) (dropped + 1)
      else (n, dropped)

/-- The shortest decimal of a positive finite number. -/
def shortest (x : Binary64) : Decimal :=
  let i := x.interval
  let (digits, place) := i.search i.leadingPlace 17 0
  let (core, dropped) := dropZeros 17 digits 0
  { digits := core, exponent := place + dropped + (Text.decimal core).length - 1 }

end Binary64

/-! ## Layout -/

/-- How a decimal is laid out: positionally while its leading power of ten lies in a range, with an
exponent outside it. -/
structure DecimalLayout where
  firstPositional : Int
  lastPositional : Int
  exponentMark : Char
  plusSign : Bool

/-- Numbers in documents: positional from `10⁻⁵` to below `10¹⁶`, and always recognisable as
fractions by a point or by an exponent, whose sign is written. -/
def documentLayout : DecimalLayout :=
  { firstPositional := -5, lastPositional := 15, exponentMark := 'e', plusSign := true }

namespace Decimal

/-- A decimal with a point. -/
def positional (d : Decimal) : List Char :=
  let digits := Text.decimal d.digits
  if d.exponent < 0 then
    ['0', '.'] ++ List.replicate (-d.exponent - 1).toNat '0' ++ digits
  else
    let whole := d.exponent.toNat + 1
    if digits.length ≤ whole then
      digits ++ List.replicate (whole - digits.length) '0' ++ ['.', '0']
    else
      digits.take whole ++ ['.'] ++ digits.drop whole

/-- A decimal with one digit before the point and an exponent. -/
def scientific (layout : DecimalLayout) (d : Decimal) : List Char :=
  let mantissa := match Text.decimal d.digits with
    | [] => []
    | [c] => [c]
    | c :: rest => c :: '.' :: rest
  let sign := if d.exponent < 0 then ['-'] else if layout.plusSign then ['+'] else []
  mantissa ++ [layout.exponentMark] ++ sign ++ Text.decimal d.exponent.natAbs

def layOut (layout : DecimalLayout) (d : Decimal) : List Char :=
  if layout.firstPositional ≤ d.exponent && d.exponent ≤ layout.lastPositional then d.positional
  else d.scientific layout

end Decimal

/-- The text of a finite number. -/
def Binary64.text (layout : DecimalLayout) (x : Binary64) : List Char :=
  let magnitude := if x.isZero then ['0', '.', '0'] else x.shortest.layOut layout
  if x.isNegative then '-' :: magnitude else magnitude

end ActionBoard
