import ActionBoard.Text.Word

/-!
# Whole numbers written in decimal

Numbers are read strictly: digits of ASCII only, no blanks, no separators.  A plus sign may stand
before any number; a minus sign only where negative numbers are meant at all, so that `-0` is no
natural number.  A number outside the range asked for is refused and not clipped.

`natOf?_decimal` says that what `decimal` writes is read back.
-/

namespace ActionBoard.Text

def digitValue (c : Char) : Nat :=
  c.toNat - '0'.toNat

def digitChar (d : Nat) : Char :=
  Char.ofNat ('0'.toNat + d)

/-- The number written by a row of digits. -/
def digitsValue (cs : List Char) : Nat :=
  cs.foldl (fun value c => 10 * value + digitValue c) 0

/-- The decimal digits of a number, without leading zeros. -/
def decimal (n : Nat) : List Char :=
  if n < 10 then [digitChar n] else decimal (n / 10) ++ [digitChar (n % 10)]

/-- The decimal form of a number, with a minus sign where it is negative. -/
def decimalInt (n : Int) : List Char :=
  if n < 0 then '-' :: decimal n.natAbs else decimal n.natAbs

/-- `decimal` as a string. -/
def natText (n : Nat) : String :=
  String.ofList (decimal n)

/-- `decimalInt` as a string. -/
def intText (n : Int) : String :=
  String.ofList (decimalInt n)

/-- The number written by a non-empty row of digits. -/
def natOf? (cs : List Char) : Option Nat :=
  if cs.isEmpty || !cs.all isAsciiDigit then none else some (digitsValue cs)

/-- The natural number below `bound`, with an optional plus sign. -/
def boundedNat? (bound : Nat) (cs : List Char) : Option Nat :=
  let digits := match cs with
    | '+' :: rest => rest
    | _ => cs
  (natOf? digits).filter (· < bound)

/-- The number from `low` up to but not including `high`, with an optional sign. -/
def boundedInt? (low high : Int) (cs : List Char) : Option Int :=
  let number : Option Int := match cs with
    | '+' :: rest => (natOf? rest).map Int.ofNat
    | '-' :: rest => (natOf? rest).map fun n => -Int.ofNat n
    | _ => (natOf? cs).map Int.ofNat
  number.filter fun n => low ≤ n && n < high

/-- A number of 64 bits with a sign. -/
def int64Of? (cs : List Char) : Option Int :=
  boundedInt? (-0x8000000000000000) 0x8000000000000000 cs

/-- A number of 32 bits with a sign. -/
def int32Of? (cs : List Char) : Option Int32 :=
  (boundedInt? (-0x80000000) 0x80000000 cs).map Int32.ofInt

/-- A number of 64 bits without a sign. -/
def word64Of? (cs : List Char) : Option UInt64 :=
  (boundedNat? UInt64.size cs).map UInt64.ofNat

/-! ## What is written is read back -/

theorem isAsciiDigit_digitChar {d : Nat} (h : d < 10) : isAsciiDigit (digitChar d) = true := by
  have all : ∀ d : Fin 10, isAsciiDigit (digitChar d) = true := by decide
  exact all ⟨d, h⟩

theorem digitValue_digitChar {d : Nat} (h : d < 10) : digitValue (digitChar d) = d := by
  have all : ∀ d : Fin 10, digitValue (digitChar d) = d := by decide
  exact all ⟨d, h⟩

theorem digitsValue_append_singleton (cs : List Char) (c : Char) :
    digitsValue (cs ++ [c]) = 10 * digitsValue cs + digitValue c := by
  simp [digitsValue]

theorem decimal_ne_nil (n : Nat) : decimal n ≠ [] := by
  unfold decimal
  split <;> simp

theorem all_isAsciiDigit_decimal (n : Nat) : (decimal n).all isAsciiDigit = true := by
  induction n using Nat.strongRecOn with
  | ind n ih =>
    unfold decimal
    split
    · simp [isAsciiDigit_digitChar ‹n < 10›]
    · have := ih (n / 10) (by omega)
      simp [List.all_append, this, isAsciiDigit_digitChar (Nat.mod_lt n (by omega : 0 < 10))]

theorem digitsValue_decimal (n : Nat) : digitsValue (decimal n) = n := by
  induction n using Nat.strongRecOn with
  | ind n ih =>
    unfold decimal
    split
    · simp [digitsValue, digitValue_digitChar ‹n < 10›]
    · rw [digitsValue_append_singleton, ih (n / 10) (by omega),
        digitValue_digitChar (Nat.mod_lt n (by omega))]
      omega

theorem digitChar_ne_zero {d : Nat} (hpos : 0 < d) (h : d < 10) : digitChar d ≠ '0' := by
  have all : ∀ d : Fin 10, 0 < d.val → digitChar d ≠ '0' := by decide
  exact all ⟨d, h⟩ hpos

/-- No zero leads the digits of a number that is not zero. -/
theorem head?_decimal_ne_zero {n : Nat} (hpos : 0 < n) : (decimal n).head? ≠ some '0' := by
  induction n using Nat.strongRecOn with
  | ind n ih =>
    rw [decimal]
    split
    · rename_i hlt
      simpa using digitChar_ne_zero hpos hlt
    · have hhead := ih (n / 10) (by omega) (by omega)
      cases hdigits : decimal (n / 10) with
      | nil => exact absurd hdigits (decimal_ne_nil (n / 10))
      | cons c rest => simpa [hdigits] using hhead

/-- A written number is read back. -/
theorem natOf?_decimal (n : Nat) : natOf? (decimal n) = some n := by
  simp only [natOf?, all_isAsciiDigit_decimal, digitsValue_decimal]
  cases h : decimal n with
  | nil => exact absurd h (decimal_ne_nil n)
  | cons => simp

end ActionBoard.Text
