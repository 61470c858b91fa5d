import ActionBoard.Number.DecimalText
import ActionBoard.Proofs.Text.Spelling
import Mathlib.Algebra.Group.Nat.Defs
import Mathlib.Data.List.TakeWhile

/-!
# Whole numbers as binary64 numbers

A whole number that has more than 63 bits is read by way of a binary64 number, whose last bits are
lost.  It comes back as the largest number of 64 bits with a sign all the same: rounding does not go
below a power of two, and whatever is above that power is clipped.

* `unitExponent_of_le`: the place of the last bit that is kept of such a number.
* `toInt64_ofNat`: what comes back of a number of 64 bits without a sign that does not fit with a
  sign.
* `isZero_ofInt`: only zero is rounded to zero.
* `ofDecimalText?_decimal`: the digits of a number are rounded as the number itself.
-/

namespace ActionBoard.Binary64

variable {n m : Nat}

/-! ## Fields of a number -/

theorem toNat_ofMagnitude_false (h : m < signBit) : (ofMagnitude false m).bits.toNat = m := by
  have hsize : m < 2 ^ 64 := Nat.lt_trans h (by decide)
  exact (UInt64.toNat_ofNat_of_lt hsize)

theorem magnitudeBits_ofMagnitude (negative : Bool) (h : m < signBit) :
    (ofMagnitude negative m).magnitudeBits = m := by
  cases negative with
  | false => rw [magnitudeBits, toNat_ofMagnitude_false h, Nat.mod_eq_of_lt h]
  | true =>
    have hsize : signBit + m < 2 ^ 64 := Nat.add_lt_add_left h signBit
    have hbits : (ofMagnitude true m).bits.toNat = signBit + m := UInt64.toNat_ofNat_of_lt hsize
    rw [magnitudeBits, hbits, Nat.add_mod_left, Nat.mod_eq_of_lt h]

theorem isNegative_ofMagnitude_false (h : m < signBit) :
    (ofMagnitude false m).isNegative = false := by
  rw [isNegative, toNat_ofMagnitude_false h]
  exact decide_eq_false (Nat.not_le.mpr h)

theorem magnitudeBits_negate {x : Binary64} : x.negate.magnitudeBits = x.magnitudeBits :=
  magnitudeBits_ofMagnitude _ (Nat.mod_lt _ (by decide))

/-- What is at least two to the power of 63, and finite, is clipped. -/
theorem toInt64_of_le_exponentField {x : Binary64} (hsign : x.isNegative = false)
    (hlow : 1086 ≤ x.exponentField)
    (hhigh : x.exponentField < 2047) : x.toInt64 = 0x7FFFFFFFFFFFFFFF := by
  have hfinite : (x.exponentField == 2047) = false := beq_eq_false_iff_ne.mpr (by omega)
  have hnan : x.isNaN = false := by rw [isNaN, hfinite, Bool.false_and]
  have hinfinite : x.isInfinite = false := by rw [isInfinite, hfinite, Bool.false_and]
  have hexponent : x.exponent = ((x.exponentField - 1075 : Nat) : Int) := by
    rw [exponent]
    omega
  have hsignificand : leadingBit ≤ x.significand := by
    rw [significand, if_neg (by omega)]
    exact Nat.le_add_right _ _
  have hwhole : 0x8000000000000000 ≤ x.wholeMagnitude := by
    have hpower : 2 ^ 11 ≤ 2 ^ (x.exponentField - 1075) :=
      Nat.pow_le_pow_right (by decide) (by omega)
    have hproduct : leadingBit * 2 ^ 11 ≤ x.significand * 2 ^ (x.exponentField - 1075) :=
      Nat.mul_le_mul hsignificand hpower
    rw [wholeMagnitude, hexponent, if_pos (Int.natCast_nonneg _), Int.toNat_natCast]
    exact hproduct
  have hclip : ((signBit : Nat) : Int) = 0x8000000000000000 := rfl
  rw [toInt64, if_neg (by rw [hnan]; decide), if_neg (by rw [hsign]; decide),
    if_neg (by rw [hinfinite]; decide), hclip]
  omega

/-! ## Rounding of whole numbers -/

theorem roundQuotient_le (num den : Nat) : roundQuotient num den ≤ num / den + 1 := by
  rw [roundQuotient]
  split
  · exact Nat.le_refl _
  · exact Nat.le_succ _

theorem le_roundQuotient (num den : Nat) : num / den ≤ roundQuotient num den := by
  rw [roundQuotient]
  split
  · exact Nat.le_succ _
  · exact Nat.le_refl _

/-- The last bit of a whole number is far above the last place that the format has. -/
theorem le_unitExponent (n : Nat) : -53 ≤ unitExponent n 1 := by
  have hlog : Nat.log2 1 = 0 := by decide
  rw [unitExponent, hlog]
  split
  · omega
  · omega

/-- The bits of a whole number that is not zero. -/
theorem ofNat_of_pos (h : 0 < n) :
    ofNat n = ofMagnitude false (min ((unitExponent n 1 + 1074).toNat * leadingBit +
      roundQuotient (scaleQuotient n 1 (unitExponent n 1)).1
        (scaleQuotient n 1 (unitExponent n 1)).2) infinityBits) := by
  rw [ofNat, ofRatio, if_neg (Nat.ne_of_gt h)]

/-- A whole number is rounded to zero only if it is zero. -/
theorem isZero_ofNat (n : Nat) : (ofNat n).isZero = (n == 0) := by
  cases n with
  | zero => rfl
  | succ n =>
    have hunit : -53 ≤ unitExponent (n + 1) 1 := le_unitExponent (n + 1)
    have hleast : 1 ≤ (unitExponent (n + 1) 1 + 1074).toNat := by omega
    have hmagnitude : leadingBit ≤ (unitExponent (n + 1) 1 + 1074).toNat * leadingBit :=
      Nat.le_mul_of_pos_left leadingBit hleast
    rw [ofNat_of_pos (Nat.succ_pos n), isZero, magnitudeBits_ofMagnitude]
    · refine beq_eq_false_iff_ne.mpr (Nat.ne_of_gt (Nat.lt_min.mpr ⟨?_, by decide⟩))
      exact Nat.lt_of_lt_of_le (by decide) (Nat.le_add_right_of_le hmagnitude)
    · exact Nat.lt_of_le_of_lt (Nat.min_le_right _ _) (by decide)

theorem isZero_ofInt (n : Int) : (ofInt n).isZero = (n == 0) := by
  have hnat : (ofNat n.natAbs).isZero = (n == 0) := by
    rw [isZero_ofNat, Bool.eq_iff_iff, beq_iff_eq, beq_iff_eq, Int.natAbs_eq_zero]
  rw [ofInt]
  split
  · rw [isZero, magnitudeBits_negate]
    exact hnat
  · exact hnat

/-- The last bit of a number of 64 bits has the place of the twelfth bit. -/
theorem unitExponent_of_le (hlow : 2 ^ 63 ≤ n) (hhigh : n < 2 ^ 64) : unitExponent n 1 = 11 := by
  have hlog : Nat.log2 n = 63 := (Nat.log2_eq_iff (by omega)).mpr ⟨hlow, hhigh⟩
  have hone : Nat.log2 1 = 0 := by decide
  have hscaled : scaleQuotient n 1 11 = (n, 2 ^ 11) := rfl
  have hquotient : ¬ n / 2 ^ 11 < leadingBit := by
    rw [leadingBit]
    omega
  rw [unitExponent, hlog, hone]
  show max (if (scaleQuotient n 1 11).1 / (scaleQuotient n 1 11).2 < leadingBit then (11 : Int) - 1
      else 11) (-1074) = 11
  rw [hscaled, if_neg hquotient]
  rfl

/-- **A number of 64 bits without a sign that does not fit with a sign comes back as the
largest that does.** -/
theorem toInt64_ofNat (hlow : 2 ^ 63 ≤ n) (hhigh : n < 2 ^ 64) :
    (ofNat n).toInt64 = 0x7FFFFFFFFFFFFFFF := by
  have hleast : n / 2 ^ 11 ≤ roundQuotient n (2 ^ 11) := le_roundQuotient n (2 ^ 11)
  have hmost : roundQuotient n (2 ^ 11) ≤ n / 2 ^ 11 + 1 := roundQuotient_le n (2 ^ 11)
  have hbits : ofNat n = ofMagnitude false (1085 * leadingBit + roundQuotient n (2 ^ 11)) := by
    have hfinite : 1085 * leadingBit + roundQuotient n (2 ^ 11) ≤ infinityBits := by
      rw [infinityBits, leadingBit]
      omega
    have hplace : ((11 : Int) + 1074).toNat = 1085 := rfl
    have hscaled : scaleQuotient n 1 11 = (n, 2 ^ 11) := rfl
    rw [ofNat_of_pos (by omega), unitExponent_of_le hlow hhigh, hplace, hscaled,
      Nat.min_eq_left hfinite]
  have hfits : 1085 * leadingBit + roundQuotient n (2 ^ 11) < signBit := by
    rw [signBit, leadingBit]
    omega
  have hfield : (ofNat n).exponentField =
      (1085 * leadingBit + roundQuotient n (2 ^ 11)) / leadingBit := by
    rw [hbits, exponentField, magnitudeBits_ofMagnitude false hfits]
  refine toInt64_of_le_exponentField ?_ ?_ ?_
  · rw [hbits, isNegative_ofMagnitude_false hfits]
  · rw [hfield, leadingBit]
    omega
  · rw [hfield, leadingBit]
    omega

/-! ## Whole numbers in decimal -/

theorem ofDecimal_zero (h : (Text.decimal n).length ≤ 310) : ofDecimal n 0 = ofNat n := by
  rw [ofDecimal]
  split
  · rename_i hzero
    rw [hzero]
    rfl
  · rw [if_neg (by omega), if_neg (by omega), if_pos (Int.le_refl 0)]
    show ofRatio (n * 10 ^ 0) 1 = ofNat n
    rw [Nat.pow_zero, Nat.mul_one, ofNat]

/-- **The digits of a number are rounded as the number itself**, if there are no more of them than a
finite number has. -/
theorem ofDecimalText?_decimal (h : (Text.decimal n).length ≤ 310) :
    ofDecimalText? (Text.decimal n) = some (ofNat n) := by
  have hdigits : ∀ c ∈ Text.decimal n, Text.isAsciiDigit c = true := fun c hc =>
    List.all_eq_true.mp (Text.all_isAsciiDigit_decimal n) c hc
  have hsmall : (Text.decimal n).map Text.asciiLower = Text.decimal n := by
    have hsame : ∀ d < 10, Text.asciiLower (Text.digitChar d) = Text.digitChar d := by decide
    refine (List.map_congr_left fun c hc => ?_).trans (List.map_id _)
    obtain ⟨d, hd, rfl⟩ := Text.exists_digitChar (hdigits c hc)
    exact hsame d hd
  have hname : ∀ word : List Char, (word.any fun c => !Text.isAsciiDigit c) = true →
      Text.decimal n ≠ word := by
    rintro word hword rfl
    obtain ⟨c, hc, hdigit⟩ := List.any_eq_true.mp hword
    rw [hdigits c hc] at hdigit
    cases hdigit
  have htake : (Text.decimal n).takeWhile Text.isAsciiDigit = Text.decimal n :=
    List.takeWhile_eq_self_iff.mpr hdigits
  have hdrop : (Text.decimal n).dropWhile Text.isAsciiDigit = [] :=
    List.dropWhile_eq_nil_iff.mpr hdigits
  have hunsigned : ofUnsignedText? (Text.decimal n) = some (ofNat n) := by
    have hne : (Text.decimal n).isEmpty = false := by simpa using Text.decimal_ne_nil n
    simp [ofUnsignedText?, htake, hdrop, hne, exponentOf?, Text.digitsValue_decimal,
      ofDecimal_zero h]
  have hmagnitude : ofMagnitudeText? (Text.decimal n) = some (ofNat n) := by
    have hinf : Text.decimal n ≠ "inf".toList := hname _ (by decide)
    have hinfinity : Text.decimal n ≠ "infinity".toList := hname _ (by decide)
    have hnan : Text.decimal n ≠ "nan".toList := hname _ (by decide)
    rw [ofMagnitudeText?, hsmall, decide_eq_false hinf, decide_eq_false hinfinity, Bool.or_false,
      if_neg Bool.false_ne_true, if_neg hnan, hunsigned]
  rw [ofDecimalText?]
  · exact hmagnitude
  · rintro rest hrest
    exact hname _ (by rfl) hrest
  · rintro rest hrest
    exact hname _ (by rfl) hrest

end ActionBoard.Binary64
