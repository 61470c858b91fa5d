import ActionBoard.Proofs.Text.Spelling
import ActionBoard.Time
import Mathlib.Algebra.Group.Nat.Defs
import Mathlib.Data.List.TakeWhile
import Mathlib.Tactic.SplitIfs

/-!
# Times that are read as they are written

A time in a year of four digits is read back from its text (`ofText?_text`).  Every field is a
number of a fixed width, which the reader of numbers takes whole because a separator follows
(`readNumber_padded`); the fraction has the digits of nanoseconds or of a whole number of
micro- or milliseconds.
-/

namespace ActionBoard.UtcTime

open Text

/-! ## Numbers of a fixed width -/

theorem digitsValue_replicate_append (zeros : Nat) (cs : List Char) :
    digitsValue (List.replicate zeros '0' ++ cs) = digitsValue cs := by
  induction zeros with
  | zero => rfl
  | succ zeros ih =>
    rw [List.replicate_succ, List.cons_append, digitsValue, List.foldl_cons]
    exact ih

theorem length_padded {width n : Nat} (hwidth : 0 < width) (h : n < 10 ^ width) :
    (padded width n).length = width := by
  have := length_decimal_le hwidth h
  simp only [padded, List.length_append, List.length_replicate]
  omega

theorem digitsValue_padded (width n : Nat) : digitsValue (padded width n) = n := by
  rw [padded, digitsValue_replicate_append, digitsValue_decimal]

theorem isAsciiDigit_of_mem_padded {width n : Nat} {c : Char} (h : c ∈ padded width n) :
    isAsciiDigit c = true := by
  rcases List.mem_append.mp h with h | h
  · rw [List.eq_of_mem_replicate h]
    rfl
  · exact List.all_eq_true.mp (all_isAsciiDigit_decimal n) c h

theorem isBlank_eq_false_of_isAsciiDigit {c : Char} (h : isAsciiDigit c = true) :
    isBlank c = false := by
  simp only [isAsciiDigit, Bool.and_eq_true, decide_eq_true_eq, Char.le_def, UInt32.le_iff_toNat_le]
    at h
  obtain ⟨hlow, hhigh⟩ := h
  have hbounds : 48 ≤ c.toNat ∧ c.toNat ≤ 57 := ⟨hlow, hhigh⟩
  simp [isBlank]
  omega

theorem stripStart_padded_append {width n : Nat} (hwidth : 0 < width) (h : n < 10 ^ width)
    (rest : List Char) : stripStart isBlank (padded width n ++ rest) = padded width n ++ rest := by
  have hlength := length_padded hwidth h
  cases hdigits : padded width n with
  | nil =>
    rw [hdigits] at hlength
    exact absurd hlength (Nat.ne_of_lt hwidth)
  | cons c digits =>
    have hdigit : isAsciiDigit c = true := isAsciiDigit_of_mem_padded (hdigits ▸ List.mem_cons_self)
    exact stripStart_cons_of_not (isBlank_eq_false_of_isAsciiDigit hdigit)

/-- **A number of full width is read back.** -/
theorem readNumber_padded {width n : Nat} (hwidth : 0 < width) (h : n < 10 ^ width)
    (rest : List Char) : readNumber width (padded width n ++ rest) = some (n, rest) := by
  have hlength := length_padded hwidth h
  have htake : (padded width n ++ rest).take width = padded width n := List.take_left' hlength
  have hdigits : (padded width n).takeWhile isAsciiDigit = padded width n :=
    List.takeWhile_eq_self_iff.mpr fun c hc => isAsciiDigit_of_mem_padded hc
  have hne : (padded width n).isEmpty = false := by
    rw [List.isEmpty_eq_false_iff, ← List.length_pos_iff, hlength]
    exact hwidth
  rw [readNumber, stripStart_padded_append hwidth h, htake, hdigits, hne,
    digitsValue_padded, hlength, List.drop_left' hlength]
  rfl

theorem readSeparator_cons {separator : Char} (h : isBlank separator = false) (rest : List Char) :
    readSeparator separator (separator :: rest) = some rest := by
  rw [readSeparator, stripStart_cons_of_not h]
  simp

/-- A year of four digits is read back. -/
theorem readYear_padded {n : Nat} (h : n < 10 ^ 4) (rest : List Char) :
    readYear (padded 4 n ++ rest) = some ((n : Int), rest) := by
  have hlength := length_padded (by decide) h
  have hnumber := readNumber_padded (by decide) h rest
  rw [readYear, stripStart_padded_append (by decide) h]
  cases hdigits : padded 4 n with
  | nil =>
    rw [hdigits] at hlength
    cases hlength
  | cons c digits =>
    have hdigit : isAsciiDigit c = true := isAsciiDigit_of_mem_padded (hdigits ▸ List.mem_cons_self)
    rw [hdigits] at hnumber
    -- A digit is no sign.
    split
    · rename_i heq
      rw [(List.cons.inj heq).1] at hdigit
      exact absurd hdigit (by decide)
    · rename_i heq
      rw [(List.cons.inj heq).1] at hdigit
      exact absurd hdigit (by decide)
    · rw [hnumber]
      rfl

/-! ## Fractions -/

theorem readFraction_padded {width n : Nat} (hwidth : 0 < width) (hnine : width ≤ 9)
    (h : n < 10 ^ width) {rest : List Char} (hrest : ∀ c ∈ rest.head?, isAsciiDigit c = false) :
    readFraction ('.' :: (padded width n ++ rest)) = some (n * 10 ^ (9 - width), rest) := by
  have hlength := length_padded hwidth h
  have hend : rest.takeWhile isAsciiDigit = [] := by
    cases rest with
    | nil => rfl
    | cons c rest => rw [List.takeWhile_cons, hrest c rfl, if_neg Bool.false_ne_true]
  have hdigits : (padded width n ++ rest).takeWhile isAsciiDigit = padded width n := by
    rw [List.takeWhile_append_of_pos fun c hc => isAsciiDigit_of_mem_padded hc, hend,
      List.append_nil]
  have hkept : (padded width n).take 9 = padded width n :=
    List.take_of_length_le (hlength.le.trans hnine)
  have hne : (padded width n).isEmpty = false := by
    rw [List.isEmpty_eq_false_iff, ← List.length_pos_iff, hlength]
    exact hwidth
  rw [readFraction]
  simp only [hdigits, hkept, hne, digitsValue_padded, hlength, List.drop_left' hlength]
  rfl

theorem readFraction_fractionText {nanosecond : Nat} (h : nanosecond < 1000000000) :
    readFraction (fractionText nanosecond ++ ['Z']) = some (nanosecond, ['Z']) := by
  have hend : ∀ c ∈ ['Z'].head?, isAsciiDigit c = false := by
    rintro c ⟨⟩
    rfl
  rw [fractionText]
  split_ifs with hzero hmilli hmicro
  · rw [hzero]
    rfl
  · rw [List.cons_append, readFraction_padded (by decide) (by decide) (by omega) hend]
    have : nanosecond / 1000000 * 10 ^ (9 - 3) = nanosecond := by omega
    rw [this]
  · rw [List.cons_append, readFraction_padded (by decide) (by decide) (by omega) hend]
    have : nanosecond / 1000 * 10 ^ (9 - 6) = nanosecond := by omega
    rw [this]
  · rw [List.cons_append, readFraction_padded (by decide) (by decide) (by omega) hend]
    have : nanosecond * 10 ^ (9 - 9) = nanosecond := by omega
    rw [this]

/-! ## Times -/

theorem ofFields?_self (t : UtcTime) :
    ofFields? t.year t.month t.day t.hour t.minute t.second t.nanosecond = some t :=
  dif_pos ⟨t.yearRange, t.monthRange, t.dayRange, t.hourRange, t.minuteRange, t.secondRange,
    t.nanosecondRange⟩

/-- Universal time is its own local time. -/
theorem ofLocal?_zero (t : UtcTime) : t.ofLocal? 0 = some t := by
  have hhour := t.hourRange
  have hminute := t.minuteRange
  have hnegative : ¬ (t.hour * 60 + t.minute - 0 : Int) < 0 := by omega
  have hlate : ¬ 1440 ≤ (t.hour * 60 + t.minute - 0 : Int) := by omega
  have hminutes : ((t.hour * 60 + t.minute - 0 : Int) % 1440).toNat =
      t.hour * 60 + t.minute := by omega
  have hquotient : (t.hour * 60 + t.minute) / 60 = t.hour := by omega
  have hremainder : (t.hour * 60 + t.minute) % 60 = t.minute := by omega
  rw [ofLocal?]
  simp only [hnegative, hlate, if_false, hminutes, hquotient, hremainder]
  exact ofFields?_self t

theorem daysInMonth_le (year : Int) (month : Nat) : daysInMonth year month ≤ 31 := by
  unfold daysInMonth
  split_ifs
  all_goals decide

/-- **A time in a year from 0 to 9999 is read back from its text.** -/
theorem ofText?_text {t : UtcTime} (h : 0 ≤ t.year ∧ t.year ≤ 9999) : ofText? t.text = some t := by
  have hmonth := t.monthRange.2
  have hday := t.dayRange.2.trans (daysInMonth_le t.year t.month)
  have hhour := t.hourRange
  have hminute := t.minuteRange
  have hsecond := t.secondRange
  obtain ⟨n, hn⟩ : ∃ n : Nat, t.year = n := Int.eq_ofNat_of_zero_le h.1
  have hyear : yearText t.year = padded 4 n := by
    have hnegative : ¬ (n : Int) < 0 := by omega
    have hlarge : ¬ 9999 < (n : Int) := by omega
    rw [hn, yearText, if_neg hnegative, if_neg hlarge, Int.natAbs_natCast]
  have htext :
      t.text.toList = padded 4 n ++ '-' :: (padded 2 t.month ++ '-' :: (padded 2 t.day ++ 'T' ::
      (padded 2 t.hour ++ ':' :: (padded 2 t.minute ++ ':' :: (padded 2 t.second ++
        (fractionText t.nanosecond ++ ['Z'])))))) := by
    rw [text, String.toList_ofList, hyear]
    simp only [List.append_assoc, List.cons_append]
  have hdash : isBlank '-' = false := rfl
  have hcolon : isBlank ':' = false := rfl
  have hoffset : readOffset (stripStart isBlank ['Z']) = some (0, []) := rfl
  have htwo : ∀ m < 100, ∀ rest, readNumber 2 (padded 2 m ++ rest) = some (m, rest) :=
    fun m hm rest =>
    readNumber_padded (by decide) hm rest
  have hfields := ofFields?_self t
  rw [hn] at hfields
  rw [ofText?, htext]
  refine Option.bind_eq_some_iff.mpr ⟨_, readYear_padded (by omega) _, ?_⟩
  refine Option.bind_eq_some_iff.mpr ⟨_, readSeparator_cons hdash _, ?_⟩
  refine Option.bind_eq_some_iff.mpr ⟨_, htwo t.month (by omega) _, ?_⟩
  refine Option.bind_eq_some_iff.mpr ⟨_, readSeparator_cons hdash _, ?_⟩
  refine Option.bind_eq_some_iff.mpr ⟨_, htwo t.day (by omega) _, ?_⟩
  refine Option.bind_eq_some_iff.mpr ⟨_, htwo t.hour (by omega) _, ?_⟩
  refine Option.bind_eq_some_iff.mpr ⟨_, readSeparator_cons hcolon _, ?_⟩
  refine Option.bind_eq_some_iff.mpr ⟨_, htwo t.minute (by omega) _, ?_⟩
  refine Option.bind_eq_some_iff.mpr ⟨_, readSeparator_cons hcolon _, ?_⟩
  refine Option.bind_eq_some_iff.mpr ⟨_, htwo t.second (by omega) _, ?_⟩
  refine Option.bind_eq_some_iff.mpr ⟨_, readFraction_fractionText t.nanosecondRange, ?_⟩
  refine Option.bind_eq_some_iff.mpr ⟨_, hoffset, ?_⟩
  exact Option.bind_eq_some_iff.mpr ⟨_, hfields, ofLocal?_zero t⟩

end ActionBoard.UtcTime
