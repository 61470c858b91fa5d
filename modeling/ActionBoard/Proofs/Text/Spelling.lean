import ActionBoard.Proofs.Text.Case
import ActionBoard.Text.Numeral
import Mathlib.Algebra.Group.Nat.Defs
import Mathlib.Tactic.Tauto

/-!
# Words in any case, and numbers in decimal

A macro or a script is written by hand: its words are in any case, and its numbers may have zeros in
front.  All readers of such a word get the same name, and all readers of such a number the same
value, each within its range.

* `SpelledAs`: a word that is a name in some case.  `SpelledAs.lower` and `SpelledAs.dropWord?`
  are the two ways in which it is recognized; `SpelledAs.dropWord?_eq_none` says that it is not
  taken for another name.
* `IsDecimal`: the texts that stand for a number.  `IsDecimal.boundedInt?` is what is read of them.
-/

namespace ActionBoard.Text

variable {c : Char} {word token digits : List Char} {name : String}

/-! ## Letters -/

theorem toNat_lt_of_isAsciiLetter (h : isAsciiLetter c = true) : c.toNat < 0x80 := by
  simp only [isAsciiLetter, Bool.or_eq_true, Bool.and_eq_true, decide_eq_true_eq, Char.le_def,
    UInt32.le_iff_toNat_le] at h
  have hz : 'z'.val.toNat = 0x7A := rfl
  have hZ : 'Z'.val.toNat = 0x5A := rfl
  show c.val.toNat < 0x80
  omega

theorem isWord_of_isAsciiLetter (h : isAsciiLetter c = true) : isWord c = true := by
  rw [isWord, h]
  rfl

/-- A small letter of ASCII is compared with letters of ASCII only by their small form. -/
theorem sameLetter_of_isAsciiLetter (h : isAsciiLetter c = true) (letter : Char) :
    sameLetter letter c = (asciiLower c == letter) := by
  have hlong : (c == '\u017F') = false := by
    refine beq_eq_false_iff_ne.mpr ?_
    rintro rfl
    exact absurd h (by decide)
  have hkelvin : (c == '\u212A') = false := by
    refine beq_eq_false_iff_ne.mpr ?_
    rintro rfl
    exact absurd h (by decide)
  rw [sameLetter, hlong, hkelvin, Bool.and_false, Bool.and_false, Bool.or_false, Bool.or_false]

/-- In ASCII every character has its small form, whatever stands around it. -/
theorem lower_ofList_of_ascii (h : ∀ c ∈ word, c.toNat < 0x80) :
    lower (String.ofList word) = String.ofList (word.map asciiLower) := by
  have hfrom : ∀ before, lowerFrom before word = word.map asciiLower := by
    induction word with
    | nil => exact fun _ => rfl
    | cons c rest ih =>
      intro before
      have hc : c.toNat < 0x80 := h c List.mem_cons_self
      have hsigma : c ≠ 'Σ' := by
        rintro rfl
        exact absurd hc (by decide)
      rw [lowerFrom, if_neg hsigma, lowerChar, if_pos hc,
        ih fun d hd => h d (List.mem_cons_of_mem c hd)]
      rfl
  rw [lower, String.toList_ofList, hfrom]

/-! ## Words -/

/-- A word of letters of ASCII that is the given name in some case. -/
structure SpelledAs (word : List Char) (name : String) : Prop where
  letters : ∀ c ∈ word, isAsciiLetter c = true
  small : word.map asciiLower = name.toList

theorem spelledAs_iff : SpelledAs word name ↔ word.all isAsciiLetter = true ∧ word.map asciiLower =
    name.toList := by
  rw [List.all_eq_true]
  exact ⟨fun h => ⟨h.letters, h.small⟩, fun h => ⟨h.1, h.2⟩⟩

instance (word : List Char) (name : String) : Decidable (SpelledAs word name) :=
  decidable_of_iff _ spelledAs_iff.symm

theorem dropWord?_map_asciiLower (h : ∀ c ∈ word, isAsciiLetter c = true) (rest : List Char) :
    dropWord? (word.map asciiLower) (word ++ rest) = some rest := by
  induction word with
  | nil => rfl
  | cons c word ih =>
    have hc : sameLetter (asciiLower c) c = true := by
      rw [sameLetter_of_isAsciiLetter (h c List.mem_cons_self), beq_self_eq_true]
    rw [List.map_cons, List.cons_append, dropWord?, if_pos hc]
    exact ih fun d hd => h d (List.mem_cons_of_mem c hd)

/-- Where another word is found, one of the two begins like the other. -/
theorem dropWord?_eq_none {other : List Char} (h : ∀ c ∈ word, isAsciiLetter c = true)
    (hother : ¬ other <+: word.map asciiLower) (hword : ¬ word.map asciiLower <+: other)
    (rest : List Char) : dropWord? other (word ++ rest) = none := by
  induction word generalizing other with
  | nil => exact absurd List.nil_prefix hword
  | cons c word ih =>
    cases other with
    | nil => exact absurd List.nil_prefix hother
    | cons letter other =>
      rw [List.cons_append, dropWord?]
      split
      · rename_i hsame
        rw [sameLetter_of_isAsciiLetter (h c List.mem_cons_self), beq_iff_eq] at hsame
        rw [List.map_cons, hsame, List.prefix_cons_inj] at hother hword
        exact ih (fun d hd => h d (List.mem_cons_of_mem c hd)) hother hword
      · rfl

namespace SpelledAs

theorem ne_nil (h : SpelledAs word name) (hname : name ≠ "") : word ≠ [] := by
  rintro rfl
  exact hname (String.toList_eq_nil_iff.mp h.small.symm)

theorem lower (h : SpelledAs word name) : lower (String.ofList word) = name := by
  rw [lower_ofList_of_ascii fun c hc => toNat_lt_of_isAsciiLetter (h.letters c hc), h.small,
    String.ofList_toList]

theorem dropWord? (h : SpelledAs word name) (rest : List Char) :
    Text.dropWord? name.toList (word ++ rest) = some rest := by
  rw [← h.small]
  exact dropWord?_map_asciiLower h.letters rest

theorem dropWord?_eq_none (h : SpelledAs word name) {other : String}
    (hother : ¬ other.toList <+: name.toList)
    (hname : ¬ name.toList <+: other.toList) (rest : List Char) :
    Text.dropWord? other.toList (word ++ rest) = none := by
  rw [← h.small] at hother hname
  exact Text.dropWord?_eq_none h.letters hother hname rest

/-- Letters are no digits. -/
theorem natOf?_eq_none (h : SpelledAs word name) : natOf? word = none := by
  cases word with
  | nil => rfl
  | cons c rest =>
    have hletter : isAsciiLetter c = true := h.letters c List.mem_cons_self
    have hdigit : isAsciiDigit c = false := by
      rw [Bool.eq_false_iff]
      intro hdigit
      simp only [isAsciiLetter, isAsciiDigit, Bool.or_eq_true, Bool.and_eq_true,
        decide_eq_true_eq, Char.le_def, UInt32.le_iff_toNat_le] at hletter hdigit
      have hnine : '9'.val.toNat = 0x39 := rfl
      have ha : 'a'.val.toNat = 0x61 := rfl
      have hA : 'A'.val.toNat = 0x41 := rfl
      omega
    simp [natOf?, hdigit]

theorem boundedInt?_eq_none (h : SpelledAs word name) (low high : Int) :
    boundedInt? low high word = none := by
  rw [boundedInt?, h.natOf?_eq_none]
  · rfl
  · rintro rest rfl
    exact absurd (h.letters _ List.mem_cons_self) (by decide)
  · rintro rest rfl
    exact absurd (h.letters _ List.mem_cons_self) (by decide)

end SpelledAs

/-! ## Numbers -/

theorem natOf?_eq_some_iff {n : Nat} :
    natOf? digits = some n ↔ digits ≠ [] ∧ (∀ c ∈ digits, isAsciiDigit c = true) ∧
      digitsValue digits = n := by
  have hrefused : (digits.isEmpty || !digits.all isAsciiDigit) = true ↔
      ¬ (digits ≠ [] ∧ ∀ c ∈ digits, isAsciiDigit c = true) := by
    rw [Bool.or_eq_true, List.isEmpty_iff, Bool.not_eq_true', ← Bool.not_eq_true, List.all_eq_true]
    tauto
  rw [natOf?, ← and_assoc]
  split
  · rename_i h
    exact iff_of_false (Option.some_ne_none _).symm fun hdigits => hrefused.mp h hdigits.1
  · rename_i h
    rw [Option.some_inj]
    exact ⟨fun hvalue => ⟨not_not.mp (mt hrefused.mpr h), hvalue⟩, fun hdigits => hdigits.2⟩

/-- Digits with an optional minus sign, and the number that they stand for. -/
inductive IsDecimal : Int → List Char → Prop
  | natural {n : Nat} {digits : List Char} (h : natOf? digits = some n) : IsDecimal n digits
  | negative {n : Nat} {digits : List Char} (h : natOf? digits = some n) :
      IsDecimal (-n) ('-' :: digits)

theorem exists_digitChar (h : isAsciiDigit c = true) : ∃ d < 10, c = digitChar d := by
  have hpoint : 0x30 ≤ c.toNat ∧ c.toNat ≤ 0x39 := by
    simp only [isAsciiDigit, Bool.and_eq_true, decide_eq_true_eq, Char.le_def,
      UInt32.le_iff_toNat_le] at h
    exact h
  have hzero : '0'.toNat = 0x30 := rfl
  refine ⟨c.toNat - 0x30, by omega, ?_⟩
  rw [digitChar, hzero, Nat.add_sub_cancel' hpoint.1, Char.ofNat_toNat]

/-- What holds of the digits and of the minus sign holds in a number. -/
theorem IsDecimal.forall_mem {n : Int} (h : IsDecimal n token) {p : Char → Prop}
    (hdigit : ∀ d < 10, p (digitChar d)) (hminus : p '-') : ∀ c ∈ token, p c := by
  have hdigits : ∀ {m : Nat} {digits : List Char}, natOf? digits = some m → ∀ c ∈ digits, p c := by
    intro m digits hm c hc
    obtain ⟨d, hd, rfl⟩ := exists_digitChar ((natOf?_eq_some_iff.mp hm).2.1 c hc)
    exact hdigit d hd
  cases h with
  | natural h => exact hdigits h
  | negative h => exact List.forall_mem_cons.mpr ⟨hminus, hdigits h⟩

theorem IsDecimal.ne_nil {n : Int} (h : IsDecimal n token) : token ≠ [] := by
  cases h with
  | natural h => exact (natOf?_eq_some_iff.mp h).1
  | negative h => exact List.cons_ne_nil _ _

/-- **A number is read as its value**, if this is in the range. -/
theorem IsDecimal.boundedInt? {n : Int} (h : IsDecimal n token) (low high : Int) :
    boundedInt? low high token = if low ≤ n ∧ n < high then some n else none := by
  have hfilter : ∀ m : Int, (some m).filter (fun n => low ≤ n && n < high) =
      if low ≤ m ∧ m < high then some m else none := by
    intro m
    simp [Option.filter]
  cases h with
  | @natural n digits h =>
    obtain ⟨hne, hdigits, -⟩ := natOf?_eq_some_iff.mp h
    rw [Text.boundedInt?, h]
    · exact hfilter n
    · rintro rest rfl
      exact absurd (hdigits _ List.mem_cons_self) (by decide)
    · rintro rest rfl
      exact absurd (hdigits _ List.mem_cons_self) (by decide)
  | @negative n digits h =>
    rw [Text.boundedInt?, h]
    exact hfilter (-n)

/-- A text stands for one number. -/
theorem IsDecimal.eq {m n : Int} (hm : IsDecimal m token) (hn : IsDecimal n token) : m = n := by
  have hread : Text.boundedInt? m (m + 1) token = some m := by
    rw [hm.boundedInt?, if_pos ⟨Int.le_refl m, Int.lt_succ m⟩]
  rw [hn.boundedInt?] at hread
  split at hread
  · exact (Option.some_inj.mp hread).symm
  · cases hread

theorem length_decimal_le {width n : Nat} (hwidth : 0 < width) (h : n < 10 ^ width) :
    (decimal n).length ≤ width := by
  induction width generalizing n with
  | zero => cases hwidth
  | succ width ih =>
    rw [decimal]
    split
    · simp
    · rename_i hten
      have hpos : 0 < width := by
        rcases Nat.eq_zero_or_pos width with rfl | hpos
        · exact absurd h hten
        · exact hpos
      have hquotient : n / 10 < 10 ^ width := by
        rw [Nat.pow_succ] at h
        omega
      have := ih hpos hquotient
      simp only [List.length_append, List.length_singleton]
      omega

theorem isDecimal_decimalInt (n : Int) : IsDecimal n (decimalInt n) := by
  rw [decimalInt]
  split
  · rename_i hneg
    have hn : n = -(n.natAbs : Int) := by omega
    conv => arg 1; rw [hn]
    exact .negative (natOf?_decimal n.natAbs)
  · rename_i hneg
    have hn : n = (n.natAbs : Int) := by omega
    conv => arg 1; rw [hn]
    exact .natural (natOf?_decimal n.natAbs)

/-- A number that has 32 bits with a sign. -/
def FitsInt32 (n : Int) : Prop :=
  -0x80000000 ≤ n ∧ n < 0x80000000

instance (n : Int) : Decidable (FitsInt32 n) :=
  inferInstanceAs (Decidable (_ ∧ _))

theorem IsDecimal.int32Of? {n : Int} (h : IsDecimal n token) :
    int32Of? token = if FitsInt32 n then some (Int32.ofInt n) else none := by
  rw [Text.int32Of?, h.boundedInt?]
  exact apply_ite (Option.map Int32.ofInt) _ _ _

theorem IsDecimal.int64Of? {n : Int} (h : IsDecimal n token)
    (hn : -0x8000000000000000 ≤ n ∧ n < 0x8000000000000000) :
    int64Of? token = some n := by
  rw [Text.int64Of?, h.boundedInt?]
  exact if_pos hn

theorem word64Of?_of_natOf? {n : Nat} (h : natOf? digits = some n) (hn : n < 0x10000000000000000) :
    word64Of? digits = some (UInt64.ofNat n) := by
  obtain ⟨hne, hdigits, -⟩ := natOf?_eq_some_iff.mp h
  have hsize : n < UInt64.size := hn
  rw [word64Of?, boundedNat?, h]
  · exact congrArg (Option.map UInt64.ofNat) (Option.filter_some_pos (by simpa using hsize))
  · rintro rest rfl
    exact absurd (hdigits _ List.mem_cons_self) (by decide)

/-! ## Digits -/

theorem not_isDigit_of_mem_blankPoints : ∀ n ∈ blankPoints, isDigit (Char.ofNat n) = false := by
  decide +kernel

theorem isDigit_eq_false_of_isBlank (h : isBlank c = true) : isDigit c = false := by
  have hdigit := not_isDigit_of_mem_blankPoints c.toNat (mem_blankPoints_of_isBlank h)
  rwa [Char.ofNat_toNat] at hdigit

theorem isDigit_of_isAsciiDigit (h : isAsciiDigit c = true) : isDigit c = true := by
  rw [isDigit, h]
  rfl

end ActionBoard.Text
