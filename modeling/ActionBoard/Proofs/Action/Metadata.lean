import ActionBoard.Action.Metadata
import ActionBoard.Proofs.Number.WholeNumbers
import ActionBoard.Proofs.Text.Pieces

/-!
# Numbers that are written as texts

A number may be in the metadata as a number or as its text, with white space around it.  As a whole
number of 64 bits with a sign both are read the same, also where they do not fit: what is too large
goes through the same binary64 number on both ways, and is clipped.

As truth values they are not read the same.  A number is true unless it is zero, while the texts
that are true or false are listed, and of the numbers only zero and one are among them.

* `toInt64?_int`, `toInt64?_text`: the whole number that is read of a number and of its text.
* `toBool?_int`, `toBool?_text`: the truth value that is read of them.
* `numbers_read_as_texts`: both as entries of the metadata of actions.
-/

namespace ActionBoard

variable {n : Int} {token before behind : List Char}

/-! ## Texts of numbers -/

namespace Text

/-- Nothing is cut off a number, and the white space around it is. -/
theorem IsDecimal.trim_append_append (h : IsDecimal n token)
    (hbefore : ∀ c ∈ before, isBlank c = true)
    (hbehind : ∀ c ∈ behind, isBlank c = true) : trim (before ++ (token ++ behind)) = token := by
  have hnone : ∀ c ∈ token, isBlank c = false := h.forall_mem (by decide) (by decide)
  rw [Text.trim_append_append hbefore hbehind]
  exact strip_eq_self hnone

/-- A number has no letters. -/
theorem IsDecimal.lower_eq (h : IsDecimal n token) :
    lower (String.ofList token) = String.ofList token := by
  have hascii : ∀ c ∈ token, c.toNat < 0x80 := h.forall_mem (by decide) (by decide)
  have hsmall : ∀ c ∈ token, asciiLower c = c := h.forall_mem (by decide) (by decide)
  rw [lower_ofList_of_ascii hascii, List.map_congr_left hsmall, List.map_id']

end Text

namespace Value

/-! ## Whole numbers -/

theorem toInt64_ofInt_of_le (hlow : 0x8000000000000000 ≤ n) (hhigh : n < 0x10000000000000000) :
    (Binary64.ofInt n).toInt64 = 0x7FFFFFFFFFFFFFFF := by
  rw [Binary64.ofInt, if_neg (by omega)]
  exact Binary64.toInt64_ofNat (by omega) (by omega)

/-- A number is read as it is, and clipped where it does not fit. -/
theorem toInt64?_int (n : WideInt) : (int n).toInt64? = some (min n.val 0x7FFFFFFFFFFFFFFF) := by
  have hread : (int n).toInt64? = some (JsonNumber.int n).toInt64 := rfl
  rw [hread, JsonNumber.toInt64]
  have hbelow := n.below
  split
  · rw [Int.min_eq_left (by omega)]
  · rw [toInt64_ofInt_of_le (by omega) hbelow, Int.min_eq_right (by omega)]

/-- **The text of a number is read as the number.** -/
theorem toInt64?_text (n : WideInt) (hbefore : ∀ c ∈ before, Text.isBlank c = true)
    (hbehind : ∀ c ∈ behind, Text.isBlank c = true) :
    (string (String.ofList (before ++ (Text.decimalInt n.val ++ behind)))).toInt64? =
      some (min n.val 0x7FFFFFFFFFFFFFFF) := by
  have hdecimal : Text.IsDecimal n.val (Text.decimalInt n.val) := Text.isDecimal_decimalInt n.val
  have hread : (string (String.ofList (before ++ (Text.decimalInt n.val ++ behind)))).toInt64? =
      (Text.int64Of? (Text.decimalInt n.val)).or
        ((Binary64.ofDecimalText? (Text.decimalInt n.val)).map Binary64.toInt64) := by
    rw [toInt64?]
    dsimp only [string]
    rw [String.toList_ofList, hdecimal.trim_append_append hbefore hbehind]
  have hleast := n.least
  have hbelow := n.below
  rw [hread]
  by_cases hfits : n.val < 0x8000000000000000
  · rw [hdecimal.int64Of? ⟨hleast, hfits⟩, Option.some_or, Int.min_eq_left (by omega)]
  · -- the number has no sign, and its text is read as a binary64 number
    have hrefused : Text.int64Of? (Text.decimalInt n.val) = none := by
      rw [Text.int64Of?, hdecimal.boundedInt?, if_neg (by omega)]
    have hdigits : Text.decimalInt n.val = Text.decimal n.val.natAbs := by
      rw [Text.decimalInt, if_neg (by omega)]
    have hlength : (Text.decimal n.val.natAbs).length ≤ 20 :=
      Text.length_decimal_le (by decide) (by omega)
    have hclipped : (Binary64.ofNat n.val.natAbs).toInt64 = 0x7FFFFFFFFFFFFFFF :=
      Binary64.toInt64_ofNat (by omega) (by omega)
    rw [hrefused, Option.none_or, hdigits,
      Binary64.ofDecimalText?_decimal (Nat.le_trans hlength (by decide)), Option.map_some, hclipped,
      Int.min_eq_right (by omega)]

/-! ## Truth values -/

theorem toBool?_int (n : WideInt) : (int n).toBool? = some (n.val != 0) := by
  have hread : (int n).toBool? = some !(Binary64.ofInt n.val).isZero := rfl
  rw [hread, Binary64.isZero_ofInt]
  rfl

/-- No word but zero and one is a number. -/
theorem truthOfWord?_of_isDecimal (h : Text.IsDecimal n token) (hzero : n ≠ 0) (hone : n ≠ 1) :
    truthOfWord? (String.ofList token) = none := by
  have hword : ∀ word : String, (word.toList.all fun c => Text.isAsciiDigit c || c == '-') = false →
      String.ofList token ≠ word := by
    rintro word hletters rfl
    have hdigits : ∀ c ∈ token, (Text.isAsciiDigit c || c == '-') = true :=
      h.forall_mem (by decide) (by decide)
    rw [String.toList_ofList, List.all_eq_true.mpr hdigits] at hletters
    cases hletters
  have hempty : String.ofList token ≠ "" := by
    intro hsame
    exact h.ne_nil (by rw [← String.toList_ofList (l := token), hsame]; rfl)
  have hnumber : ∀ {m : Int} {word : String}, Text.IsDecimal m word.toList → m ≠ n →
      String.ofList token ≠ word := by
    rintro m word hm hne rfl
    rw [String.toList_ofList] at hm
    exact hne (hm.eq h)
  rw [truthOfWord?, if_neg, if_neg]
  · simp only [List.contains_iff_mem, List.mem_cons, List.not_mem_nil, or_false]
    rintro (hsame | hsame | hsame | hsame | hsame)
    · exact hword _ rfl hsame
    · exact hword _ rfl hsame
    · exact hword _ rfl hsame
    · exact hnumber (.natural (n := 0) (by decide)) hzero.symm hsame
    · exact hempty hsame
  · simp only [List.contains_iff_mem, List.mem_cons, List.not_mem_nil, or_false]
    rintro (hsame | hsame | hsame | hsame)
    · exact hword _ rfl hsame
    · exact hword _ rfl hsame
    · exact hword _ rfl hsame
    · exact hnumber (.natural (n := 1) (by decide)) hone.symm hsame

/-- **The text of a number has a truth value only if it is zero or one.** -/
theorem toBool?_text (n : Int) (hbefore : ∀ c ∈ before, Text.isBlank c = true)
    (hbehind : ∀ c ∈ behind, Text.isBlank c = true) :
    (string (String.ofList (before ++ (Text.decimalInt n ++ behind)))).toBool? =
      if n = 0 ∨ n = 1 then some (n != 0) else none := by
  have hdecimal : Text.IsDecimal n (Text.decimalInt n) := Text.isDecimal_decimalInt n
  have hread : (string (String.ofList (before ++ (Text.decimalInt n ++ behind)))).toBool? =
      truthOfWord? (String.ofList (Text.decimalInt n)) := by
    rw [toBool?]
    dsimp only [string]
    rw [Text.trimmed, String.toList_ofList, hdecimal.trim_append_append hbefore hbehind,
      hdecimal.lower_eq]
  rw [hread]
  by_cases hlisted : n = 0 ∨ n = 1
  · have hdigit : ∀ d < 10, Text.decimalInt (d : Nat) = [Text.digitChar d] := by
      intro d hd
      rw [Text.decimalInt, if_neg (by omega), Int.natAbs_natCast, Text.decimal, if_pos hd]
    rw [if_pos hlisted]
    rcases hlisted with rfl | rfl
    · have hzero : Text.decimalInt 0 = ['0'] := hdigit 0 (by decide)
      rw [hzero]
      decide
    · have hone : Text.decimalInt 1 = ['1'] := hdigit 1 (by decide)
      rw [hone]
      decide
  · rw [if_neg hlisted, truthOfWord?_of_isDecimal hdecimal (fun h => hlisted (.inl h))
      (fun h => hlisted (.inr h))]

end Value

/-! ## Entries of metadata -/

namespace Action

variable {a : Action} {key : String} {value : Value}

theorem meta?_of_find? (h : a.metadata.find? key = some value) (hnull : value.isNull = false) :
    a.meta? key = some value := by
  rw [meta?, h, Option.filter_some_pos (by rw [hnull]; rfl)]

/-- **A number and its text are the same whole number.**  Of a number of 64 bits, with or without
sign, and of its text with any white space around it, the same whole number and the same natural
number are read.  The number is true unless it is zero; its text has the same truth value if it is
zero or one, and otherwise it has none. -/
theorem numbers_read_as_texts {number text : Action} {key : String} {n : WideInt}
    {before behind : List Char} (hnumber : number.metadata.find? key = some (.int n))
    (htext : text.metadata.find? key =
      some (.string (String.ofList (before ++ (Text.decimalInt n.val ++ behind)))))
    (hbefore : ∀ c ∈ before, Text.isBlank c = true)
    (hbehind : ∀ c ∈ behind, Text.isBlank c = true) :
    (number.metaInt? key = some (min n.val 0x7FFFFFFFFFFFFFFF) ∧ text.metaInt? key =
      number.metaInt? key) ∧
    (number.metaNat? key = some (min n.val 0x7FFFFFFFFFFFFFFF).toNat ∧ text.metaNat? key =
      number.metaNat? key) ∧
    number.metaBool? key = some (n.val != 0) ∧
    text.metaBool? key = if n.val = 0 ∨ n.val = 1 then number.metaBool? key else none := by
  have hnumberMeta : number.meta? key = some (.int n) := meta?_of_find? hnumber rfl
  have htextMeta : text.meta? key =
      some (.string (String.ofList (before ++ (Text.decimalInt n.val ++ behind)))) :=
    meta?_of_find? htext rfl
  have hnumberInt : number.metaInt? key = some (min n.val 0x7FFFFFFFFFFFFFFF) := by
    rw [metaInt?, hnumberMeta, Option.bind_some, Value.toInt64?_int]
  have htextInt : text.metaInt? key = number.metaInt? key := by
    rw [hnumberInt, metaInt?, htextMeta, Option.bind_some, Value.toInt64?_text n hbefore hbehind]
  have hnumberBool : number.metaBool? key = some (n.val != 0) := by
    rw [metaBool?, hnumberMeta, Option.bind_some, Value.toBool?_int]
  refine ⟨⟨hnumberInt, htextInt⟩, ⟨?_, ?_⟩, hnumberBool, ?_⟩
  · rw [metaNat?, hnumberInt, Option.map_some]
  · rw [metaNat?, metaNat?, htextInt]
  · rw [hnumberBool, metaBool?, htextMeta, Option.bind_some,
      Value.toBool?_text n.val hbefore hbehind]

/-- The largest number without a sign, and its text between white space. -/
theorem numbers_read_as_texts_of_largest :
    let number :=
      (Action.new "1" .log "").withMeta "k" (.int ⟨18446744073709551615, by decide, by decide⟩)
    let text := (Action.new "2" .log "").withMeta "k" (.string " \u00A018446744073709551615\n")
    text.metaInt? "k" = some 9223372036854775807 ∧ text.metaInt? "k" = number.metaInt? "k" ∧
    text.metaNat? "k" = number.metaNat? "k" ∧ number.metaBool? "k" = some true ∧
      text.metaBool? "k" = none := by
  intro number text
  have htext : Text.decimalInt 18446744073709551615 = "18446744073709551615".toList := by
    decide +kernel
  have hfound : text.metadata.find? "k" = some (.string (String.ofList
      ([' ', '\u00A0'] ++ (Text.decimalInt 18446744073709551615 ++ ['\n'])))) := by
    rw [htext]
    exact Dictionary.find?_insert_self ..
  obtain ⟨⟨hnumberInt, htextInt⟩, ⟨-, htextNat⟩, hnumberBool, htextBool⟩ :=
    @numbers_read_as_texts number text "k" ⟨18446744073709551615, by decide, by decide⟩ [' ',
      '\u00A0'] ['\n']
      (Dictionary.find?_insert_self ..) hfound (List.all_eq_true.mp rfl) (List.all_eq_true.mp rfl)
  exact ⟨htextInt.trans hnumberInt, htextInt, htextNat, hnumberBool, htextBool⟩

/-- Two is true, but its text has no truth value. -/
theorem text_of_two_has_no_truth_value :
    ((Action.new "1" .log "").withMeta "k" (.int ⟨2, by decide, by decide⟩)).metaBool? "k" =
      some true ∧
    ((Action.new "2" .log "").withMeta "k" (.string "2")).metaBool? "k" = none := by
  decide +kernel

end Action

end ActionBoard
