import ActionBoard.Simulation.Shell.Expansion

/-!
# What patterns stand for

Which texts a pattern stands for is said without the search that finds it out (`Matches`): a star
takes any part of the text, every other item takes one character.

* `standsFor_iff`: the search finds a way to divide the text among the items if there is one.
* `standsFor_pattern_quote`: a text that is quoted stands for itself only, whatever is in it.
* `withoutStart_cases`, `withoutEnd_cases`: of all the starts or ends that a pattern stands for, the
  shortest or the longest one is cut off.
-/

namespace ActionBoard.Shell

/-- A pattern stands for a text: the text can be divided among the items. -/
inductive Matches : List PatternItem → List Char → Prop
  | nil : Matches [] []
  | many {items : List PatternItem} {text : List Char} (front : List Char)
      (h : Matches items text) :
      Matches (.many :: items) (front ++ text)
  | single {item : PatternItem} {items : List PatternItem} {c : Char} {text : List Char}
      (hitem : item.accepts c = true) (h : Matches items text) : Matches (item :: items) (c :: text)

theorem matches_nil_iff {text : List Char} : Matches [] text ↔ text = [] := by
  constructor
  · rintro ⟨⟩
    rfl
  · rintro rfl
    exact .nil

/-- A star takes nothing, or one character and then as much as it likes. -/
theorem matches_many_cons_iff {items : List PatternItem} {c : Char} {text : List Char} :
    Matches (.many :: items) (c :: text) ↔
      Matches items (c :: text) ∨ Matches (.many :: items) text := by
  constructor
  · intro h
    generalize hwhole : c :: text = whole at h
    cases h with
    | many front h =>
      cases front with
      | nil => exact .inl h
      | cons d front =>
        cases hwhole
        exact .inr (.many front h)
    | single hitem h => cases hitem
  · rintro (h | h)
    · exact .many [] h
    · cases h with
      | many front h => exact .many (c :: front) h
      | single hitem h => cases hitem

theorem matches_many_nil_iff {items : List PatternItem} :
    Matches (.many :: items) [] ↔ Matches items [] := by
  constructor
  · intro h
    generalize hwhole : ([] : List Char) = whole at h
    cases h with
    | many front h =>
      obtain ⟨rfl, rfl⟩ := List.append_eq_nil_iff.mp hwhole.symm
      exact h
    | single hitem h => cases hitem
  · exact fun h => .many [] h

theorem not_matches_cons_nil {item : PatternItem} {items : List PatternItem} (h : item ≠ .many) :
    ¬ Matches (item :: items) [] := by
  intro hmatches
  generalize hwhole : ([] : List Char) = whole at hmatches
  cases hmatches with
  | many front hmatches => exact h rfl
  | single hitem hmatches => cases hwhole

theorem matches_cons_cons_iff {item : PatternItem} {items : List PatternItem} {c : Char}
    {text : List Char} (h : item ≠ .many) :
    Matches (item :: items) (c :: text) ↔ item.accepts c = true ∧ Matches items text := by
  constructor
  · intro hmatches
    generalize hwhole : c :: text = whole at hmatches
    cases hmatches with
    | many front hmatches => exact absurd rfl h
    | single hitem hmatches =>
      cases hwhole
      exact ⟨hitem, hmatches⟩
  · rintro ⟨hitem, hmatches⟩
    exact .single hitem hmatches

/-- **The search decides what a pattern stands for.** -/
theorem standsFor_iff (items : List PatternItem) (text : List Char) :
    standsFor items text = true ↔ Matches items text := by
  fun_induction standsFor items text with
  | case1 text => rw [matches_nil_iff, List.isEmpty_iff]
  | case2 items ih => rw [ih, matches_many_nil_iff]
  | case3 items c text ih₁ ih₂ => rw [Bool.or_eq_true, ih₁, ih₂, matches_many_cons_iff]
  | case4 item items h => simp [not_matches_cons_nil h]
  | case5 item items c text h ih => rw [Bool.and_eq_true, ih, matches_cons_cons_iff h]

/-! ## Quoted texts -/

theorem matches_map_char_iff {own text : List Char} :
    Matches (own.map .char) text ↔ text = own := by
  induction own generalizing text with
  | nil => exact matches_nil_iff
  | cons c rest ih =>
    cases text with
    | nil => simp [not_matches_cons_nil]
    | cons d text => simp [matches_cons_cons_iff, ih, PatternItem.accepts]

theorem patternOf_quote (own : List Char) (fuel : Nat) (h : own.length < fuel) :
    patternOf fuel (quote own) = own.map .char := by
  induction own generalizing fuel with
  | nil => cases fuel <;> rfl
  | cons c rest ih =>
    obtain ⟨fuel, rfl⟩ : ∃ n, fuel = n + 1 := ⟨fuel - 1, by omega⟩
    have hrest := ih fuel (by simpa using h)
    simpa [quote, patternOf, isOpen] using hrest

/-- **What is quoted only stands for itself.** -/
theorem standsFor_pattern_quote (own text : List Char) :
    standsFor (pattern (quote own)) text = true ↔ text = own := by
  rw [pattern, patternOf_quote own _ (by simp [quote]), standsFor_iff, matches_map_char_iff]

/-! ## Cutting off -/

/-- In a list that is in order, what is found first comes before everything else that could be. -/
theorem first_of_find? {r : Nat → Nat → Prop} {p : Nat → Bool} {numbers : List Nat} {n : Nat}
    (hordered : numbers.Pairwise r) (h : numbers.find? p = some n) :
    n ∈ numbers ∧ p n = true ∧ ∀ m ∈ numbers, p m = true → m = n ∨ r n m := by
  induction numbers with
  | nil => cases h
  | cons first rest ih =>
    obtain ⟨hfirst, hrest⟩ := List.pairwise_cons.mp hordered
    cases hp : p first with
    | true =>
      rw [List.find?_cons_of_pos hp] at h
      cases h
      refine ⟨List.mem_cons_self, hp, fun m hm _ => ?_⟩
      rcases List.mem_cons.mp hm with rfl | hm
      · exact .inl rfl
      · exact .inr (hfirst m hm)
    | false =>
      rw [List.find?_cons_of_neg (by simp [hp])] at h
      obtain ⟨hmem, hn, hleast⟩ := ih hrest h
      refine ⟨List.mem_cons_of_mem _ hmem, hn, fun m hm hpm => ?_⟩
      rcases List.mem_cons.mp hm with rfl | hm
      · rw [hp] at hpm
        cases hpm
      · exact hleast m hm hpm

/-- A place up to a length that has a property, and is the last or the first one that has it. -/
structure IsOutermost (isLast : Bool) (length : Nat) (p : Nat → Prop) (n : Nat) : Prop where
  le_length : n ≤ length
  holds : p n
  outermost : ∀ m ≤ length, p m → if isLast then m ≤ n else n ≤ m

theorem isOutermost_of_find? {isLast : Bool} {length n : Nat} {p : Nat → Bool}
    (h : (if isLast then (List.range (length + 1)).reverse else List.range (length + 1)).find? p =
      some n) : IsOutermost isLast length (fun m => p m = true) n := by
  cases isLast with
  | true =>
    have hordered : (List.range (length + 1)).reverse.Pairwise fun m n => n < m :=
      List.pairwise_reverse.mpr List.pairwise_lt_range
    obtain ⟨hmem, hn, houter⟩ := first_of_find? hordered h
    rw [List.mem_reverse, List.mem_range] at hmem
    refine ⟨by omega, hn, fun m hm hpm => ?_⟩
    have hm' : m ∈ (List.range (length + 1)).reverse := by
      rw [List.mem_reverse, List.mem_range]
      omega
    have := houter m hm' hpm
    show m ≤ n
    omega
  | false =>
    obtain ⟨hmem, hn, houter⟩ := first_of_find? List.pairwise_lt_range h
    rw [List.mem_range] at hmem
    refine ⟨by omega, hn, fun m hm hpm => ?_⟩
    have := houter m (List.mem_range.mpr (by omega)) hpm
    show n ≤ m
    omega

theorem eq_false_of_find? {isLast : Bool} {length m : Nat} {p : Nat → Bool}
    (h : (if isLast then (List.range (length + 1)).reverse else List.range (length + 1)).find? p =
      none) (hm : m ≤ length) : ¬ p m = true := by
  refine List.find?_eq_none.mp h m ?_
  have hmem : m ∈ List.range (length + 1) := List.mem_range.mpr (by omega)
  cases isLast with
  | true => exact List.mem_reverse.mpr hmem
  | false => exact hmem

/-- **The longest or the shortest start** that a pattern stands for is cut off; where it stands for
none, nothing is. -/
theorem withoutStart_cases (longest : Bool) (items : List PatternItem) (text : List Char) :
    (∃ n, IsOutermost longest text.length (fun n => Matches items (text.take n)) n ∧
        withoutStart longest items text = text.drop n) ∨
      (∀ n ≤ text.length, ¬ Matches items (text.take n)) ∧
        withoutStart longest items text = text := by
  unfold withoutStart
  extract_lets all ordered
  simp only [← standsFor_iff]
  split
  · rename_i n hfound
    exact .inl ⟨n, isOutermost_of_find? hfound, rfl⟩
  · rename_i hnone
    exact .inr ⟨fun n hn => eq_false_of_find? hnone hn, rfl⟩

/-- **The longest or the shortest end** that a pattern stands for is cut off; the longest
one begins first. -/
theorem withoutEnd_cases (longest : Bool) (items : List PatternItem) (text : List Char) :
    (∃ n, IsOutermost (!longest) text.length (fun n => Matches items (text.drop n)) n ∧
        withoutEnd longest items text = text.take n) ∨
      (∀ n ≤ text.length, ¬ Matches items (text.drop n)) ∧
        withoutEnd longest items text = text := by
  have hordered (all : List Nat) :
      (if longest then all else all.reverse) = if !longest then all.reverse else all := by
    cases longest <;> rfl
  unfold withoutEnd
  simp only [← standsFor_iff, hordered]
  split
  · rename_i n hfound
    exact .inl ⟨n, isOutermost_of_find? hfound, rfl⟩
  · rename_i hnone
    exact .inr ⟨fun n hn => eq_false_of_find? hnone hn, rfl⟩

end ActionBoard.Shell
