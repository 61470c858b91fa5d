import ActionBoard.Simulation.Shell.Builtin
import ActionBoard.Simulation.Shell.Expansion

/-!
# Texts in quotes

A shell puts out its variables in a form in which they can be read again: every value in single
quotes, and a single quote in it between double ones (`Builtin.inQuotes`).  Read as a word, that is
nothing but quoted text, and the text is the value (`isQuotedText_wordOf_inQuotes`).  So no
character of it is special when the word is evaluated: one gets the value back, and the shell is
left as it is (`expandPieces_wordOf_inQuotes`).

The induction is on the single quotes of the value.  What stands before one is read in one go;
behind it the same situation comes up again.
-/

namespace ActionBoard.Shell

/-- A word of which everything is quoted text, and what it says. -/
structure IsQuotedText (word : Word) (text : List Char) : Prop where
  quoted : ∀ piece ∈ word, ∃ content, piece = .text content true
  characters : word.characters = text

namespace IsQuotedText

theorem nil : IsQuotedText [] [] :=
  ⟨(fun _ h => nomatch h), rfl⟩

theorem cons {word : Word} {text : List Char} (content : List Char) (h : IsQuotedText word text) :
    IsQuotedText (.text content true :: word) (content ++ text) := by
  refine ⟨fun piece hpiece => ?_, ?_⟩
  · rcases List.mem_cons.mp hpiece with rfl | hpiece
    · exact ⟨content, rfl⟩
    · exact h.quoted piece hpiece
  · rw [← h.characters]
    rfl

end IsQuotedText

/-! ## Reading -/

/-- A text as it stands between single quotes. -/
def quotedBody (text : List Char) : List Char :=
  text.flatMap fun c => if c == '\'' then "'\"'\"'".toList else [c]

theorem toList_inQuotes (text : String) :
    (Builtin.inQuotes text).toList = '\'' :: quotedBody text.toList ++ ['\''] := by
  simp [Builtin.inQuotes, quotedBody]

theorem quotedBody_append (first second : List Char) :
    quotedBody (first ++ second) = quotedBody first ++ quotedBody second :=
  List.flatMap_append

theorem quotedBody_eq_self {text : List Char} (h : '\'' ∉ text) : quotedBody text = text := by
  induction text with
  | nil => rfl
  | cons c rest ih =>
    obtain ⟨hc, hrest⟩ := not_or.mp (mt List.mem_cons.mpr h)
    rw [quotedBody, List.flatMap_cons, ← quotedBody, ih hrest]
    simp [Ne.symm hc]

/-- A text without single quotes is read in one go between two of them. -/
theorem readWord_single (isWhole : Bool) (fuel : Nat) (pieces : Word) {content : List Char}
    (h : '\'' ∉ content) (rest : List Char) :
    readWord isWhole (fuel + 1) pieces ('\'' :: (content ++ '\'' :: rest)) =
      readWord isWhole fuel (.text content true :: pieces) rest := by
  have hall : ∀ c ∈ content, (c != '\'') = true := fun c hc => by
    simpa using fun heq : c = '\'' => h (heq ▸ hc)
  have htake : (content ++ '\'' :: rest).takeWhile (· != '\'') = content := by
    rw [List.takeWhile_append_of_pos hall]
    simp
  have hdrop : (content ++ '\'' :: rest).dropWhile (· != '\'') = '\'' :: rest := by
    rw [List.dropWhile_append_of_pos hall]
    simp
  have hends : endsWord '\'' = false := by decide
  rw [readWord.eq_def]
  simp only [hends, hdrop, htake]
  rfl

/-- A single quote is read between double ones. -/
theorem readWord_double (isWhole : Bool) (fuel : Nat) (pieces : Word) (rest : List Char) :
    readWord isWhole (fuel + 1) pieces ('"' :: '\'' :: '"' :: rest) =
      readWord isWhole fuel (.text ['\''] true :: pieces) rest := by
  have hends : endsWord '"' = false := by decide
  have hinner : readQuoted false (('\'' :: '"' :: rest).length + 1) (.text [] true :: pieces)
      ('\'' :: '"' :: rest) = ⟨.text ['\''] true :: pieces, rest, none⟩ := rfl
  rw [readWord, hends, hinner]
  rfl

/-- What stands in single quotes is read as quoted text. -/
theorem exists_readWord_eq (isWhole : Bool) (text : List Char) (fuel : Nat) (pieces : Word)
    (hfuel : (quotedBody text).length < fuel) :
    ∃ word, IsQuotedText word text ∧ word ≠ [] ∧
      readWord isWhole fuel pieces ('\'' :: quotedBody text ++ ['\'']) =
        ⟨word.reverse ++ pieces, [], none⟩ := by
  induction hlength : text.length using Nat.strongRecOn generalizing text fuel pieces with
  | ind n ih =>
    by_cases hquote : '\'' ∈ text
    · obtain ⟨front, behind, rfl, hfront⟩ := List.eq_append_cons_of_mem hquote
      have hbody : quotedBody (front ++ '\'' :: behind) =
          front ++ '\'' :: '"' :: '\'' :: '"' :: '\'' :: quotedBody behind := by
        rw [quotedBody_append, quotedBody_eq_self hfront]
        rfl
      rw [hbody] at hfuel ⊢
      simp only [List.length_append, List.length_cons] at hfuel hlength
      obtain ⟨fuel, rfl⟩ : ∃ n, fuel = n + 2 := ⟨fuel - 2, by omega⟩
      obtain ⟨word, hword, -, hread⟩ := ih behind.length (by omega) behind fuel
        (.text ['\''] true :: .text front true :: pieces) (by omega) rfl
      refine ⟨.text front true :: .text ['\''] true :: word, (hword.cons _).cons _,
        List.cons_ne_nil _ _, ?_⟩
      simp only [List.cons_append, List.append_assoc] at hread ⊢
      rw [readWord_single isWhole (fuel + 1) pieces hfront, readWord_double, hread]
      simp
    · obtain ⟨fuel, rfl⟩ : ∃ n, fuel = n + 1 := ⟨fuel - 1, by omega⟩
      refine ⟨[.text text true], ?_, List.cons_ne_nil _ _, ?_⟩
      · simpa using IsQuotedText.nil.cons text
      · rw [quotedBody_eq_self hquote, List.cons_append, readWord_single isWhole fuel pieces hquote]
        cases fuel <;> rfl

/-- **A text in quotes is read as that text.** -/
theorem isQuotedText_wordOf_inQuotes (text : String) :
    IsQuotedText (wordOf (Builtin.inQuotes text).toList) text.toList ∧
      wordOf (Builtin.inQuotes text).toList ≠ [] := by
  rw [toList_inQuotes, wordOf]
  obtain ⟨word, hword, hne, hread⟩ := exists_readWord_eq true text.toList
    (('\'' :: quotedBody text.toList ++ ['\'']).length + 1) [] (by simp; omega)
  rw [hread]
  simpa using And.intro hword hne

/-! ## Evaluating -/

theorem expandPieces_text (capture : Capture) (splits : Bool) (fuel : Nat) (content : List Char)
    (rest : Word) (fields : Fields) :
    expandPieces capture splits (fuel + 1) (.text content true :: rest) fields =
      expandPieces capture splits fuel rest (fields.add (quote content)) := rfl

/-- What is quoted comes behind what is there, whether values are split or not. -/
theorem expandPieces_behind (capture : Capture) (splits : Bool) {word : Word} {text : List Char}
    (h : IsQuotedText word text) {fuel : Nat} (hfuel : word.length ≤ fuel) (before : List Marked) :
    expandPieces capture splits fuel word { current := some before } =
      pure { current := some (before ++ quote text) } := by
  induction word generalizing text fuel before with
  | nil =>
    have hnothing : expandPieces capture splits fuel [] { current := some before } =
        pure { current := some before } := by
      cases fuel <;> rfl
    rw [hnothing, ← h.characters]
    simp [quote, Word.characters]
  | cons piece rest ih =>
    obtain ⟨content, rfl⟩ := h.quoted piece List.mem_cons_self
    obtain ⟨fuel, rfl⟩ : ∃ n, fuel = n + 1 := ⟨fuel - 1, by simp at hfuel; omega⟩
    have hrest : IsQuotedText rest (Word.characters rest) :=
      ⟨fun p hp => h.quoted p (List.mem_cons_of_mem _ hp), rfl⟩
    rw [expandPieces_text]
    refine (ih hrest (by simpa using hfuel) (before ++ quote content)).trans ?_
    rw [← h.characters]
    simp [quote, Word.characters]

/-- **Quoted text is left as it is** when it is evaluated, and so is the shell. -/
theorem expandPieces_of_isQuotedText (capture : Capture) (splits : Bool) {word : Word}
    {text : List Char} (h : IsQuotedText word text) (hne : word ≠ []) {fuel : Nat}
    (hfuel : word.length ≤ fuel) :
    expandPieces capture splits fuel word {} = pure { current := some (quote text) } := by
  obtain ⟨piece, rest, rfl⟩ := List.exists_cons_of_ne_nil hne
  -- The first piece begins the field; behind that it is the same as with an empty one.
  have hbegin : expandPieces capture splits fuel (piece :: rest) {} =
      expandPieces capture splits fuel (piece :: rest) { current := some [] } := by
    obtain ⟨content, rfl⟩ := h.quoted piece List.mem_cons_self
    obtain ⟨fuel, rfl⟩ : ∃ n, fuel = n + 1 := ⟨fuel - 1, by simp at hfuel; omega⟩
    rfl
  rw [hbegin, expandPieces_behind capture splits h hfuel]
  rfl

/-- **What a shell puts out in quotes it reads back as the same value**, if as many pieces are
evaluated as there are. -/
theorem expandPieces_wordOf_inQuotes (capture : Capture) (splits : Bool)
    (text : String) {fuel : Nat} (hfuel : (wordOf (Builtin.inQuotes text).toList).length ≤ fuel) :
    expandPieces capture splits fuel (wordOf (Builtin.inQuotes text).toList) {} =
      pure { current := some (quote text.toList) } :=
  have ⟨hquoted, hne⟩ := isQuotedText_wordOf_inQuotes text
  expandPieces_of_isQuotedText capture splits hquoted hne hfuel

end ActionBoard.Shell
