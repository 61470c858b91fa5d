import ActionBoard.Proofs.Text.Blank
import ActionBoard.Text.Split

/-!
# Texts with commas in them

A line of a macro or a script has commas between its pieces, and any white space around the commas.
The pieces are what the text is cut into at the commas, each without white space at its ends.

* `pieces_intercalate`: texts that are written with commas between them are read back.
* `pieces_trim`: white space at the ends of the text belongs to no piece.
* `stripStart_of_pieces_eq_cons_cons`, `stripStart_of_pieces_eq_singleton`: how a text begins, by
  its pieces.  A reader that takes the text from left to right needs no more than this.
-/

namespace ActionBoard.Text

variable {p : Char → Bool} {c : Char} {text token next : List Char} {others : List (List Char)}

/-! ## Pieces -/

/-- The texts between the commas, without the white space around these. -/
def pieces (text : List Char) : List (List Char) :=
  (splitAt ',' text).map trim

theorem splitAt_of_notMem {separator : Char} (h : separator ∉ text) :
    splitAt separator text = [text] := by
  have hsplit : splitAt separator ([separator].intercalate [text]) = [text] :=
    splitAt_intercalate (List.cons_ne_nil _ _) fun part hpart => List.mem_singleton.mp hpart ▸ h
  rwa [List.intercalate_singleton] at hsplit

theorem splitAt_append_cons {separator : Char} {field : List Char} (h : separator ∉ field)
    (rest : List Char) :
    splitAt separator (field ++ separator :: rest) = field :: splitAt separator rest := by
  induction field with
  | nil => rw [List.nil_append, splitAt, if_pos (beq_self_eq_true separator)]
  | cons c field ih =>
    obtain ⟨hne, hfield⟩ : separator ≠ c ∧ separator ∉ field := by simpa using h
    rw [List.cons_append, splitAt, if_neg (by simpa using hne.symm), ih hfield]

theorem pieces_of_notMem (h : ',' ∉ text) : pieces text = [trim text] := by
  rw [pieces, splitAt_of_notMem h, List.map_singleton]

theorem pieces_append_cons {field : List Char} (h : ',' ∉ field) (rest : List Char) :
    pieces (field ++ ',' :: rest) = trim field :: pieces rest := by
  rw [pieces, splitAt_append_cons h, List.map_cons, pieces]

theorem pieces_ne_nil (text : List Char) : pieces text ≠ [] :=
  mt List.map_eq_nil_iff.mp (splitAt_ne_nil ',' text)

/-- A text is one field, or it has a first field and a comma behind it. -/
theorem exists_field (text : List Char) :
    ',' ∉ text ∨ ∃ field rest, text = field ++ ',' :: rest ∧ ',' ∉ field := by
  by_cases h : ',' ∈ text
  · obtain ⟨field, rest, htext, hfield⟩ := List.eq_append_cons_of_mem h
    exact .inr ⟨field, rest, htext, hfield⟩
  · exact .inl h

/-- **Texts with commas between them are read back**, without the white space at their ends. -/
theorem pieces_intercalate {fields : List (List Char)} (hne : fields ≠ [])
    (h : ∀ field ∈ fields, ',' ∉ field) : pieces ([','].intercalate fields) = fields.map trim := by
  rw [pieces, splitAt_intercalate hne h]

theorem ne_comma_of_isBlank (h : isBlank c = true) : c ≠ ',' := by
  rintro rfl
  exact absurd h (by decide)

theorem pieces_cons_of_isBlank (h : isBlank c = true) (text : List Char) :
    pieces (c :: text) = pieces text := by
  have hne : ',' ≠ c := (ne_comma_of_isBlank h).symm
  rcases exists_field text with hnone | ⟨field, rest, rfl, hfield⟩
  · rw [pieces_of_notMem hnone, pieces_of_notMem (by simpa [hne] using hnone),
      trim_cons_of_isBlank h]
  · rw [pieces_append_cons hfield, ← List.cons_append,
      pieces_append_cons (by simpa [hne] using hfield), trim_cons_of_isBlank h]

theorem pieces_append_of_isBlank (h : isBlank c = true) (text : List Char) :
    pieces (text ++ [c]) = pieces text := by
  have hne : ',' ≠ c := (ne_comma_of_isBlank h).symm
  induction hlength : text.length using Nat.strongRecOn generalizing text with
  | ind length ih =>
    rcases exists_field text with hnone | ⟨field, rest, rfl, hfield⟩
    · rw [pieces_of_notMem hnone, pieces_of_notMem (by simpa [hne] using hnone),
        trim_append_of_isBlank h]
    · have hshorter : rest.length < length := by
        rw [← hlength, List.length_append, List.length_cons]
        omega
      rw [List.append_assoc, List.cons_append, pieces_append_cons hfield, pieces_append_cons hfield,
        ih rest.length hshorter rest rfl]

@[simp] theorem pieces_stripStart (text : List Char) :
    pieces (stripStart isBlank text) = pieces text := by
  induction text with
  | nil => rfl
  | cons c text ih =>
    by_cases h : isBlank c = true
    · rw [stripStart, List.dropWhile_cons_of_pos h, ← stripStart, ih, pieces_cons_of_isBlank h]
    · rw [stripStart_cons_of_not (Bool.eq_false_iff.mpr h)]

@[simp] theorem pieces_stripEnd (text : List Char) :
    pieces (stripEnd isBlank text) = pieces text := by
  induction text using List.reverseRecOn with
  | nil => rfl
  | append_singleton text c ih =>
    by_cases h : isBlank c = true
    · rw [stripEnd_append_of_pos h, ih, pieces_append_of_isBlank h]
    · rw [stripEnd_append_of_not (Bool.eq_false_iff.mpr h)]

@[simp] theorem pieces_trim (text : List Char) : pieces (trim text) = pieces text := by
  rw [trim, strip, pieces_stripEnd, pieces_stripStart]

/-- Everything in a text is a comma, white space or in one of the pieces. -/
theorem exists_mem_pieces (h : c ∈ text) : c = ',' ∨ isBlank c = true ∨ ∃ piece ∈ pieces text,
    c ∈ piece := by
  have htrim : ∀ field : List Char, c ∈ field → isBlank c = true ∨ c ∈ trim field :=
    fun field hfield => by
    by_cases hblank : isBlank c = true
    · exact .inl hblank
    · exact .inr (mem_trim hfield (Bool.eq_false_iff.mpr hblank))
  induction hlength : text.length using Nat.strongRecOn generalizing text with
  | ind length ih =>
    rcases exists_field text with hnone | ⟨field, rest, rfl, hfield⟩
    · rw [pieces_of_notMem hnone]
      exact .inr ((htrim text h).imp id fun hmem => ⟨_, List.mem_cons_self, hmem⟩)
    · rw [pieces_append_cons hfield]
      rcases List.mem_append.mp h with hmem | hmem
      · exact .inr ((htrim field hmem).imp id fun hmem => ⟨_, List.mem_cons_self, hmem⟩)
      · rcases List.mem_cons.mp hmem with rfl | hmem
        · exact .inl rfl
        · have hshorter : rest.length < length := by
            rw [← hlength, List.length_append, List.length_cons]
            omega
          refine (ih rest.length hshorter hmem rfl).imp id fun hrest => hrest.imp id ?_
          rintro ⟨piece, hpiece, hmem⟩
          exact ⟨piece, List.mem_cons_of_mem _ hpiece, hmem⟩

/-- What is in none of the pieces, and neither comma nor white space, is not in the text. -/
theorem notMem_of_pieces (hcomma : c ≠ ',') (hblank : isBlank c = false)
    (h : ∀ piece ∈ pieces text, c ∉ piece) : c ∉ text := by
  intro hmem
  rcases exists_mem_pieces hmem with rfl | hc | ⟨piece, hpiece, hc⟩
  · exact hcomma rfl
  · rw [hblank] at hc
    cases hc
  · exact h piece hpiece hc

/-! ## How a text begins -/

/-- A text begins with its first piece, some white space and a comma, if there is another piece. -/
theorem stripStart_of_pieces_eq_cons_cons (h : pieces text = token :: next :: others) :
    ∃ blanks rest, stripStart isBlank text = token ++ (blanks ++ ',' :: rest) ∧
      (∀ c ∈ blanks, isBlank c = true) ∧
      pieces rest = next :: others := by
  rcases exists_field text with hnone | ⟨field, rest, rfl, hfield⟩
  · rw [pieces_of_notMem hnone] at h
    cases h
  · rw [pieces_append_cons hfield] at h
    obtain ⟨rfl, hrest⟩ := List.cons.inj h
    obtain ⟨blanks, hstart, hblanks⟩ := exists_eq_stripEnd_append isBlank (stripStart isBlank field)
    refine ⟨blanks, rest, ?_, hblanks, hrest⟩
    rw [stripStart_append_cons_of_not (by decide), ← List.append_assoc]
    exact congrArg (· ++ ',' :: rest) hstart

/-- There is no comma in a text with one piece. -/
theorem notMem_of_pieces_eq_singleton (h : pieces text = [token]) :
    ',' ∉ text ∧ trim text = token := by
  rcases exists_field text with hnone | ⟨field, rest, rfl, hfield⟩
  · rw [pieces_of_notMem hnone] at h
    exact ⟨hnone, (List.cons.inj h).1⟩
  · rw [pieces_append_cons hfield] at h
    exact absurd (List.cons.inj h).2 (pieces_ne_nil rest)

/-- A text with one piece is this piece, with some white space behind it. -/
theorem stripStart_of_pieces_eq_singleton (h : pieces text = [token]) :
    ∃ blanks, stripStart isBlank text = token ++ blanks ∧ ∀ c ∈ blanks, isBlank c = true := by
  obtain ⟨-, rfl⟩ := notMem_of_pieces_eq_singleton h
  exact exists_eq_stripEnd_append isBlank (stripStart isBlank text)

/-- The same of a text without white space at its ends. -/
theorem trim_of_pieces_eq_cons_cons (h : pieces text = token :: next :: others) :
    ∃ blanks rest, trim text = token ++ (blanks ++ ',' :: rest) ∧ (∀ c ∈ blanks, isBlank c = true) ∧
      pieces rest = next :: others := by
  obtain ⟨blanks, rest, hstart, hblanks, hrest⟩ := stripStart_of_pieces_eq_cons_cons h
  refine ⟨blanks, stripEnd isBlank rest, ?_, hblanks, (pieces_stripEnd rest).trans hrest⟩
  rw [trim, strip, hstart, ← List.append_assoc, stripEnd_append_cons_of_not (by decide),
    List.append_assoc]

end ActionBoard.Text
