import ActionBoard.Proofs.Script.Dangers
import ActionBoard.Proofs.Text.Pieces
import ActionBoard.Proofs.Text.Spelling

/-!
# Commands with commas

A command of a script may be written without parentheses, with a comma behind its name.  Such a line
is read by its pieces, which are its name and its arguments, as long as no quotes or parentheses
keep arguments together.

* `splitArgs_dropWhile`: commas and white space in front of the arguments do not count.
* `arguments_of_unmarked`, `arguments_of_notMem`: the arguments are the pieces, if nothing in them
  is quoted or in parentheses or if there is only one of them.
* `actions_toBoard_of_pieces`: a script of such a line has one action, the one of the command.
-/

namespace ActionBoard.Script

variable {text word next rest : List Char} {others : List (List Char)} {name : String}

/-! ## Arguments -/

/-- An empty argument is dropped. -/
theorem splitArgs_cons_comma (text : List Char) : splitArgs (',' :: text) = splitArgs text := rfl

/-- **What stands between a name and its arguments does not count.** -/
theorem splitArgs_dropWhile (text : List Char) :
    splitArgs (text.dropWhile endsCommandName) = splitArgs text := by
  induction text with
  | nil => rfl
  | cons c text ih =>
    by_cases h : endsCommandName c = true
    · rw [List.dropWhile_cons_of_pos h, ih]
      rw [endsCommandName, Bool.or_eq_true, beq_iff_eq] at h
      rcases h with hblank | rfl
      · exact (splitArgs_cons_of_isBlank hblank text).symm
      · exact (splitArgs_cons_comma text).symm
    · rw [List.dropWhile_cons_of_neg h]

/-- Arguments without quotes and parentheses are the pieces of their text. -/
theorem arguments_of_unmarked
    (h : ∀ piece ∈ Text.pieces text, piece ≠ [] ∧ ∀ c ∈ piece, isMarking c = false) :
    arguments text = (Text.pieces text).map String.ofList := by
  have hunmarked : ∀ c ∈ text, c = ',' ∨ isMarking c = false := by
    intro c hc
    rcases Text.exists_mem_pieces hc with hcomma | hblank | ⟨piece, hpiece, hmem⟩
    · exact .inl hcomma
    · exact .inr (isMarking_of_isBlank hblank)
    · exact .inr ((h piece hpiece).2 c hmem)
  have hkept : (Text.pieces text).filter (fun piece => !piece.isEmpty) = Text.pieces text :=
    List.filter_eq_self.mpr fun piece hpiece => by simpa using (h piece hpiece).1
  have hparameters : parameters text =
      ((Text.pieces text).filter fun piece => !piece.isEmpty).map String.ofList := rfl
  rw [← parameters_eq_arguments hunmarked, hparameters, hkept]

/-- A text without commas is one argument, with whatever quotes and parentheses there are in it. -/
theorem arguments_of_notMem (h : ',' ∉ text) (hne : Text.trim text ≠ []) :
    arguments text = [String.ofList (Text.trim text)] := by
  rw [arguments, splitArgs_of_isWhole (isWhole_of_notMem h) hne, List.map_singleton]

/-! ## Lines -/

theorem endsCommandName_head? {blanks : List Char} (h : ∀ c ∈ blanks, Text.isBlank c = true) :
    ∀ c ∈ (blanks ++ ',' :: rest).head?, endsCommandName c = true := by
  intro c hc
  cases blanks with
  | nil =>
    cases hc
    rfl
  | cons d blanks =>
    cases hc
    rw [endsCommandName, h _ List.mem_cons_self]
    rfl

/-- Nothing is assigned where a comma follows the name. -/
theorem readAssignment?_of_comma {blanks : List Char} (hword : IsIdentifier word)
    (h : ∀ c ∈ blanks, Text.isBlank c = true) :
    readAssignment? (word ++ (blanks ++ ',' :: rest)) = none := by
  have hstrip : Text.stripStart Text.isBlank (blanks ++ ',' :: rest) = ',' :: rest := by
    rw [Text.stripStart, List.dropWhile_append_of_pos h]
    rfl
  rw [readAssignment?, readName?_legacy hword (endsCommandName_head? h), Option.bind_eq_bind,
    Option.bind_some]
  dsimp only
  rw [hstrip]
  rfl

theorem beforeComment_of_notMem (h : ';' ∉ text) (quote : Option Char) :
    beforeComment quote text = text := by
  induction text generalizing quote with
  | nil => rfl
  | cons c text ih =>
    obtain ⟨hne, htext⟩ : ';' ≠ c ∧ ';' ∉ text := by simpa using h
    simp [beforeComment, hne.symm, ih htext]

/-- A command is read by its pieces, and its line is nothing but a command. -/
theorem command_of_pieces (hline : Text.pieces text = word :: next :: others)
    (hword : IsPlainName word) (hcolon : ∀ piece ∈ Text.pieces text, ':' ∉ piece) (number : Nat) :
    Construct.ofLine (Text.trim text) = .command ∧
      ∃ rest, Text.pieces rest = next :: others ∧ Command.ofText (Text.trim text) number =
        ⟨String.ofList word, arguments rest, String.ofList (Text.trim text), number⟩ := by
  have hmark : ¬ [':', ':'] <:+: Text.trim text := not_infix_of_notMem fun hmem =>
    Text.notMem_of_pieces (by decide) (by decide) hcolon (trim_subset text hmem)
  obtain ⟨blanks, rest, htrim, hblanks, hrest⟩ := Text.trim_of_pieces_eq_cons_cons hline
  have hends : ∀ c ∈ (blanks ++ ',' :: rest).head?, endsCommandName c = true :=
    endsCommandName_head? hblanks
  have hskip : ∀ c ∈ blanks, endsCommandName c = true :=
    fun c hc => by rw [endsCommandName, hblanks c hc, Bool.true_or]
  have hargs : arguments ((blanks ++ ',' :: rest).dropWhile endsCommandName) = arguments rest := by
    rw [List.dropWhile_append_of_pos hskip, List.dropWhile_cons_of_pos rfl, arguments,
      splitArgs_dropWhile, arguments]
  rw [htrim] at hmark ⊢
  refine ⟨ofLine_legacy hword hends hmark (readAssignment?_of_comma hword.isIdentifier hblanks),
    rest, hrest, ?_⟩
  rw [ofText_legacy hword.isIdentifier hends, hargs]

/-! ## Scripts -/

/-- A text of one line that begins with a name is read as this line. -/
theorem sourceLines_of_pieces (hfeed : '\n' ∉ text)
    (hline : Text.pieces text = word :: next :: others)
    (hword : IsIdentifier word) (hsemicolon : ∀ piece ∈ Text.pieces text, ';' ∉ piece) :
    sourceLines text = [⟨1, Text.trim text⟩] := by
  have hbare : bareLine text = Text.trim text := by
    rw [bareLine, stripComment,
      beforeComment_of_notMem (Text.notMem_of_pieces (by decide) (by decide) hsemicolon)]
  obtain ⟨c, others, rfl, hstart⟩ := hword.exists_cons
  have hsplit : Text.splitAt '\n' text = [text] := Text.splitAt_of_notMem hfeed
  have hunmarked : Text.withoutMark text = text := by
    refine withoutMark_of_isUnmarked fun line hmem => ?_
    rw [hsplit] at hmem
    obtain ⟨blanks, rest, hbegin, -⟩ := Text.stripStart_of_pieces_eq_cons_cons hline
    rw [List.mem_singleton.mp hmem, IsUnmarked, hbegin]
    rintro ⟨⟩
    exact absurd hstart (by decide)
  have hne : Text.trim text ≠ [] := by
    obtain ⟨blanks, rest, htrim, -⟩ := Text.trim_of_pieces_eq_cons_cons hline
    rw [htrim]
    exact List.cons_ne_nil _ _
  rw [sourceLines_eq_readFrom, hunmarked, hsplit, readFrom, numberLines, numberLines,
    List.map_singleton, hbare]
  exact List.filter_eq_self.mpr fun line hmem => by
    rw [List.mem_singleton.mp hmem]
    simpa using hne

/-- **A script of one command has its action**, and nothing else. -/
theorem actions_toBoard_of_pieces {text : String} (id boardName : String) (now : UtcTime)
    (hfeed : '\n' ∉ text.toList) (hline : Text.pieces text.toList = word :: next :: others)
    (hword : IsPlainName word)
    (hplain : ∀ piece ∈ Text.pieces text.toList, ':' ∉ piece ∧ ';' ∉ piece) :
    ∃ rest, Text.pieces rest = next :: others ∧
      ((ofText text).toBoard id boardName now).rows.map Row.actions =
        [[(builtinCommand ⟨String.ofList word, arguments rest,
          String.ofList (Text.trim text.toList), 1⟩).1]] := by
  obtain ⟨hcommand, rest, hrest, hread⟩ :=
    command_of_pieces hline hword (fun piece hpiece => (hplain piece hpiece).1) 1
  have hscript : ofText text = { topLevel := [Command.ofText (Text.trim text.toList) 1] } := by
    rw [ofText, sourceLines_of_pieces hfeed hline hword.isIdentifier fun piece hpiece =>
      (hplain piece hpiece).2, readLines, hcommand]
    dsimp only
    rw [readLines]
    rfl
  refine ⟨rest, hrest, ?_⟩
  rw [hscript, hread]
  rfl

/-- A name in some case is a plain name, unless a keyword begins like it. -/
theorem isPlainName_of_spelledAs (h : Text.SpelledAs word name)
    (hfirst : ∃ c ∈ name.toList.head?, c ≠ '#' ∧ c ≠ 'g') : IsPlainName word := by
  obtain ⟨first, hmem, hsign, hletter⟩ := hfirst
  cases word with
  | nil =>
    rw [← h.small] at hmem
    cases hmem
  | cons c rest =>
    have hc : Text.isAsciiLetter c = true := h.letters c List.mem_cons_self
    have hsmall : Text.asciiLower c = first := by
      rw [← h.small] at hmem
      exact Option.some.inj hmem
    refine ⟨⟨⟨c, rfl, ?_⟩, fun d hd => ?_⟩, ?_⟩
    · rw [Text.startsName, hc]
      rfl
    · rw [h.letters d hd]
      rfl
    · rintro d ⟨⟩
      rw [Text.sameLetter_of_isAsciiLetter hc, Text.sameLetter_of_isAsciiLetter hc, hsmall]
      exact ⟨beq_eq_false_iff_ne.mpr hsign, beq_eq_false_iff_ne.mpr hletter⟩

end ActionBoard.Script
