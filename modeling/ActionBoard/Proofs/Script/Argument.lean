import ActionBoard.Proofs.Script.Openings

/-!
# Arguments that are read as they are written

A text in which every quote and every parenthesis is closed can be put anywhere: the comment begins
behind it and not in it, and it stays in one part when an argument list is split.  Such texts are
described by a grammar (`Balanced`), without reading them from left to right, and the two readers
are compared with it.

* `Balanced`: closed quotes, balanced parentheses, no semicolon outside of quotes, and a comma
  outside of quotes only where commas are allowed, as they are within parentheses.
* `beforeComment_append`, `Balanced.isNeutral`: what the readers do with such a text in
  front of another one.
* `IsArgument`, `splitArgs_commaSeparated`: arguments that are written one after the other, with a
  comma and a blank between them, are read back.

The induction is on the grammar, and what is said of a text is said for any number of parentheses
that are open around it: within a pair of them there is one more.
-/

namespace ActionBoard.Script

/-- Whether a character opens or closes something or separates, so that it has to be in its
place. -/
def isMarking (c : Char) : Bool :=
  ['"', '\'', '(', ')', ',', ';'].contains c

/-- A text with closed quotes and balanced parentheses, without a semicolon outside of quotes.  A
comma may stand in quotes, within parentheses, and elsewhere if commas are allowed. -/
inductive Balanced : (commas : Bool) → List Char → Prop
  | nil {commas : Bool} : Balanced commas []
  | char {commas : Bool} {c : Char} {rest : List Char} (unmarked : isMarking c = false)
      (hrest : Balanced commas rest) : Balanced commas (c :: rest)
  | comma {rest : List Char} (hrest : Balanced true rest) : Balanced true (',' :: rest)
  | quotes {commas : Bool} {quote : Char} {inner rest : List Char} (isQuote : quote =
      '"' ∨ quote = '\'')
      (hinner : quote ∉ inner) (hrest : Balanced commas rest) :
        Balanced commas (quote :: (inner ++ quote :: rest))
  | parens {commas : Bool} {inner rest : List Char} (hinner : Balanced true inner)
      (hrest : Balanced commas rest) : Balanced commas ('(' :: (inner ++ ')' :: rest))

namespace Balanced

variable {commas : Bool} {text : List Char}

theorem of_unmarked (h : ∀ c ∈ text, isMarking c = false) : Balanced commas text := by
  induction text with
  | nil => exact .nil
  | cons c rest ih =>
    exact .char (h c List.mem_cons_self) (ih fun d hd => h d (List.mem_cons_of_mem c hd))

theorem of_all (h : (text.all fun c => !isMarking c) = true) : Balanced commas text := by
  refine of_unmarked fun c hc => ?_
  simpa using List.all_eq_true.mp h c hc

/-- Where no commas are needed they may be allowed. -/
theorem allowing (h : Balanced commas text) : Balanced true text := by
  induction h with
  | nil => exact .nil
  | char hc _ ih => exact .char hc ih
  | comma _ ih => exact .comma ih
  | quotes hquote hinner _ ih => exact .quotes hquote hinner ih
  | parens hinner _ _ ih => exact .parens hinner ih

theorem append (h : Balanced commas text) {rest : List Char} (hrest : Balanced commas rest) :
    Balanced commas (text ++ rest) := by
  induction h with
  | nil => exact hrest
  | char hc _ ih => exact .char hc (ih hrest)
  | comma _ ih => exact .comma (ih hrest)
  | quotes hquote hinner _ ih =>
    rw [List.cons_append, List.append_assoc, List.cons_append]
    exact .quotes hquote hinner (ih hrest)
  | parens hinner _ _ ih =>
    rw [List.cons_append, List.append_assoc, List.cons_append]
    exact .parens hinner (ih hrest)

end Balanced

/-! ## One character -/

theorem quoteAfter_of_not_isMarking {c : Char} (h : isMarking c = false) :
    quoteAfter none c = none := by
  have hquote : ¬ (c = '"' ∨ c = '\'') := by
    rintro (rfl | rfl)
    · exact absurd h (by decide)
    · exact absurd h (by decide)
  simpa [quoteAfter] using hquote

theorem after_of_not_isMarking {s : Openings} {c : Char} (h : isMarking c = false) :
    s.after c = s := by
  have hmarks : ['"', '\'', '(', ')'] ⊆ ['"', '\'', '(', ')', ',', ';'] := by decide
  refine Openings.after_eq_self fun hc => ?_
  rw [isMarking, List.contains_iff_mem.mpr (hmarks hc)] at h
  cases h

/-- White space marks nothing. -/
theorem isMarking_of_isBlank {c : Char} (h : Text.isBlank c = true) : isMarking c = false :=
  Bool.eq_false_iff.mpr fun hmarking => Text.notMem_of_isBlank (by decide) h
    (List.contains_iff_mem.mp hmarking)

/-! ## Comments -/

/-- No comment begins in quotes. -/
theorem beforeComment_quoted {quote : Char} {inner : List Char} (h : quote ∉ inner)
    (rest : List Char) :
    beforeComment (some quote) (inner ++ quote :: rest) =
      inner ++ quote :: beforeComment none rest := by
  induction inner with
  | nil => simp [beforeComment, quoteAfter_close]
  | cons c inner ih =>
    obtain ⟨hne, hinner⟩ : quote ≠ c ∧ quote ∉ inner := by simpa using h
    simp [beforeComment, quoteAfter_within hne.symm, ih hinner]

/-- The comment of a line begins behind a balanced text at its start. -/
theorem beforeComment_append {commas : Bool} {text : List Char} (h : Balanced commas text)
    (rest : List Char) : beforeComment none (text ++ rest) = text ++ beforeComment none rest := by
  induction h generalizing rest with
  | nil => rfl
  | @char commas c text hc _ ih =>
    have hne : c ≠ ';' := by
      rintro rfl
      exact absurd hc (by decide)
    simp [beforeComment, hne, quoteAfter_of_not_isMarking hc, ih]
  | comma _ ih => simp [beforeComment, quoteAfter, ih]
  | @quotes commas quote inner text hquote hinner _ ih =>
    have hne : quote ≠ ';' := by
      rcases hquote with rfl | rfl
      · decide
      · decide
    simp [beforeComment, hne, quoteAfter_open hquote, beforeComment_quoted hinner, ih]
  | parens _ _ ihinner ihrest => simp [beforeComment, quoteAfter, ihinner, ihrest]

/-- A balanced text has no comment. -/
theorem stripComment_of_balanced {commas : Bool} {text : List Char} (h : Balanced commas text) :
    stripComment text = text := by
  have happend := beforeComment_append h []
  rw [List.append_nil] at happend
  rw [stripComment, happend, beforeComment, List.append_nil]

/-! ## Parts -/

/-- **A balanced text stays together**, where commas in it do not count or are not there, and
leaves nothing open. -/
theorem Balanced.isNeutral {commas : Bool} {text : List Char} (h : Balanced commas text)
    {s : Openings}
    (hquote : s.quote = none) (hdepth : commas = true → s.depth ≠ 0) : IsNeutral s text := by
  induction h generalizing s with
  | nil => exact .nil s
  | @char commas c text hc _ ih =>
    refine .cons ?_ (after_of_not_isMarking hc) (ih hquote hdepth)
    rintro ⟨rfl, -⟩
    exact absurd hc (by decide)
  | comma _ ih =>
    refine .cons ?_ s.after_comma (ih hquote hdepth)
    rintro ⟨-, rfl⟩
    exact hdepth rfl rfl
  | @quotes commas quote inner text isQuote hinner _ ih =>
    obtain ⟨hopened, hclosed⟩ := Openings.after_mark hquote isQuote
    have hne : quote ≠ ',' := by
      rcases isQuote with rfl | rfl
      · decide
      · decide
    exact .enclosed hne hne (.of_notMem hopened hinner) hclosed (ih hquote hdepth)
  | @parens commas inner text _ _ ihinner ihrest =>
    obtain ⟨hopened, hdeeper, hclosed⟩ := Openings.after_parenthesis hquote
    have hwithin : true = true →
        (s.after '(').depth ≠ 0 := fun _ => hdeeper ▸ Nat.succ_ne_zero s.depth
    exact .enclosed (by decide) (by decide) (ihinner hopened hwithin) hclosed (ihrest hquote hdepth)

/-! ## Arguments -/

/-- A text that can be written as an argument.  Braces, double colons and line feeds are for
the lines around. -/
structure IsArgument (text : List Char) : Prop where
  ne_nil : text ≠ []
  head_not_blank : ∀ c ∈ text.head?, Text.isBlank c = false
  last_not_blank : ∀ c ∈ text.getLast?, Text.isBlank c = false
  balanced : Balanced false text
  no_opening : '{' ∉ text
  no_closing : '}' ∉ text
  no_label_mark : ¬ [':', ':'] <:+: text
  one_line : '\n' ∉ text

/-- Texts one after the other, with a comma and a blank between them. -/
def commaSeparated (texts : List String) : List Char :=
  [',', ' '].intercalate (texts.map String.toList)

/-- What can be written as an argument leaves nothing open. -/
theorem IsArgument.isNeutral {text : List Char} (h : IsArgument text) :
    IsNeutral Openings.closed text :=
  h.balanced.isNeutral rfl Bool.noConfusion

theorem IsArgument.isPart {text : List Char} (h : IsArgument text) : IsPart text :=
  ⟨h.ne_nil, h.head_not_blank, h.last_not_blank, h.isNeutral.whole⟩

theorem commaSeparated_cons_cons (text next : String) (rest : List String) :
    commaSeparated (text :: next :: rest) = text.toList ++ ',' :: ' ' ::
      commaSeparated (next :: rest) := by
  simp [commaSeparated, List.intercalate_cons_cons]

/-- **Arguments that are written one after the other are read back.** -/
theorem splitArgs_commaSeparated {args : List String} (h : ∀ arg ∈ args, IsArgument arg.toList) :
    splitArgs (commaSeparated args) = args.map String.toList := by
  induction args with
  | nil => rfl
  | cons arg rest ih =>
    have harg : IsArgument arg.toList := h arg List.mem_cons_self
    cases rest with
    | nil =>
      rw [commaSeparated, List.map_singleton, List.intercalate_singleton]
      exact harg.isPart.splitArgs_eq
    | cons next rest =>
      rw [commaSeparated_cons_cons, harg.isPart.splitArgs_append_comma harg.isNeutral.behind_eq,
        splitArgs_cons_of_isBlank rfl,
        ih fun other hother => h other (List.mem_cons_of_mem arg hother)]
      rfl

theorem arguments_commaSeparated {args : List String} (h : ∀ arg ∈ args, IsArgument arg.toList) :
    arguments (commaSeparated args) = args := by
  rw [arguments, splitArgs_commaSeparated h, List.map_map]
  simp

end ActionBoard.Script
