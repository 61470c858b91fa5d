import ActionBoard.Proofs.Text.Blank
import ActionBoard.Script.Argument

/-!
# What is open in a list of arguments

A comma separates arguments where no quote and no parenthesis is open.  What is open behind a text
depends on what is open in front of it, and white space and commas open and close nothing.

* `Openings`: what is open at a place of a text; `Openings.behind` carries it through a text.
* `IsWhole`: no comma of a text separates.  `partsFrom_append_of_isWhole` says that such a
  text stays together.
* `IsNeutral`: a text that stays together and leaves open what was open, which is what can be put
  in front of others.
* `IsPart`: an argument as it comes out of a list.
-/

namespace ActionBoard.Script

/-! ## One character -/

theorem quoteAfter_open {quote : Char} (h : quote = '"' ∨ quote = '\'') :
    quoteAfter none quote = some quote := by
  rcases h with rfl | rfl
  · rfl
  · rfl

theorem quoteAfter_within {quote c : Char} (h : c ≠ quote) :
    quoteAfter (some quote) c = some quote := by
  simp [quoteAfter, h.symm]

theorem quoteAfter_close (quote : Char) : quoteAfter (some quote) quote = none := by
  simp [quoteAfter]

/-- What is open at a place of a text: perhaps a quote, by its mark, and some parentheses. -/
@[ext]
structure Openings where
  quote : Option Char
  depth : Nat
  isMark : ∀ mark ∈ quote, mark = '"' ∨ mark = '\''
  deriving DecidableEq

theorem isMark_quoteAfter {quote : Option Char}
    (h : ∀ mark ∈ quote, mark = '"' ∨ mark = '\'') (c : Char) :
    ∀ mark ∈ quoteAfter quote c, mark = '"' ∨ mark = '\'' := by
  intro mark hmark
  cases quote with
  | none =>
    rw [quoteAfter, Option.mem_ite_none_right] at hmark
    obtain ⟨hc, hsame⟩ := hmark
    rw [← Option.some_inj.mp hsame]
    simpa using hc
  | some opened =>
    rw [quoteAfter, Option.mem_ite_none_left] at hmark
    exact h mark hmark.2

namespace Openings

/-- Nothing is open.  Only there does a comma separate. -/
def closed : Openings :=
  ⟨none, 0, fun _ hmark => nomatch hmark⟩

/-- What is open behind a character. -/
def after (s : Openings) (c : Char) : Openings where
  quote := quoteAfter s.quote c
  depth := depthAfter (quoteAfter s.quote c) s.depth c
  isMark := isMark_quoteAfter s.isMark c

/-- What is open behind a text. -/
def behind (s : Openings) (text : List Char) : Openings :=
  text.foldl after s

variable {s : Openings} {c quote : Char} {text : List Char}

@[simp] theorem quote_after (s : Openings) (c : Char) :
    (s.after c).quote = quoteAfter s.quote c := rfl

@[simp] theorem depth_after (s : Openings) (c : Char) :
    (s.after c).depth = depthAfter (quoteAfter s.quote c) s.depth c := rfl

@[simp] theorem behind_nil (s : Openings) : s.behind [] = s := rfl

@[simp] theorem behind_cons (s : Openings) (c : Char) (text : List Char) :
    s.behind (c :: text) = (s.after c).behind text := rfl

theorem behind_append (s : Openings) (front rest : List Char) :
    s.behind (front ++ rest) = (s.behind front).behind rest :=
  List.foldl_append

theorem quoteAfter_eq (s : Openings) (hdouble : c ≠ '"') (hsingle : c ≠ '\'') :
    quoteAfter s.quote c = s.quote := by
  cases hquote : s.quote with
  | none => simp [quoteAfter, hdouble, hsingle]
  | some mark =>
    have hne : c ≠ mark := by
      rcases s.isMark mark hquote with rfl | rfl
      · exact hdouble
      · exact hsingle
    exact quoteAfter_within hne

/-- Only quotes and parentheses open and close. -/
theorem after_eq_self (h : c ∉ ['"', '\'', '(', ')']) : s.after c = s := by
  simp only [List.mem_cons, List.not_mem_nil, or_false, not_or] at h
  obtain ⟨hdouble, hsingle, hopen, hclose⟩ := h
  have hdepth : depthAfter (quoteAfter s.quote c) s.depth c = s.depth := by
    simp [depthAfter, hopen, hclose]
  exact Openings.ext (s.quoteAfter_eq hdouble hsingle) hdepth

theorem after_comma (s : Openings) : s.after ',' = s :=
  after_eq_self (by decide)

theorem after_of_isBlank (h : Text.isBlank c = true) : s.after c = s :=
  after_eq_self (Text.notMem_of_isBlank (by decide) h)

theorem behind_of_blank (h : ∀ c ∈ text, Text.isBlank c = true) : s.behind text = s := by
  induction text with
  | nil => rfl
  | cons c text ih =>
    obtain ⟨hc, htext⟩ := List.forall_mem_cons.mp h
    rw [behind_cons, after_of_isBlank hc, ih htext]

/-- White space at the ends changes nothing. -/
theorem behind_trim (s : Openings) (text : List Char) :
    s.behind (Text.trim text) = s.behind text := by
  obtain ⟨front, back, htext, hfront, hback⟩ := Text.exists_eq_append_trim_append text
  conv_rhs => rw [htext, behind_append, behind_of_blank hfront, behind_append,
    behind_of_blank hback]

/-- Outside of quotes a mark opens one, and closes it again. -/
theorem after_mark (hquote : s.quote = none) (hmark : quote = '"' ∨ quote = '\'') :
    (s.after quote).quote = some quote ∧ (s.after quote).after quote = s := by
  have hopened : (s.after quote).quote = some quote := by
    rw [quote_after, hquote, quoteAfter_open hmark]
  have hopenedDepth : (s.after quote).depth = s.depth := by
    rw [depth_after, ← quote_after, hopened]
    rfl
  have hclosed : ((s.after quote).after quote).quote = s.quote := by
    rw [quote_after, hopened, quoteAfter_close, hquote]
  have hclosedDepth : ((s.after quote).after quote).depth = s.depth := by
    rw [depth_after, hopened, quoteAfter_close, hopenedDepth]
    rcases hmark with rfl | rfl
    · rfl
    · rfl
  exact ⟨hopened, Openings.ext hclosed hclosedDepth⟩

/-- Outside of quotes a parenthesis is opened, and closed again. -/
theorem after_parenthesis (hquote : s.quote = none) :
    (s.after '(').quote = none ∧
      (s.after '(').depth = s.depth + 1 ∧ (s.after '(').after ')' = s := by
  have hopened : (s.after '(').quote = none := by
    rw [quote_after, hquote]
    rfl
  have hdepth : (s.after '(').depth = s.depth + 1 := by
    rw [depth_after, hquote]
    rfl
  have hclosed : ((s.after '(').after ')').quote = s.quote := by
    rw [quote_after, hopened, hquote]
    rfl
  have hclosedDepth : ((s.after '(').after ')').depth = s.depth := by
    rw [depth_after, hopened, hdepth]
    rfl
  exact ⟨hopened, hdepth, Openings.ext hclosed hclosedDepth⟩

/-- In quotes only the mark that opened them closes. -/
theorem after_within (hquote : s.quote = some quote) (h : c ≠ quote) : s.after c = s := by
  have hkept : quoteAfter s.quote c = s.quote := by rw [hquote, quoteAfter_within h]
  have hdepth : depthAfter (quoteAfter s.quote c) s.depth c = s.depth := by
    rw [hkept, hquote]
    rfl
  exact Openings.ext hkept hdepth

end Openings

open Openings

variable {s : Openings} {c : Char} {text front rest arg : List Char}

/-! ## Texts that stay together -/

/-- At every comma of a text a quote or a parenthesis is open. -/
def IsWhole (s : Openings) (text : List Char) : Prop :=
  ∀ before after, text = before ++ ',' :: after → s.behind before ≠ closed

theorem isWhole_of_notMem (h : ',' ∉ text) : IsWhole s text := by
  rintro before after rfl
  exact absurd (List.mem_append_right before List.mem_cons_self) h

theorem isWhole_nil (s : Openings) : IsWhole s [] :=
  isWhole_of_notMem List.not_mem_nil

theorem isWhole_cons : IsWhole s (c :: text) ↔ ¬ (c = ',' ∧ s = closed) ∧
    IsWhole (s.after c) text := by
  constructor
  · intro h
    refine ⟨?_, fun before after htext => h (c :: before) after (by rw [htext, List.cons_append])⟩
    rintro ⟨rfl, hs⟩
    exact h [] text rfl hs
  · rintro ⟨hfirst, hrest⟩ before after htext
    cases before with
    | nil =>
      obtain ⟨rfl, -⟩ := List.cons.inj htext
      exact fun hs => hfirst ⟨rfl, hs⟩
    | cons d before =>
      obtain ⟨rfl, hbehind⟩ := List.cons.inj htext
      exact hrest before after hbehind

theorem isWhole_append : IsWhole s (front ++ rest) ↔ IsWhole s front ∧
    IsWhole (s.behind front) rest := by
  induction front generalizing s with
  | nil => exact ⟨fun h => ⟨isWhole_nil s, h⟩, fun h => h.2⟩
  | cons c front ih => rw [List.cons_append, isWhole_cons, isWhole_cons, ih, behind_cons, and_assoc]

/-- A text that stays together does so without the white space at its ends. -/
theorem IsWhole.trim (h : IsWhole closed text) : IsWhole closed (Text.trim text) := by
  obtain ⟨front, back, htext, hfront, -⟩ := Text.exists_eq_append_trim_append text
  rw [htext, isWhole_append, behind_of_blank hfront, isWhole_append] at h
  exact h.2.1

/-- A text that stays together, behind which the same is open as in front of it. -/
structure IsNeutral (s : Openings) (text : List Char) : Prop where
  whole : IsWhole s text
  behind_eq : s.behind text = s

namespace IsNeutral

theorem nil (s : Openings) : IsNeutral s [] :=
  ⟨isWhole_nil s, rfl⟩

theorem cons (hfirst : ¬ (c = ',' ∧ s = closed)) (hafter : s.after c = s) (h : IsNeutral s text) :
    IsNeutral s (c :: text) where
  whole := isWhole_cons.mpr ⟨hfirst, by rw [hafter]; exact h.whole⟩
  behind_eq := by rw [behind_cons, hafter, h.behind_eq]

/-- What is opened in front of a text is closed behind it. -/
theorem enclosed {first last : Char} {inner : List Char} (hfirst : first ≠ ',') (hlast : last ≠ ',')
    (hinner : IsNeutral (s.after first) inner) (hclosed : (s.after first).after last = s)
    (h : IsNeutral s text) : IsNeutral s (first :: (inner ++ last :: text)) where
  whole := by
    rw [isWhole_cons, isWhole_append, hinner.behind_eq, isWhole_cons, hclosed]
    exact ⟨fun hsame => hfirst hsame.1, hinner.whole, fun hsame => hlast hsame.1, h.whole⟩
  behind_eq := by
    rw [behind_cons, behind_append, hinner.behind_eq, behind_cons, hclosed, h.behind_eq]

/-- In quotes nothing separates. -/
theorem of_notMem {quote : Char} (hquote : s.quote = some quote) (h : quote ∉ text) :
    IsNeutral s text := by
  induction text with
  | nil => exact .nil s
  | cons c text ih =>
    obtain ⟨hne, htext⟩ : quote ≠ c ∧ quote ∉ text := by simpa using h
    refine .cons ?_ (after_within hquote hne.symm) (ih htext)
    rintro ⟨-, rfl⟩
    cases hquote

end IsNeutral

/-! ## The first part of a text -/

/-- A comma separates where nothing is open, and every other character belongs to the first part. -/
theorem partsFrom_cons (s : Openings) (c : Char) (rest : List Char) :
    partsFrom s.quote s.depth (c :: rest) =
      if c = ',' ∧ s = closed then [] :: partsFrom none 0 rest
      else prependChar c (partsFrom (s.after c).quote (s.after c).depth rest) := by
  have hbegin : partsFrom s.quote s.depth (c :: rest) =
      if (c = ',' && (s.after c).quote.isNone && (s.after c).depth == 0) = true then
        [] :: partsFrom (s.after c).quote (s.after c).depth rest
      else prependChar c (partsFrom (s.after c).quote (s.after c).depth rest) := rfl
  have hseparates : (c = ',' && (s.after c).quote.isNone && (s.after c).depth == 0) = true ↔
      c = ',' ∧ s = closed := by
    have hclosed : s = closed ↔ s.quote = none ∧ s.depth = 0 := Openings.ext_iff
    by_cases hc : c = ','
    · rw [hc, after_comma, hclosed]
      simp
    · simp [hc]
  rw [hbegin]
  by_cases h : c = ',' ∧ s = closed
  · rw [if_pos h, if_pos (hseparates.mpr h)]
    obtain ⟨rfl, rfl⟩ := h
    rfl
  · rw [if_neg h, if_neg (mt hseparates.mp h)]

/-- Where nothing is open, and a character opens nothing, the first part begins with it. -/
theorem partsFrom_cons_of_after_eq (hne : c ≠ ',') (hafter : closed.after c = closed)
    (rest : List Char) : partsFrom none 0 (c :: rest) = prependChar c (partsFrom none 0 rest) := by
  have hparts := partsFrom_cons closed c rest
  rw [if_neg fun h => hne h.1, hafter] at hparts
  exact hparts

theorem foldr_prependChar (text part : List Char) (parts : List (List Char)) :
    text.foldr prependChar (part :: parts) = (text ++ part) :: parts := by
  induction text with
  | nil => rfl
  | cons c text ih =>
    rw [List.foldr_cons, ih]
    rfl

/-- **A text in which no comma separates stays together**, and what is behind it is read with what
it leaves open. -/
theorem partsFrom_append_of_isWhole (h : IsWhole s front) (rest : List Char) :
    partsFrom s.quote s.depth (front ++ rest) =
      front.foldr prependChar (partsFrom (s.behind front).quote (s.behind front).depth rest) := by
  induction front generalizing s with
  | nil => rfl
  | cons c front ih =>
    obtain ⟨hfirst, hfront⟩ := isWhole_cons.mp h
    rw [List.cons_append, partsFrom_cons, if_neg hfirst, ih hfront]
    rfl

theorem partsFrom_of_isWhole (h : IsWhole closed text) : partsFrom none 0 text = [text] := by
  have happend : partsFrom none 0 (text ++ []) = text.foldr prependChar [[]] :=
    partsFrom_append_of_isWhole h []
  rwa [List.append_nil, foldr_prependChar, List.append_nil] at happend

theorem partsFrom_append_comma_of_isWhole (h : IsWhole closed front)
    (hclosed : closed.behind front = closed) (rest : List Char) :
    partsFrom none 0 (front ++ ',' :: rest) = front :: partsFrom none 0 rest := by
  have happend : partsFrom none 0 (front ++ ',' :: rest) =
      front.foldr prependChar ([] :: partsFrom none 0 rest) := by
    have hbehind := partsFrom_append_of_isWhole h (',' :: rest)
    rw [hclosed] at hbehind
    exact hbehind
  rw [happend, foldr_prependChar, List.append_nil]

/-! ## Arguments -/

/-- An argument as it comes out of a list. -/
structure IsPart (arg : List Char) : Prop where
  ne_nil : arg ≠ []
  head_not_blank : ∀ c ∈ arg.head?, Text.isBlank c = false
  last_not_blank : ∀ c ∈ arg.getLast?, Text.isBlank c = false
  whole : IsWhole closed arg

theorem IsWhole.isPart (h : IsWhole closed text) (hne : Text.trim text ≠ []) :
    IsPart (Text.trim text) :=
  ⟨hne, Text.isBlank_head?_trim text, Text.isBlank_getLast?_trim text, h.trim⟩

/-- A text that stays together is one argument, if there is anything in it but white space. -/
theorem splitArgs_of_isWhole (h : IsWhole closed text) (hne : Text.trim text ≠ []) :
    splitArgs text = [Text.trim text] := by
  simp [splitArgs, partsFrom_of_isWhole h, hne]

/-- An argument alone is one argument. -/
theorem IsPart.splitArgs_eq (h : IsPart arg) : splitArgs arg = [arg] := by
  have htrim : Text.trim arg = arg := Text.trim_eq_self h.head_not_blank h.last_not_blank
  rw [splitArgs_of_isWhole h.whole (htrim.symm ▸ h.ne_nil), htrim]

/-- An argument that leaves nothing open is the first one of a list. -/
theorem IsPart.splitArgs_append_comma (h : IsPart arg) (hclosed : closed.behind arg = closed)
    (rest : List Char) : splitArgs (arg ++ ',' :: rest) = arg :: splitArgs rest := by
  rw [splitArgs, partsFrom_append_comma_of_isWhole h.whole hclosed]
  simp [Text.trim_eq_self h.head_not_blank h.last_not_blank, h.ne_nil, splitArgs]

/-- White space in front of a list of arguments does not count. -/
theorem splitArgs_cons_of_isBlank (h : Text.isBlank c = true) (text : List Char) :
    splitArgs (c :: text) = splitArgs text := by
  have hcomma : c ≠ ',' := by
    rintro rfl
    exact absurd h (by decide)
  rw [splitArgs, splitArgs, partsFrom_cons_of_after_eq hcomma (after_of_isBlank h)]
  cases partsFrom none 0 text with
  | nil => simp [prependChar, Text.trim, Text.strip, Text.stripStart, Text.stripEnd, h]
  | cons part parts => rw [prependChar, List.map_cons, Text.trim_cons_of_isBlank h, List.map_cons]

end ActionBoard.Script
