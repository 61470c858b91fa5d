import ActionBoard.Proofs.Script.Provenance

/-!
# Layout

A text can be laid out in many ways: lines are indented, have white space or a comment behind them,
end in a carriage return, and stand between empty lines and lines of comment.  None of this reaches
the script, but for the numbers of the lines, which count the empty ones too.

What makes this so is that a line is made bare before anything is asked about it.  A bare line is
the same in every layout (`bareLine_eq`), a line that is left out is left out wherever it stands,
and so the reader gets the same lines with other numbers (`readFrom_relaid`).  It never looks at a
number but puts it into the commands of the line, so it may be renumbered before or after
(`readLines_renumber`).

* `SameLine`, `Relaid`: one line in two layouts, and the lines of a text.  `Relaid` also says which
  number each line of the old text has in the new one.
* `layout_does_not_matter`: the scripts of both texts.
-/

namespace ActionBoard.Text

/-- What is left of a text that does not begin with white space begins as the text does. -/
theorem head?_stripStart_append {p : Char → Bool} (cs rest : List Char)
    (hcs : stripStart p cs ≠ []) : (stripStart p (cs ++ rest)).head? = (stripStart p cs).head? := by
  rw [stripStart, List.dropWhile_append, if_neg (by simpa [stripStart] using hcs)]
  exact List.head?_append_of_ne_nil _ hcs

/-- A text without line feeds is one line, or none if there is nothing in it. -/
theorem lines_of_notMem {line : List Char} (h : '\n' ∉ line) :
    lines line = if line = [] then [] else [line] := by
  have hfrom : ∀ {line read : List Char}, '\n' ∉ line →
      linesFrom line read = if read.reverse ++ line = [] then [] else [read.reverse ++ line] := by
    intro line
    induction line with
    | nil =>
      intro read _
      cases read <;> simp [linesFrom]
    | cons c rest ih =>
      intro read h
      obtain ⟨hne, hrest⟩ : '\n' ≠ c ∧ '\n' ∉ rest := by simpa using h
      simp [linesFrom, hne.symm, ih hrest]
  exact hfrom h

theorem mem_of_mem_splitAt {separator c : Char} {text part : List Char}
    (hpart : part ∈ splitAt separator text) (hc : c ∈ part) : c ∈ text := by
  induction text generalizing part with
  | nil =>
    rw [List.mem_singleton.mp hpart] at hc
    cases hc
  | cons d rest ih =>
    rw [splitAt] at hpart
    split at hpart
    · rcases List.mem_cons.mp hpart with rfl | hpart
      · cases hc
      · exact List.mem_cons_of_mem d (ih hpart hc)
    · cases hrest : splitAt separator rest with
      | nil => exact absurd hrest (splitAt_ne_nil separator rest)
      | cons first parts =>
        rw [hrest] at hpart ih
        rcases List.mem_cons.mp hpart with rfl | hpart
        · rcases List.mem_cons.mp hc with rfl | hc
          · exact List.mem_cons_self
          · exact List.mem_cons_of_mem d (ih List.mem_cons_self hc)
        · exact List.mem_cons_of_mem d (ih (List.mem_cons_of_mem _ hpart) hc)

/-- A text begins as its first part does. -/
theorem exists_head?_splitAt {separator c : Char} {text : List Char} (hc : c ≠ separator)
    (h : text.head? = some c) : ∃ part ∈ splitAt separator text, part.head? = some c := by
  cases text with
  | nil => cases h
  | cons d rest =>
    cases h
    rw [splitAt, if_neg (by simpa using hc)]
    cases splitAt separator rest with
    | nil => exact ⟨_, List.mem_cons_self, rfl⟩
    | cons part parts => exact ⟨_, List.mem_cons_self, rfl⟩

end ActionBoard.Text

namespace ActionBoard.Script

variable {place : Nat → Nat} {line line' : List Char} {lines lines' : List (List Char)}

/-! ## Lines in two layouts -/

/-- The quote that is open at the end of a line.  Where the line has a comment, none is. -/
def openQuote (line : List Char) : Option Char :=
  (stripComment line).foldl quoteAfter none

/-- A line and the same line laid out in another way: with one blank more or less at one of its
ends, or with a comment behind it where all quotes are closed.  A carriage return before the end of
a line is a blank, too. -/
inductive SameLine : List Char → List Char → Prop
  | indent {c : Char} {line : List Char} (blank : Text.isBlank c = true) (hc : c ≠ '\n') :
      SameLine line (c :: line)
  | outdent {c : Char} {line : List Char} (blank : Text.isBlank c = true) (hc : c ≠ '\n') :
      SameLine (c :: line) line
  | pad {c : Char} {line : List Char} (blank : Text.isBlank c = true) (hc : c ≠ '\n') :
      SameLine line (line ++ [c])
  | unpad {c : Char} {line : List Char} (blank : Text.isBlank c = true) (hc : c ≠ '\n') :
      SameLine (line ++ [c]) line
  | comment {line text : List Char} (closed : openQuote line = none) (htext : '\n' ∉ text) :
      SameLine line (line ++ ';' :: text)

/-- A line with nothing in it but blanks, or with a semicolon as the first character
that is no blank. -/
def SaysNothing (line : List Char) : Prop :=
  '\n' ∉ line ∧ ∀ c ∈ (Text.stripStart Text.isBlank line).head?, c = ';'

/-- The new number of a line where another one has been put behind the first lines, as many as
given. -/
def numberPast (count number : Nat) : Nat :=
  if number ≤ count then number else number + 1

/-- The lines of a text laid out in another way.  Lines that say nothing may be put anywhere;
`place` says which new number the line with an old number has. -/
inductive Relaid (lines : List (List Char)) : (place : Nat → Nat) → List (List Char) → Prop
  | refl : Relaid lines id lines
  | line {place : Nat → Nat} {before after : List (List Char)} {line line' : List Char}
      (h : Relaid lines place (before ++ line :: after)) (same : SameLine line line') :
      Relaid lines place (before ++ line' :: after)
  | insert {place : Nat → Nat} {before after : List (List Char)} {line : List Char}
      (h : Relaid lines place (before ++ after)) (nothing : SaysNothing line) :
      Relaid lines (numberPast before.length ∘ place) (before ++ line :: after)

/-! ## Bare lines -/

theorem ne_semicolon_of_isBlank {c : Char} (h : Text.isBlank c = true) : c ≠ ';' := by
  rintro rfl
  exact absurd h (by decide)

/-- More text behind a line is in its comment, or the line has none and the text behind it is read
with the quote that is open there. -/
theorem beforeComment_append_cases (quote : Option Char) (line rest : List Char) :
    beforeComment quote (line ++ rest) = beforeComment quote line ∨
      beforeComment quote line = line ∧
        beforeComment quote (line ++ rest) =
          line ++ beforeComment (line.foldl quoteAfter quote) rest := by
  induction line generalizing quote with
  | nil => exact .inr ⟨rfl, rfl⟩
  | cons c line ih =>
    rw [List.cons_append, beforeComment, beforeComment]
    split
    · exact .inl rfl
    · rcases ih (quoteAfter quote c) with h | ⟨hline, h⟩
      · exact .inl (by rw [h])
      · exact .inr ⟨by rw [hline], by rw [h]; rfl⟩

theorem bareLine_indent {c : Char} (h : Text.isBlank c = true) (line : List Char) :
    bareLine (c :: line) = bareLine line := by
  have hstrip : stripComment (c :: line) = c :: stripComment line := by
    simp [stripComment, beforeComment, ne_semicolon_of_isBlank h,
      quoteAfter_of_not_isMarking (isMarking_of_isBlank h)]
  rw [bareLine, bareLine, hstrip, Text.trim_cons_of_isBlank h]

theorem bareLine_pad {c : Char} (h : Text.isBlank c = true) (line : List Char) :
    bareLine (line ++ [c]) = bareLine line := by
  rw [bareLine, bareLine, stripComment, stripComment]
  rcases beforeComment_append_cases none line [c] with hcut | ⟨hline, hwhole⟩
  · rw [hcut]
  · have hblank : ∀ quote, beforeComment quote [c] = [c] := by
      intro quote
      simp [beforeComment, ne_semicolon_of_isBlank h]
    rw [hwhole, hline, hblank, Text.trim_append_of_isBlank h]

theorem bareLine_comment (h : openQuote line = none) (text : List Char) :
    bareLine (line ++ ';' :: text) = bareLine line := by
  rw [bareLine, bareLine, stripComment, stripComment]
  rcases beforeComment_append_cases none line (';' :: text) with hcut | ⟨hline, hwhole⟩
  · rw [hcut]
  · rw [openQuote, stripComment, hline] at h
    rw [hwhole, hline, h]
    simp [beforeComment]

/-- **A bare line is the same in every layout.** -/
theorem SameLine.bareLine_eq (h : SameLine line line') : bareLine line' = bareLine line := by
  cases h with
  | indent blank hc => exact bareLine_indent blank line
  | outdent blank hc => exact (bareLine_indent blank line').symm
  | pad blank hc => exact bareLine_pad blank line
  | unpad blank hc => exact (bareLine_pad blank line').symm
  | comment closed htext => exact bareLine_comment closed _

theorem bareLine_of_saysNothing (h : SaysNothing line) : bareLine line = [] := by
  have hfirst := h.2
  clear h
  induction line with
  | nil => rfl
  | cons c rest ih =>
    by_cases hblank : Text.isBlank c = true
    · rw [bareLine_indent hblank]
      rw [Text.stripStart, List.dropWhile_cons_of_pos hblank] at hfirst
      exact ih hfirst
    · rw [Text.stripStart_cons_of_not (Bool.eq_false_iff.mpr hblank)] at hfirst
      rw [hfirst c rfl]
      rfl

theorem bareLine_dropReturn (line : List Char) :
    bareLine (Text.dropReturn line) = bareLine line := by
  unfold Text.dropReturn
  split
  · rename_i hlast
    obtain ⟨before, rfl⟩ := List.getLast?_eq_some_iff.mp hlast
    rw [List.dropLast_concat]
    exact (bareLine_pad (by decide) before).symm
  · rfl

/-! ## What is read of lines -/

/-- A line with another number. -/
def SourceLine.renumber (place : Nat → Nat) (line : SourceLine) : SourceLine :=
  { line with number := place line.number }

/-- What is read of lines, the first of which has the given number. -/
def readFrom (first : Nat) (lines : List (List Char)) : List SourceLine :=
  ((numberLines first lines).map fun line =>
    { line with text := bareLine line.text }).filter fun line =>
    !line.text.isEmpty

theorem readFrom_append (first : Nat) (before after : List (List Char)) :
    readFrom first (before ++ after) = readFrom first before ++
      readFrom (first + before.length) after := by
  rw [readFrom, numberLines_append, List.map_append, List.filter_append]
  rfl

theorem readFrom_cons (first : Nat) (line : List Char) (rest : List (List Char)) :
    readFrom first (line :: rest) = readFrom first [line] ++ readFrom (first + 1) rest :=
  readFrom_append first [line] rest

theorem readFrom_eq_nil (h : bareLine line = []) (first : Nat) : readFrom first [line] = [] := by
  simp [readFrom, numberLines, h]

theorem readFrom_congr (h : bareLine line' = bareLine line) (first : Nat) :
    readFrom first [line'] = readFrom first [line] := by
  simp [readFrom, numberLines, h]

/-- The same lines are read from another place in the text, with other numbers. -/
theorem readFrom_renumber {first first' : Nat}
    (h : ∀ i < lines.length, place (first + i) = first' + i) :
    readFrom first' lines = (readFrom first lines).map (SourceLine.renumber place) := by
  induction lines generalizing first first' with
  | nil => rfl
  | cons line rest ih =>
    have hfirst : place first = first' := h 0 (Nat.zero_lt_succ _)
    have hline : readFrom first' [line] =
        (readFrom first [line]).map (SourceLine.renumber place) := by
      by_cases hbare : bareLine line = []
      · rw [readFrom_eq_nil hbare, readFrom_eq_nil hbare, List.map_nil]
      · simp [readFrom, numberLines, hbare, SourceLine.renumber, hfirst]
    have hrest : readFrom (first' + 1) rest =
        (readFrom (first + 1) rest).map (SourceLine.renumber place) := by
      refine ih fun i hi => ?_
      have hnext := h (i + 1) (Nat.succ_lt_succ hi)
      rwa [← Nat.add_assoc, ← Nat.add_assoc, Nat.add_right_comm, Nat.add_right_comm first'] at hnext
    rw [readFrom_cons, readFrom_cons first, List.map_append, hline, hrest]

/-- **The lines that are read have the same texts in every layout**, and their new numbers. -/
theorem readFrom_relaid (h : Relaid lines place lines') :
    readFrom 1 lines' = (readFrom 1 lines).map (SourceLine.renumber place) := by
  induction h with
  | refl =>
    have hid : SourceLine.renumber id = id := rfl
    rw [hid, List.map_id]
  | @line place before after line line' _ same ih =>
    rw [← ih, readFrom_append, readFrom_append, readFrom_cons, readFrom_cons _ line,
      readFrom_congr same.bareLine_eq]
  | @insert place before after line _ nothing ih =>
    have hbefore : readFrom 1 before =
        (readFrom 1 before).map (SourceLine.renumber (numberPast before.length)) := by
      refine readFrom_renumber fun i hi => ?_
      rw [numberPast, if_pos (by omega)]
    have hafter : readFrom (1 + before.length + 1) after =
        (readFrom (1 + before.length) after).map (SourceLine.renumber
          (numberPast before.length)) := by
      refine readFrom_renumber fun i _ => ?_
      rw [numberPast, if_neg (by omega)]
      omega
    have hcomp : SourceLine.renumber (numberPast before.length ∘ place) =
        SourceLine.renumber (numberPast before.length) ∘ SourceLine.renumber place := rfl
    rw [hcomp, ← List.map_map, ← ih, readFrom_append 1 before after, List.map_append,
      ← hbefore, ← hafter,
      readFrom_append, readFrom_cons, readFrom_eq_nil (bareLine_of_saysNothing nothing),
      List.nil_append]

/-- A carriage return before a line feed and an empty line at the end of a text are no
more than layout. -/
theorem readFrom_lines (hne : lines ≠ []) (h : ∀ line ∈ lines, '\n' ∉ line) (first : Nat) :
    readFrom first (Text.lines (['\n'].intercalate lines)) = readFrom first lines := by
  induction lines generalizing first with
  | nil => exact absurd rfl hne
  | cons line rest ih =>
    have hline : '\n' ∉ line := h line List.mem_cons_self
    cases rest with
    | nil =>
      rw [List.intercalate_singleton, Text.lines_of_notMem hline]
      split
      · rename_i hnil
        rw [hnil, readFrom_eq_nil rfl]
        rfl
      · rfl
    | cons next rest =>
      have hjoin : ['\n'].intercalate (line :: next :: rest) =
          line ++ '\n' :: ['\n'].intercalate (next :: rest) := by
        simp [List.intercalate, List.intersperse]
      rw [hjoin, Text.lines_append hline, readFrom_cons, readFrom_cons _ line,
        ih (List.cons_ne_nil next rest)
          (fun other hother => h other (List.mem_cons_of_mem line hother)),
        readFrom_congr (bareLine_dropReturn line)]

/-- A text is read line by line, as it is cut at the line feeds. -/
theorem sourceLines_eq_readFrom (text : List Char) :
    sourceLines text = readFrom 1 (Text.splitAt '\n' (Text.withoutMark text)) := by
  have hlines := readFrom_lines (Text.splitAt_ne_nil '\n' (Text.withoutMark text))
    (fun line hline => Text.notMem_of_mem_splitAt hline) 1
  rw [Text.intercalate_splitAt] at hlines
  rw [← hlines, sourceLines_eq]
  rfl

/-! ## Renumbered scripts -/

end ActionBoard.Script

namespace ActionBoard

variable {β γ : Type}

/-- With something done to what each name stands for. -/
def Declarations.mapValues (f : β → γ) (declarations : Declarations β) : Declarations γ :=
  declarations.map fun entry => (entry.1, f entry.2)

theorem Declarations.mapValues_declare (f : β → γ) (name : String) (value : β)
    (declarations : Declarations β) :
    (declarations.declare name value).mapValues f = (declarations.mapValues f).declare name
      (f value) := by
  induction declarations with
  | nil => rfl
  | cons first rest ih =>
    obtain ⟨key, old⟩ := first
    rw [declare, mapValues, mapValues, List.map_cons, declare]
    split
    · rfl
    · exact congrArg ((key, f old) :: ·) ih

/-- A command with the number of its line mapped to another one. -/
def Command.renumber (place : Nat → Nat) (c : Command) : Command :=
  { c with line := place c.line }

def Function.renumber (place : Nat → Nat) (f : Function) : Function :=
  { f with body := f.body.map (Command.renumber place) }

/-- A script with the number of every line mapped to another one. -/
def Script.renumber (place : Nat → Nat) (script : Script) : Script :=
  { script with
    topLevel := script.topLevel.map (Command.renumber place)
    hotkeys := script.hotkeys.mapValues (List.map (Command.renumber place))
    functions := script.functions.mapValues (Function.renumber place) }

end ActionBoard

namespace ActionBoard.Script

variable {place : Nat → Nat} {lines lines' : List (List Char)}

@[simp] theorem SourceLine.text_renumber (line : SourceLine) :
    (line.renumber place).text = line.text := rfl

@[simp] theorem SourceLine.number_renumber (line : SourceLine) :
    (line.renumber place).number = place line.number := rfl

theorem Command.renumber_ofText (text : List Char) (number : Nat) :
    (Command.ofText text number).renumber place = Command.ofText text (place number) := by
  unfold Command.ofText
  split <;> rfl

theorem collectBlock_renumber (depth : Int) (lines : List SourceLine) :
    collectBlock depth (lines.map (SourceLine.renumber place)) =
      ((collectBlock depth lines).1.map (SourceLine.renumber place),
        (collectBlock depth lines).2.map (SourceLine.renumber place)) := by
  induction lines generalizing depth with
  | nil => rfl
  | cons line rest ih =>
    by_cases hclosed : depth + braceBalance line.text ≤ 0
    · simp [collectBlock, hclosed]
    · simp [collectBlock, hclosed, ih]

theorem bodyCommands_renumber (lines : List SourceLine) :
    bodyCommands (lines.map (SourceLine.renumber place)) =
      (bodyCommands lines).map (Command.renumber place) := by
  rw [bodyCommands, bodyCommands, List.filter_map, List.map_map, List.map_map]
  exact List.map_congr_left fun line _ => (Command.renumber_ofText line.text line.number).symm

theorem skipOpening_renumber (lines : List SourceLine) :
    skipOpening (lines.map (SourceLine.renumber place)) =
      (skipOpening lines).map (SourceLine.renumber place) := by
  cases lines with
  | nil => rfl
  | cons line rest =>
    rw [List.map_cons, skipOpening, skipOpening, SourceLine.text_renumber]
    split <;> rfl

theorem hotkeyBody_renumber (inline : List Char) (number : Nat) (lines : List SourceLine) :
    hotkeyBody inline (place number) (lines.map (SourceLine.renumber place)) =
      ((hotkeyBody inline number lines).1.map (Command.renumber place),
        (hotkeyBody inline number lines).2.map (SourceLine.renumber place)) := by
  rw [hotkeyBody, hotkeyBody]
  split
  · have hopening : (if inline.isEmpty then skipOpening (lines.map (SourceLine.renumber place))
          else lines.map (SourceLine.renumber place)) =
        (if inline.isEmpty then skipOpening lines else lines).map (SourceLine.renumber place) := by
      split
      · exact skipOpening_renumber lines
      · rfl
    dsimp only
    rw [hopening, collectBlock_renumber, bodyCommands_renumber]
  · rw [List.map_singleton, Command.renumber_ofText]

/-- **Numbers go through the reader untouched**: lines may be renumbered before reading or after. -/
theorem readLines_renumber (script : Script) (lines : List SourceLine) :
    readLines (script.renumber place) (lines.map (SourceLine.renumber place)) =
      (readLines script lines).renumber place := by
  induction script, lines using readLines.induct with
  | case1 script => rw [List.map_nil, readLines, readLines]
  | case2 script line rest version hline ih =>
    rw [List.map_cons, readLines, readLines, SourceLine.text_renumber, hline]
    exact ih
  | case3 script line rest hline ih =>
    rw [List.map_cons, readLines, readLines, SourceLine.text_renumber, hline]
    exact ih
  | case4 script line rest list hline ih =>
    rw [List.map_cons, readLines, readLines, SourceLine.text_renumber, hline]
    exact ih
  | case5 script line rest name params hline function =>
    rename_i ih
    rw [List.map_cons, readLines, readLines, SourceLine.text_renumber, hline]
    rw [Script.renumber, Declarations.mapValues_declare] at ih
    dsimp only
    rw [collectBlock_renumber, bodyCommands_renumber]
    exact ih
  | case6 script line rest label inline hline body =>
    rename_i ih
    rw [List.map_cons, readLines, readLines, SourceLine.text_renumber, hline]
    rw [Script.renumber, Declarations.mapValues_declare] at ih
    dsimp only
    rw [SourceLine.number_renumber, hotkeyBody_renumber]
    exact ih
  | case7 script line rest name value hline ih =>
    rw [List.map_cons, readLines, readLines, SourceLine.text_renumber, hline]
    exact ih
  | case8 script line rest hline c =>
    rename_i ih
    rw [List.map_cons, readLines, readLines, SourceLine.text_renumber, hline]
    rw [Script.renumber, List.map_append, List.map_singleton, Command.renumber_ofText] at ih
    exact ih

/-! ## Byte order marks -/

/-- A line that does not begin with a byte order mark, also not behind blanks. -/
def IsUnmarked (line : List Char) : Prop :=
  (Text.stripStart Text.isBlank line).head? ≠ some Text.byteOrderMark

theorem isUnmarked_cons_iff {c : Char} (h : Text.isBlank c = true) {line : List Char} :
    IsUnmarked (c :: line) ↔ IsUnmarked line := by
  rw [IsUnmarked, IsUnmarked, Text.stripStart, List.dropWhile_cons_of_pos h, Text.stripStart]

/-- What stands behind a line counts only if there is nothing in the line. -/
theorem isUnmarked_append_iff {line rest : List Char} (hrest : IsUnmarked rest) :
    IsUnmarked (line ++ rest) ↔ IsUnmarked line := by
  by_cases hline : Text.stripStart Text.isBlank line = []
  · have hall : Text.stripStart Text.isBlank (line ++ rest) =
        Text.stripStart Text.isBlank rest := by
      rw [Text.stripStart] at hline
      rw [Text.stripStart, List.dropWhile_append, hline]
      rfl
    rw [IsUnmarked, IsUnmarked, hall, hline]
    refine ⟨fun _ h => ?_, fun _ => hrest⟩
    cases h
  · rw [IsUnmarked, IsUnmarked, Text.head?_stripStart_append line rest hline]

theorem isUnmarked_blank {c : Char} (h : Text.isBlank c = true) : IsUnmarked [c] := by
  rw [isUnmarked_cons_iff h]
  exact fun hnil => (nomatch hnil)

theorem isUnmarked_comment (text : List Char) : IsUnmarked (';' :: text) := by
  rw [IsUnmarked, Text.stripStart_cons_of_not (by decide)]
  exact fun hmark => absurd (Option.some.inj hmark) (by decide)

theorem SameLine.isUnmarked {line line' : List Char} (h : SameLine line line')
    (hline : IsUnmarked line) : IsUnmarked line' := by
  cases h with
  | indent blank hc => exact (isUnmarked_cons_iff blank).mpr hline
  | outdent blank hc => exact (isUnmarked_cons_iff blank).mp hline
  | pad blank hc => exact (isUnmarked_append_iff (isUnmarked_blank blank)).mpr hline
  | unpad blank hc => exact (isUnmarked_append_iff (isUnmarked_blank blank)).mp hline
  | comment closed htext => exact (isUnmarked_append_iff (isUnmarked_comment _)).mpr hline

theorem isUnmarked_of_saysNothing {line : List Char} (h : SaysNothing line) : IsUnmarked line := by
  intro hmark
  exact absurd (h.2 _ hmark) (by decide)

/-- No layout puts a mark at the start of a line. -/
theorem Relaid.isUnmarked (h : Relaid lines place lines')
    (hlines : ∀ line ∈ lines, IsUnmarked line) : ∀ line ∈ lines', IsUnmarked line := by
  induction h with
  | refl => exact hlines
  | @line place before after line line' _ same ih =>
    intro other hother
    rcases List.mem_append.mp hother with hother | hother
    · exact ih other (List.mem_append_left _ hother)
    · rcases List.mem_cons.mp hother with rfl | hother
      · exact same.isUnmarked (ih line (List.mem_append_right _ List.mem_cons_self))
      · exact ih other (List.mem_append_right _ (List.mem_cons_of_mem line hother))
  | @insert place before after line _ nothing ih =>
    intro other hother
    rcases List.mem_append.mp hother with hother | hother
    · exact ih other (List.mem_append_left _ hother)
    · rcases List.mem_cons.mp hother with rfl | hother
      · exact isUnmarked_of_saysNothing nothing
      · exact ih other (List.mem_append_right _ hother)

/-- A text of unmarked lines has no mark to be taken off. -/
theorem withoutMark_of_isUnmarked {text : List Char}
    (h : ∀ line ∈ Text.splitAt '\n' text, IsUnmarked line) :
    Text.withoutMark text = text := by
  cases text with
  | nil => rfl
  | cons c rest =>
    refine if_neg ?_
    rintro rfl
    have hfeed : Text.byteOrderMark ≠ '\n' := by decide
    obtain ⟨line, hline, hhead⟩ :=
      Text.exists_head?_splitAt hfeed List.head?_cons
    obtain ⟨behind, rfl⟩ : ∃ behind, line = Text.byteOrderMark :: behind :=
      List.head?_eq_some_iff.mp hhead
    refine h _ hline ?_
    rw [Text.stripStart_cons_of_not (by decide)]
    rfl

theorem isUnmarked_of_notMem {text line : List Char} (h : Text.byteOrderMark ∉ text)
    (hline : line ∈ Text.splitAt '\n' text) : IsUnmarked line := by
  intro hmark
  have hmem : Text.byteOrderMark ∈ line := List.dropWhile_subset _ (List.mem_of_mem_head? hmark)
  exact h (Text.mem_of_mem_splitAt hline hmem)

/-! ## Scripts -/

/-- **Layout does not matter.**  The script of a text laid out in another way is the script of the
text, with the new number for every line; a byte order mark in front changes nothing more. -/
theorem layout_does_not_matter {text text' : String} (hmark : Text.byteOrderMark ∉ text.toList)
    (h : Relaid (Text.splitAt '\n' text.toList) place (Text.splitAt '\n' text'.toList)) :
    ofText text' = (ofText text).renumber place ∧
      ofText (String.ofList (Text.byteOrderMark :: text'.toList)) =
        (ofText text).renumber place := by
  have hlines : ∀ line ∈ Text.splitAt '\n' text.toList, IsUnmarked line :=
    fun line => isUnmarked_of_notMem hmark
  have htext : Text.withoutMark text.toList = text.toList := withoutMark_of_isUnmarked hlines
  have htext' : Text.withoutMark text'.toList = text'.toList :=
    withoutMark_of_isUnmarked (h.isUnmarked hlines)
  have hempty : Script.renumber place {} = {} := rfl
  have hread : readLines {} (readFrom 1 (Text.splitAt '\n' text'.toList)) =
      (ofText text).renumber place := by
    rw [readFrom_relaid h, ofText, sourceLines_eq_readFrom, htext, ← readLines_renumber, hempty]
  constructor
  · rw [ofText, sourceLines_eq_readFrom, htext', hread]
  · rw [ofText, sourceLines_eq_readFrom, String.toList_ofList, Text.withoutMark, if_pos rfl, hread]

/-- A function behind a line of comment, with its command indented and a comment behind it. -/
theorem layout_does_not_matter_of_commented :
    let text := "Hop() \x7b\nSay 1\n\x7d"
    let text' := ";x\nHop() \x7b\n\tSay 1;y\n\x7d"
    Text.byteOrderMark ∉ text.toList ∧
      Relaid (Text.splitAt '\n' text.toList) (numberPast 0 ∘ id) (Text.splitAt '\n' text'.toList) ∧
      ofText text' = (ofText text).renumber (numberPast 0 ∘ id) := by
  intro text text'
  have hmark : Text.byteOrderMark ∉ text.toList := by decide
  have hlines : Text.splitAt '\n' text.toList =
      ["Hop() \x7b".toList, "Say 1".toList, "\x7d".toList] := by decide
  have hlines' : Text.splitAt '\n' text'.toList =
      [";x".toList, "Hop() \x7b".toList, "\tSay 1;y".toList, "\x7d".toList] := by decide
  have hrelaid : Relaid (Text.splitAt '\n' text.toList) (numberPast 0 ∘ id)
      (Text.splitAt '\n' text'.toList) := by
    rw [hlines, hlines']
    have hold : Relaid ["Hop() \x7b".toList, "Say 1".toList, "\x7d".toList] id
        (["Hop() \x7b".toList] ++ "Say 1".toList :: ["\x7d".toList]) := .refl
    have hcomment : Relaid ["Hop() \x7b".toList, "Say 1".toList, "\x7d".toList] id
        (["Hop() \x7b".toList] ++ "Say 1;y".toList :: ["\x7d".toList]) :=
      .line hold (.comment (by decide) (by decide))
    have hindented : Relaid ["Hop() \x7b".toList, "Say 1".toList, "\x7d".toList] id
        (["Hop() \x7b".toList] ++ "\tSay 1;y".toList :: ["\x7d".toList]) :=
      .line hcomment (.indent (by decide) (by decide))
    have hbehind : Relaid ["Hop() \x7b".toList, "Say 1".toList, "\x7d".toList] id
        ([] ++ ["Hop() \x7b".toList, "\tSay 1;y".toList, "\x7d".toList]) := hindented
    have hsays : SaysNothing ";x".toList := by
      refine ⟨by decide, ?_⟩
      rintro c ⟨⟩
      rfl
    exact .insert hbehind hsays
  exact ⟨hmark, hrelaid, (layout_does_not_matter hmark hrelaid).1⟩

end ActionBoard.Script
