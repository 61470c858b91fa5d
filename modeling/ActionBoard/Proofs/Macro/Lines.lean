import ActionBoard.Macro.Import
import ActionBoard.Proofs.Script.Layout
import ActionBoard.Proofs.Text.Pieces
import ActionBoard.Proofs.Text.Spelling

/-!
# What lines of macros say

A line of a macro is read from left to right, and where a number or a word ends depends on the
character behind it.  A line that is written with nothing but white space around its commas
leaves no doubt about that: what it says depends on its pieces alone, the first of which is the
name of the command.

* `afterName?_of_pieces`: the name is recognized, in any case, and what is left has the other
  pieces.
* `ofText?_click`, `ofText?_move`, `ofText?_send`, `ofText?_sleep`: what the line says, for
  each of the commands.
* `actions_importText`: a macro of such a line has one action, or none if the line says nothing.
-/

namespace ActionBoard.Macro

variable {line word next rest : List Char} {others : List (List Char)} {name : String}

/-! ## Names -/

/-- White space, and a comma behind it. -/
theorem afterComma?_append {blanks : List Char} (h : ∀ c ∈ blanks, Text.isBlank c = true)
    (rest : List Char) : afterComma? (blanks ++ ',' :: rest) = some (skipBlanks rest) := by
  have hskip : skipBlanks (blanks ++ ',' :: rest) = ',' :: rest := by
    rw [skipBlanks, Text.stripStart, List.dropWhile_append_of_pos h]
    rfl
  rw [afterComma?, hskip]
  rfl

/-- **The name of a command is recognized**, and what is read on has the other pieces. -/
theorem afterName?_of_pieces (hline : Text.pieces line = word :: next :: others)
    (hword : Text.SpelledAs word name) :
    ∃ rest, Text.pieces rest = next :: others ∧ afterName? name (Text.trim line) =
      some (skipBlanks rest) := by
  obtain ⟨blanks, rest, htrim, hblanks, hrest⟩ := Text.trim_of_pieces_eq_cons_cons hline
  refine ⟨rest, hrest, ?_⟩
  rw [htrim, afterName?, hword.dropWord?, Option.bind_some, afterComma?_append hblanks]

/-- A name is not taken for another one. -/
theorem afterName?_eq_none {other : String} (hline : Text.pieces line = word :: next :: others)
    (hword : Text.SpelledAs word name) (hother : ¬ other.toList <+: name.toList)
    (hname : ¬ name.toList <+: other.toList) : afterName? other (Text.trim line) = none := by
  obtain ⟨blanks, rest, htrim, -, -⟩ := Text.trim_of_pieces_eq_cons_cons hline
  rw [htrim, afterName?, hword.dropWord?_eq_none hother hname]
  rfl

/-! ## Numbers -/

theorem readDigits?_append {digits : List Char} {n : Nat} (h : Text.natOf? digits = some n)
    (hrest : ∀ c ∈ rest.head?, Text.isDigit c = false) : readDigits? (digits ++ rest) =
      some (digits, rest) := by
  obtain ⟨hne, hdigits, -⟩ := Text.natOf?_eq_some_iff.mp h
  have hall : ∀ c ∈ digits, Text.isDigit c = true :=
    fun c hc => Text.isDigit_of_isAsciiDigit (hdigits c hc)
  have hend : rest.takeWhile Text.isDigit = [] ∧ rest.dropWhile Text.isDigit = rest := by
    cases rest with
    | nil => exact ⟨rfl, rfl⟩
    | cons c rest => simp [hrest c rfl]
  rw [readDigits?, List.takeWhile_append_of_pos hall, List.dropWhile_append_of_pos hall,
    hend.1, hend.2, List.append_nil]
  exact if_neg (mt List.isEmpty_iff.mp hne)

/-- A number is read up to the first character that is no digit. -/
theorem readSigned?_append {token : List Char} {n : Int} (h : Text.IsDecimal n token)
    (hrest : ∀ c ∈ rest.head?, Text.isDigit c = false) : readSigned? (token ++ rest) =
      some (token, rest) := by
  cases h with
  | @natural n digits h =>
    obtain ⟨hne, hdigits, -⟩ := Text.natOf?_eq_some_iff.mp h
    rw [readSigned?]
    · exact readDigits?_append h hrest
    · intro behind hminus
      cases token with
      | nil => exact hne rfl
      | cons c others =>
        obtain ⟨rfl, -⟩ := List.cons.inj hminus
        exact absurd (hdigits _ List.mem_cons_self) (by decide)
  | negative h =>
    rw [List.cons_append, readSigned?, readDigits?_append h hrest]
    rfl

/-- Behind a number that stands alone there is no digit. -/
theorem not_isDigit_head?_of_isBlank {blanks : List Char}
    (h : ∀ c ∈ blanks, Text.isBlank c = true) : ∀ c ∈ blanks.head?, Text.isDigit c = false :=
  fun c hc => Text.isDigit_eq_false_of_isBlank (h c (List.mem_of_mem_head? hc))

/-- Nor is there one behind a number with a comma after it. -/
theorem not_isDigit_head?_of_comma {blanks : List Char} (h : ∀ c ∈ blanks, Text.isBlank c = true) :
    ∀ c ∈ (blanks ++ ',' :: rest).head?, Text.isDigit c = false := by
  intro c hc
  cases blanks with
  | nil =>
    cases hc
    decide
  | cons d blanks =>
    cases hc
    exact Text.isDigit_eq_false_of_isBlank (h _ List.mem_cons_self)

/-! ## Clicks -/

/-- What the arguments of a click say, if none of them is empty. -/
def clickOf (tokens : List (List Char)) : Line :=
  let numbers := tokens.filterMap Text.int32Of?
  let buttons := tokens.filter fun token => (Text.int32Of? token).isNone
  .click ((buttons.getLast?.map fun b => Text.lower (String.ofList b)).getD Action.defaultButton)
    ⟨numbers[0]?.getD 0, numbers[1]?.getD 0⟩

theorem readClick_eq (args : List Char) :
    readClick args = clickOf ((Text.pieces args).filter fun token => !token.isEmpty) := rfl

theorem ofText?_click (hline : Text.pieces line = word :: next :: others)
    (hword : Text.SpelledAs word "click")
    (hne : ∀ token ∈ next :: others, token ≠ []) : Line.ofText? (Text.trim line) =
      some (clickOf (next :: others)) := by
  obtain ⟨rest, hrest, hname⟩ := afterName?_of_pieces hline hword
  have hkept : (next :: others).filter (fun token => !token.isEmpty) = next :: others :=
    List.filter_eq_self.mpr fun token htoken => by simpa using hne token htoken
  rw [Line.ofText?, hname]
  dsimp only
  rw [readClick_eq, skipBlanks, Text.pieces_stripStart, hrest, hkept]

/-! ## Moves -/

theorem readMove?_of_pieces {x y : List Char} {m n : Int} (hrest : Text.pieces rest = [x, y])
    (hx : Text.IsDecimal m x) (hy : Text.IsDecimal n y) (hm : Text.FitsInt32 m)
    (hn : Text.FitsInt32 n) :
    readMove? (skipBlanks rest) = some (some (.move ⟨Int32.ofInt m, Int32.ofInt n⟩)) := by
  obtain ⟨blanks, behind, hstart, hblanks, hbehind⟩ := Text.stripStart_of_pieces_eq_cons_cons hrest
  obtain ⟨blanks', hstart', hblanks'⟩ := Text.stripStart_of_pieces_eq_singleton hbehind
  have hfirst : readSigned? (skipBlanks rest) = some (x, blanks ++ ',' :: behind) := by
    rw [skipBlanks, hstart]
    exact readSigned?_append hx (not_isDigit_head?_of_comma hblanks)
  have hsecond : readSigned? (skipBlanks behind) = some (y, blanks') := by
    rw [skipBlanks, hstart']
    exact readSigned?_append hy (not_isDigit_head?_of_isBlank hblanks')
  have hleft : Text.int32Of? x = some (Int32.ofInt m) := hx.int32Of?.trans (if_pos hm)
  have hright : Text.int32Of? y = some (Int32.ofInt n) := hy.int32Of?.trans (if_pos hn)
  simp only [readMove?, hfirst, afterComma?_append hblanks, hsecond, hleft, hright,
    Option.bind_eq_bind, Option.bind_some]

theorem ofText?_move {x y : List Char} {m n : Int} (hline : Text.pieces line = [word, x, y])
    (hword : Text.SpelledAs word "mousemove") (hx : Text.IsDecimal m x) (hy : Text.IsDecimal n y)
    (hm : Text.FitsInt32 m) (hn : Text.FitsInt32 n) :
    Line.ofText? (Text.trim line) = some (.move ⟨Int32.ofInt m, Int32.ofInt n⟩) := by
  obtain ⟨rest, hrest, hname⟩ := afterName?_of_pieces hline hword
  have hclick : afterName? "click" (Text.trim line) = none :=
    afterName?_eq_none hline hword (by decide) (by decide)
  rw [Line.ofText?, hclick, hname]
  dsimp only
  rw [Option.bind_some, readMove?_of_pieces hrest hx hy hm hn]

/-! ## Keys -/

theorem readSend?_of_pieces {key : List Char} (hrest : Text.pieces rest = ['{' :: (key ++ ['}'])])
    (hne : key ≠ [])
    (hkey : '}' ∉ key) : readSend? (skipBlanks rest) = some (.key (Script.mapKey key)) := by
  obtain ⟨blanks, hstart, -⟩ := Text.stripStart_of_pieces_eq_singleton hrest
  have hopen : ∀ c ∈ key, (c != '}') = true := fun c hc => bne_iff_ne.mpr fun heq => hkey (heq ▸ hc)
  have htake : (key ++ '}' :: blanks).takeWhile (· != '}') = key := by
    rw [List.takeWhile_append_of_pos hopen, List.takeWhile_cons_of_neg (by decide), List.append_nil]
  have hskip : skipBlanks rest = '{' :: (key ++ '}' :: blanks) := by
    rw [skipBlanks, hstart]
    simp
  rw [hskip, readSend?, htake]
  simp [hne]

theorem ofText?_send {key : List Char} (hline : Text.pieces line = [word, '{' :: (key ++ ['}'])])
    (hword : Text.SpelledAs word "send") (hne : key ≠ []) (hkey : '}' ∉ key) :
    Line.ofText? (Text.trim line) = some (.key (Script.mapKey key)) := by
  obtain ⟨rest, hrest, hname⟩ := afterName?_of_pieces hline hword
  have hclick : afterName? "click" (Text.trim line) = none :=
    afterName?_eq_none hline hword (by decide) (by decide)
  have hmove : afterName? "mousemove" (Text.trim line) = none :=
    afterName?_eq_none hline hword (by decide) (by decide)
  rw [Line.ofText?, hclick, hmove, hname]
  dsimp only [Option.bind_none]
  rw [Option.bind_some, readSend?_of_pieces hrest hne hkey]

/-! ## Waits -/

theorem ofText?_sleep {digits : List Char} {n : Nat} (hline : Text.pieces line = [word, digits])
    (hword : Text.SpelledAs word "sleep") (hdigits : Text.natOf? digits = some n)
    (hn : n < 0x10000000000000000) :
    Line.ofText? (Text.trim line) = some (.wait (UInt64.ofNat n)) := by
  obtain ⟨rest, hrest, hname⟩ := afterName?_of_pieces hline hword
  obtain ⟨blanks, hstart, hblanks⟩ := Text.stripStart_of_pieces_eq_singleton hrest
  have hclick : afterName? "click" (Text.trim line) = none :=
    afterName?_eq_none hline hword (by decide) (by decide)
  have hmove : afterName? "mousemove" (Text.trim line) = none :=
    afterName?_eq_none hline hword (by decide) (by decide)
  have hsend : afterName? "send" (Text.trim line) = none :=
    afterName?_eq_none hline hword (by decide) (by decide)
  have hread : readDigits? (skipBlanks rest) = some (digits, blanks) := by
    rw [skipBlanks, hstart]
    exact readDigits?_append hdigits (not_isDigit_head?_of_isBlank hblanks)
  have hcount : readCount? .wait (skipBlanks rest) = some (some (.wait (UInt64.ofNat n))) := by
    simp only [readCount?, hread, Text.word64Of?_of_natOf? hdigits hn, Option.bind_eq_bind,
      Option.bind_some, Option.map_some]
  rw [Line.ofText?, hclick, hmove, hsend, hname]
  dsimp only [Option.bind_none]
  rw [Option.bind_some, hcount]

/-! ## Macros -/

/-- A line that begins with a letter is passed over by no rule. -/
theorem macroLines_of_pieces (hfeed : '\n' ∉ line)
    (hline : Text.pieces line = word :: next :: others)
    (hword : Text.SpelledAs word name) (hname : name ≠ "") :
    macroLines line = (Line.ofText? (Text.trim line)).toList := by
  obtain ⟨blanks, rest, htrim, -, -⟩ := Text.trim_of_pieces_eq_cons_cons hline
  cases word with
  | nil => exact absurd rfl (hword.ne_nil hname)
  | cons c word =>
    have hletter : Text.isAsciiLetter c = true := hword.letters c List.mem_cons_self
    have hsemicolon : c ≠ ';' := by
      rintro rfl
      exact absurd hletter (by decide)
    have hsign : c ≠ '#' := by
      rintro rfl
      exact absurd hletter (by decide)
    have hne : line ≠ [] := by
      rintro rfl
      cases htrim
    rw [macroLines, Text.lines_of_notMem hfeed, if_neg hne, List.map_singleton, htrim,
      List.cons_append, List.filterMap_cons]
    dsimp only
    rw [if_neg (by simp [hsemicolon, hsign])]
    cases Line.ofText? (c :: (word ++ (blanks ++ ',' :: rest))) <;> rfl

/-- **A macro of one line has the action of what the line says.** -/
theorem actions_importText {text : String} {said : Line} (stamp : Stamp) (boardName : String)
    (hfeed : '\n' ∉ text.toList) (hline : Text.pieces text.toList = word :: next :: others)
    (hword : Text.SpelledAs word name) (hname : name ≠ "")
    (hsaid : Line.ofText? (Text.trim text.toList) = some said) :
    (importText stamp boardName text).rows.map Row.actions =
      [[said.toAction (stamp.identifier "action" 2)]] := by
  have hlines : macroLines text.toList = [said] := by
    rw [macroLines_of_pieces hfeed hline hword hname, hsaid]
    rfl
  rw [importText, hlines]
  rfl

end ActionBoard.Macro
