import ActionBoard.Proofs.Macro.Clicks
import ActionBoard.Proofs.Script.Commas

/-!
# Macros and scripts agree

A line with a comma behind its name is a line of a macro, and it is also a command of a script.  The
two are read in different ways: one by patterns, from left to right, the other by what every command
of a script has, which are a name and arguments.  What the line asks for is said here once, without
either of them, and both are found to do that.

* `Action.gesture`: what an action does, without its identifier and its label.
* `Asks`: what a line asks for, by its name and its arguments.
* `gesture_toAction_of_asks`, `gesture_builtinCommand_of_asks`: what each of the readers makes of
  it.
* `imports_agree`: both imports of such a line have one action, for the same gesture.
-/

namespace ActionBoard

variable {word token : List Char} {args : List (List Char)} {m n : Int} {name : String}

/-! ## Gestures -/

/-- What an action does with the pointer and the keyboard, or how long it waits. -/
structure Gesture where
  kind : ActionKind
  coordinates : Option Coordinates := none
  button : String := Action.defaultButton
  key : Option String := none
  wait : Option Value := none

/-- The gesture of an action. -/
def Action.gesture (a : Action) : Gesture where
  kind := a.kind
  coordinates := a.coordinates
  button := a.button
  key := a.key
  wait := a.metadata.find? "wait_ms"

/-- The names of mouse buttons that are written out. -/
def buttonNames : List String := ["left", "right", "middle"]

/-- What a line asks for, by its name and its arguments. -/
inductive Asks : List Char → List (List Char) → Gesture → Prop
  | sleep {word digits : List Char} {n : Nat} (hword : Text.SpelledAs word "sleep")
      (hdigits : Text.natOf? digits = some n) (hn : n < 0x8000000000000000) :
      Asks word [digits] { kind := .waitTime, wait := some (.nat n) }
  | move {word x y : List Char} {m n : Int} (hword : Text.SpelledAs word "mousemove")
      (hx : Text.IsDecimal m x)
      (hy : Text.IsDecimal n y) (hm : Text.FitsInt32 m) (hn : Text.FitsInt32 n) :
      Asks word [x, y] { kind := .mouseMove, coordinates := some (.ofInts m n) }
  /-- The button may stand anywhere, or it is the left one. -/
  | click {word x y : List Char} {named : Option (List Char)} {tokens : List (List Char)}
      {m n : Int} {button : String}
      (hword : Text.SpelledAs word "click") (hargs : Macro.ClickArguments x y named tokens)
        (hx : Text.IsDecimal m x)
      (hy : Text.IsDecimal n y) (hm : Text.FitsInt32 m) (hn : Text.FitsInt32 n)
      (hbutton : Macro.NamesButton named button) (hknown : button ∈ buttonNames) :
      Asks word tokens { kind := .mouseClick, coordinates := some (.ofInts m n), button }
  | send {word key : List Char} (hword : Text.SpelledAs word "send") (hne : key ≠ [])
      (hkey : ∀ c ∈ key, c ∉ ['{', '}', ',', '"', ':', ';']) :
      Asks word ['{' :: (key ++ ['}'])] { kind := .keyPress, key := some (Script.mapKey key) }

/-! ## Arguments of scripts -/

namespace Script

/-- An argument in which nothing has to be cut off and nothing keeps anything together. -/
structure IsBare (token : List Char) : Prop where
  ne_nil : token ≠ []
  chars : ∀ c ∈ token, Text.isBlank c = false ∧ isMarking c = false ∧ c ≠ ':'

theorem isBare_of_isDecimal (h : Text.IsDecimal n token) : IsBare token :=
  ⟨h.ne_nil, h.forall_mem (by decide) (by decide)⟩

theorem isBare_of_spelledAs (h : Text.SpelledAs token name) (hname : name ≠ "") : IsBare token := by
  refine ⟨h.ne_nil hname, fun c hc => ?_⟩
  have hword : Text.isWord c = true := Text.isWord_of_isAsciiLetter (h.letters c hc)
  refine ⟨Text.isBlank_eq_false_of_isWord hword,
    isMarking_eq_false_of_isLabelChar (by rw [isLabelChar, hword, Bool.true_or]), ?_⟩
  rintro rfl
  exact absurd hword (by decide)

theorem IsBare.trim_eq_self (h : IsBare token) : Text.trim token = token :=
  Text.strip_eq_self fun c hc => (h.chars c hc).1

/-- There are no quotes around a bare argument. -/
theorem IsBare.strip_eq_self (h : IsBare token) : Text.strip (· == '"') token = token := by
  refine Text.strip_eq_self fun c hc => beq_eq_false_iff_ne.mpr ?_
  rintro rfl
  exact absurd (h.chars _ hc).2.1 (by decide)

theorem IsBare.intArgument? (h : IsBare token) :
    intArgument? (String.ofList token) = Text.int64Of? token := by
  rw [Script.intArgument?, String.toList_ofList, h.trim_eq_self, h.strip_eq_self, h.trim_eq_self]

theorem intArgument?_of_isDecimal (h : Text.IsDecimal n token)
    (hn : -0x8000000000000000 ≤ n ∧ n < 0x8000000000000000) :
    intArgument? (String.ofList token) = some n := by
  rw [(isBare_of_isDecimal h).intArgument?, h.int64Of? hn]

/-- A name is no number. -/
theorem intArgument?_of_namesButton {named : Option (List Char)} {button : String}
    (h : Macro.NamesButton named button) : ∀ b ∈ named,
      (intArgument? ∘ String.ofList) b = none := by
  cases h with
  | left => exact fun _ hb => nomatch hb
  | word hb hne =>
    rintro _ ⟨⟩
    rw [Function.comp_apply, (isBare_of_spelledAs hb hne).intArgument?, Text.int64Of?,
      hb.boundedInt?_eq_none]

theorem buttonOf?_of_spelledAs (h : Text.SpelledAs token name) (hname : name ∈ buttonNames) :
    buttonOf? (String.ofList token) = some name := by
  simp only [buttonNames, List.mem_cons, List.not_mem_nil, or_false] at hname
  have hbare : IsBare token :=
    isBare_of_spelledAs h (by rcases hname with rfl | rfl | rfl <;> decide)
  rw [buttonOf?, String.toList_ofList, hbare.trim_eq_self, hbare.strip_eq_self, h.lower]
  rcases hname with rfl | rfl | rfl <;> decide

theorem buttonOf?_of_namesButton {named : Option (List Char)} {button : String}
    (h : Macro.NamesButton named button) (hknown : button ∈ buttonNames) :
    (named.bind (buttonOf? ∘ String.ofList)).getD Action.defaultButton = button := by
  cases h with
  | left => rfl
  | word hb =>
    rw [Option.bind_some, Function.comp_apply, buttonOf?_of_spelledAs hb hknown, Option.getD_some]

/-- A number names no button, since each of their names has one of three letters in it. -/
theorem buttonOf?_of_isDecimal (h : Text.IsDecimal n token) :
    (buttonOf? ∘ String.ofList) token = none := by
  have hbare : IsBare token := isBare_of_isDecimal h
  have hascii : ∀ c ∈ token, c.toNat < 0x80 := h.forall_mem (by decide) (by decide)
  have hletters : ∀ c ∈ token, Text.asciiLower c ∉ ['l', 'r', 'm'] :=
    h.forall_mem (by decide) (by decide)
  have hne : ∀ (button : String) (c : Char), c ∈ button.toList → c ∈ ['l', 'r', 'm'] →
      String.ofList (token.map Text.asciiLower) ≠ button := by
    rintro button c hc hletter rfl
    rw [String.toList_ofList, List.mem_map] at hc
    obtain ⟨d, hd, rfl⟩ := hc
    exact hletters d hd hletter
  rw [Function.comp_apply, buttonOf?, String.toList_ofList, hbare.trim_eq_self, hbare.strip_eq_self,
    Text.lower_ofList_of_ascii hascii]
  have hleft := hne "left" 'l' (by decide) (by decide)
  have hl := hne "l" 'l' (by decide) (by decide)
  have hright := hne "right" 'r' (by decide) (by decide)
  have hr := hne "r" 'r' (by decide) (by decide)
  have hmiddle := hne "middle" 'm' (by decide) (by decide)
  have hm := hne "m" 'm' (by decide) (by decide)
  simp only [hleft, hl, hright, hr, hmiddle, hm, decide_false, Bool.or_self,
    Bool.false_eq_true, if_false]

/-- What a line asks for is written in bare arguments, or in one argument with braces around it. -/
theorem isBare_or_of_asks {g : Gesture} (h : Asks word args g) :
    (∀ token ∈ args, IsBare token) ∨
      ∃ key, args = ['{' :: (key ++ ['}'])] ∧ ∀ c ∈ key, c ∉ ['{', '}', ',', '"', ':', ';'] := by
  cases h with
  | sleep hword hdigits hn =>
    exact .inl (List.forall_mem_singleton.mpr (isBare_of_isDecimal (.natural hdigits)))
  | move hword hx hy =>
    exact .inl (List.forall_mem_cons.mpr
      ⟨isBare_of_isDecimal hx, List.forall_mem_singleton.mpr (isBare_of_isDecimal hy)⟩)
  | click hword hargs hx hy hm hn hbutton =>
    refine .inl fun token htoken => ?_
    rcases (hargs.mem_iff token).mp htoken with rfl | rfl | hnamed
    · exact isBare_of_isDecimal hx
    · exact isBare_of_isDecimal hy
    · cases hbutton with
      | left => cases hnamed
      | word hb hne =>
        cases hnamed
        exact isBare_of_spelledAs hb hne
  | send hword hne hkey => exact .inr ⟨_, rfl, hkey⟩

/-- **The arguments of the command are those of the line.** -/
theorem arguments_of_asks {rest : List Char} {g : Gesture} (hrest : Text.pieces rest = args)
    (h : Asks word args g) : arguments rest = args.map String.ofList := by
  rcases isBare_or_of_asks h with hbare | ⟨key, rfl, -⟩
  · rw [← hrest]
    refine arguments_of_unmarked fun piece hpiece => ?_
    rw [hrest] at hpiece
    exact ⟨(hbare piece hpiece).ne_nil, fun c hc => ((hbare piece hpiece).chars c hc).2.1⟩
  · obtain ⟨hcomma, htrim⟩ := Text.notMem_of_pieces_eq_singleton hrest
    rw [arguments_of_notMem hcomma (htrim ▸ List.cons_ne_nil _ _), htrim]
    rfl

/-- Nothing in the line is a comment or a label. -/
theorem plain_of_asks {g : Gesture} (hword : IsBare word) (h : Asks word args g) :
    ∀ piece ∈ word :: args, ':' ∉ piece ∧ ';' ∉ piece := by
  have hbare : ∀ {token : List Char}, IsBare token → ':' ∉ token ∧ ';' ∉ token :=
    fun {token} htoken =>
    ⟨fun hmem => (htoken.chars _ hmem).2.2 rfl,
      fun hmem => absurd (htoken.chars _ hmem).2.1 (by decide)⟩
  refine List.forall_mem_cons.mpr ⟨hbare hword, ?_⟩
  rcases isBare_or_of_asks h with hargs | ⟨key, rfl, hkey⟩
  · exact fun piece hpiece => hbare (hargs piece hpiece)
  · have hcolon : ':' ∉ key := fun hmem => hkey _ hmem (by decide)
    have hsemicolon : ';' ∉ key := fun hmem => hkey _ hmem (by decide)
    simp [hcolon, hsemicolon]

end Script

/-! ## Macros -/

/-- **A line of a macro says what it asks for.** -/
theorem Macro.ofText?_of_asks {line : List Char} {g : Gesture}
    (hline : Text.pieces line = word :: args)
    (h : Asks word args g) : ∃ said, Line.ofText? (Text.trim line) = some said ∧ ∀ id,
      (said.toAction id).gesture = g := by
  cases h with
  | sleep hword hdigits hn =>
    refine ⟨_, ofText?_sleep hline hword hdigits (by omega), fun id => ?_⟩
    simp [Line.toAction, Action.gesture, Action.withMeta, Action.new, Value.word, Value.nat,
      WideInt.ofNat]
  | move hword hx hy hm hn => exact ⟨_, ofText?_move hline hword hx hy hm hn, fun _ => rfl⟩
  | click hword hargs hx hy hm hn hbutton =>
    refine ⟨_, ofText?_click_of_arguments hline hword hargs hx hy hbutton, fun _ => ?_⟩
    rw [buttonOf_of_fits hargs hx hy hbutton hm hn, fitting_eq_self hm hn]
    rfl
  | send hword hne hkey =>
    exact ⟨_, ofText?_send hline hword hne fun hmem => hkey _ hmem (by decide), fun _ => rfl⟩

/-! ## Scripts -/

namespace Script

variable {c : Command}

theorem gesture_builtinCommand_click (hname : Text.lower c.name = "click") :
    (builtinCommand c).1.gesture =
      { kind := .mouseClick, coordinates := some (pointArgument c).1,
        button := buttonArgument c.args } := by
  simp only [builtinCommand, hname]
  rfl

theorem gesture_builtinCommand_move (hname : Text.lower c.name = "mousemove") :
    (builtinCommand c).1.gesture =
      { kind := .mouseMove, coordinates := some (pointArgument c).1 } := by
  simp only [builtinCommand, hname]
  rfl

theorem gesture_builtinCommand_send (hname : Text.lower c.name = "send") {argument : List Char}
    (hargs : c.args = [String.ofList argument]) :
    (builtinCommand c).1.gesture = { kind := .keyPress, key := some (mapSentKey argument) } := by
  simp only [builtinCommand, hname, hargs, List.head?_cons, Option.map_some, Option.getD_some,
    String.toList_ofList]
  rfl

theorem gesture_builtinCommand_sleep (hname : Text.lower c.name = "sleep")
    {argument : String} {n : Nat}
    (hargs : c.args = [argument]) (hn : intArgument? argument = some (n : Int)) :
    (builtinCommand c).1.gesture = { kind := .waitTime, wait := some (intValue n) } := by
  have hmax : max (n : Int) 0 = n := Int.max_eq_left (Int.natCast_nonneg n)
  simp only [builtinCommand, hname, hargs, List.getElem?_cons_zero, Option.bind_some, hn]
  rw [Option.getD_some, hmax]
  simp [waitAction, Action.gesture, Action.withMeta, Action.new]

theorem pointArgument_of_numbers (hargs : c.args.filterMap intArgument? = [m, n])
    (hm : Text.FitsInt32 m) (hn : Text.FitsInt32 n) : (pointArgument c).1 = .ofInts m n := by
  have hcoordinate : ∀ {k : Int}, Text.FitsInt32 k → coordinate c k =
      (.ofInt k, []) := fun {k} hk =>
    if_pos (by simpa [Text.FitsInt32] using hk)
  rw [pointArgument, hargs]
  simp only [hcoordinate hm, hcoordinate hn]
  rfl

theorem int64_of_fitsInt32 (h : Text.FitsInt32 n) :
    -0x8000000000000000 ≤ n ∧ n < 0x8000000000000000 := by
  obtain ⟨hlow, hhigh⟩ := h
  omega

/-- A natural number below half of the words is the same value in both of the ways to make one. -/
theorem intValue_natCast {n : Nat} (hn : n < 0x8000000000000000) : intValue n = .nat n := by
  have hrange : -0x8000000000000000 ≤ (n : Int) ∧ (n : Int) < 0x10000000000000000 := by omega
  have hword : (UInt64.ofNat n).toNat = n := UInt64.toNat_ofNat_of_lt' (by rw [UInt64.size]; omega)
  rw [intValue, WideInt.ofInt?, dif_pos hrange, Option.map_some, Option.getD_some, Value.nat,
    WideInt.ofNat]
  simp only [WideInt.ofWord, hword]

/-- Braces around a key are taken off. -/
theorem mapKey_braces {key : List Char}
    (h : '{' ∉ key) : mapKey ('{' :: (key ++ ['}'])) = mapKey key := by
  have hinner : withoutBraces key = key := by
    cases key with
    | nil => rfl
    | cons c rest =>
      rw [withoutBraces]
      rintro other heq
      exact h (heq ▸ List.mem_cons_self)
  have houter : withoutBraces ('{' :: (key ++ ['}'])) = key := by simp [withoutBraces]
  rw [mapKey, mapKey, keyParts, keyParts, houter, hinner]

theorem mapSentKey_braces {key : List Char} (hquote : '"' ∉ key) (hbrace : '{' ∉ key) :
    mapSentKey ('{' :: (key ++ ['}'])) = mapKey key := by
  have htrim : Text.trim ('{' :: (key ++ ['}'])) = '{' :: (key ++ ['}']) := by
    refine Text.trim_eq_self ?_ ?_
    · rintro c ⟨⟩
      decide
    · intro c hc
      rw [← List.cons_append, List.getLast?_concat] at hc
      cases hc
      decide
  have hstrip : Text.strip (· == '"') ('{' :: (key ++ ['}'])) = '{' :: (key ++ ['}']) := by
    refine Text.strip_eq_self fun c hc => beq_eq_false_iff_ne.mpr ?_
    rintro rfl
    simp [hquote] at hc
  rw [mapSentKey, htrim, hstrip, mapKey_braces hbrace]

/-- **A command of a script does what its line asks for.** -/
theorem gesture_builtinCommand_of_asks {g : Gesture} (hname : c.name = String.ofList word)
    (hargs : c.args = args.map String.ofList) (h : Asks word args g) :
    (builtinCommand c).1.gesture = g := by
  have hlower : ∀ {name : String}, Text.SpelledAs word name → Text.lower c.name = name :=
    fun hword => by
    rw [hname, hword.lower]
  cases h with
  | @sleep digits n hword hdigits hn =>
    have hnumber : intArgument? (String.ofList digits) = some (n : Int) :=
      intArgument?_of_isDecimal (.natural hdigits) ⟨by omega, by omega⟩
    rw [gesture_builtinCommand_sleep (hlower hword) hargs hnumber, intValue_natCast hn]
  | @move x y m n hword hx hy hm hn =>
    have hpoint : c.args.filterMap intArgument? = [m, n] := by
      rw [hargs, List.filterMap_map]
      simp [intArgument?_of_isDecimal hx (int64_of_fitsInt32 hm),
        intArgument?_of_isDecimal hy (int64_of_fitsInt32 hn)]
    rw [gesture_builtinCommand_move (hlower hword), pointArgument_of_numbers hpoint hm hn]
  | click hword placed hx hy hm hn hbutton hknown =>
    rename_i x y named m n button
    have hpoint : c.args.filterMap intArgument? = [m, n] := by
      rw [hargs, List.filterMap_map, placed.filterMap (intArgument?_of_namesButton hbutton)]
      simp [intArgument?_of_isDecimal hx (int64_of_fitsInt32 hm),
        intArgument?_of_isDecimal hy (int64_of_fitsInt32 hn)]
    have hfound : buttonArgument c.args = button := by
      rw [hargs, buttonArgument, List.findSome?_map,
        placed.findSome? (buttonOf?_of_isDecimal hx) (buttonOf?_of_isDecimal hy),
        buttonOf?_of_namesButton hbutton hknown]
    rw [gesture_builtinCommand_click (hlower hword), pointArgument_of_numbers hpoint hm hn, hfound]
  | @send key hword hne hkey =>
    have hquote : '"' ∉ key := fun hmem => hkey _ hmem (by decide)
    have hbrace : '{' ∉ key := fun hmem => hkey _ hmem (by decide)
    rw [gesture_builtinCommand_send (hlower hword) hargs, mapSentKey_braces hquote hbrace]

end Script

/-! ## Both imports -/

/-- The name of a line that asks for something. -/
theorem Asks.exists_name {g : Gesture} (h : Asks word args g) :
    ∃ name, Text.SpelledAs word name ∧ name ≠ "" ∧ ∃ c ∈ name.toList.head?, c ≠ '#' ∧ c ≠ 'g' := by
  cases h with
  | sleep hword => exact ⟨_, hword, by decide, 's', rfl, by decide⟩
  | move hword => exact ⟨_, hword, by decide, 'm', rfl, by decide⟩
  | click hword => exact ⟨_, hword, by decide, 'c', rfl, by decide⟩
  | send hword => exact ⟨_, hword, by decide, 's', rfl, by decide⟩

/-- It has arguments. -/
theorem Asks.exists_cons {g : Gesture} (h : Asks word args g) :
    ∃ next others, args = next :: others := by
  cases h with
  | sleep | move | send => exact ⟨_, _, rfl⟩
  | click hword hargs => exact hargs.exists_cons

/-- **Both imports agree.**  Let a line ask for a wait, a move of the pointer, a click or a key,
with its command in any case and with white space anywhere around its commas.  Imported as a macro,
and also as a script, it is a board of one row with one action, and the gestures of both actions are
the one that it asks for. -/
theorem imports_agree (stamp : Stamp) (boardName id : String) (now : UtcTime)
    {text : String} {g : Gesture}
    (hfeed : '\n' ∉ text.toList) (hline : Text.pieces text.toList = word :: args)
    (h : Asks word args g) :
    ∃ a b : Action, (Macro.importText stamp boardName text).rows.map Row.actions = [[a]] ∧
      ((Script.ofText text).toBoard id boardName now).rows.map Row.actions = [[b]] ∧
      a.gesture = g ∧ b.gesture = g := by
  obtain ⟨name, hword, hname, hfirst⟩ := h.exists_name
  obtain ⟨next, others, rfl⟩ := h.exists_cons
  obtain ⟨said, hsaid, hmacro⟩ := Macro.ofText?_of_asks hline h
  have hplain := Script.plain_of_asks (Script.isBare_of_spelledAs hword hname) h
  rw [← hline] at hplain
  obtain ⟨rest, hrest, hscript⟩ := Script.actions_toBoard_of_pieces id boardName now hfeed hline
    (Script.isPlainName_of_spelledAs hword hfirst) hplain
  rw [Script.arguments_of_asks hrest h] at hscript
  exact ⟨_, _, Macro.actions_importText stamp boardName hfeed hline hword hname hsaid,
    hscript, hmacro _,
    Script.gesture_builtinCommand_of_asks rfl rfl h⟩

/-- A click with its button in front of its numbers. -/
theorem imports_agree_of_middle :
    let text := "cLICK\t,Middle , -5,007 "
    ∃ a b : Action, (Macro.importText Macro.firstStamp "" text).rows.map Row.actions = [[a]] ∧
      ((Script.ofText text).toBoard "board" "" .epoch).rows.map Row.actions = [[b]] ∧
        a.gesture = b.gesture ∧
      b.gesture = { kind := .mouseClick, coordinates := some ⟨-5, 7⟩, button := "middle" } := by
  intro text
  have hfeed : '\n' ∉ text.toList := by decide
  have hline : Text.pieces text.toList =
      ["cLICK".toList, "Middle".toList, "-5".toList, "007".toList] := by decide
  have hx : Text.IsDecimal (-5) "-5".toList := .negative (n := 5) (by decide)
  have hy : Text.IsDecimal 7 "007".toList := .natural (n := 7) (by decide)
  have hbutton : Macro.NamesButton (some "Middle".toList) "middle" := .word (by decide) (by decide)
  have hasks : Asks "cLICK".toList ["Middle".toList, "-5".toList, "007".toList]
      { kind := .mouseClick, coordinates := some (.ofInts (-5) 7), button := "middle" } :=
    .click (by decide) .before hx hy (by decide) (by decide) hbutton (by decide)
  obtain ⟨a, b, hmacro, hscript, ha, hb⟩ :=
    imports_agree Macro.firstStamp "" "board" .epoch hfeed hline hasks
  exact ⟨a, b, hmacro, hscript, ha.trans hb.symm, hb⟩

end ActionBoard
