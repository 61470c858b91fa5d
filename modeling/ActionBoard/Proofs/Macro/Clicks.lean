import ActionBoard.Proofs.Macro.Lines

/-!
# Clicks of macros

The arguments of a click are told apart by one question, which is whether they are numbers of 32
bits.  Those that are become coordinates, in their order, and the last one that is not is the name
of the button.  The question has two negative answers, though: a word is no such number, and neither
is a number that is too large.  So a number that does not fit is taken for the button, unless a name
stands behind it, and the other number moves up into its place.

* `ClickArguments`: two numbers, with the name of a button anywhere among them or without one.
* `fitting`, `strangers`: the numbers that become coordinates, and the arguments one of
  which is the button.
* `clicks_are_exact_iff_numbers_fit`: every such line is one click, and it is the one that the line
  asks for exactly if both numbers fit.
* `large_number_becomes_button`: a line for which it is not.
-/

namespace ActionBoard

/-- The point with these coordinates, each reduced to 32 bits. -/
def Coordinates.ofInts (m n : Int) : Coordinates := ⟨.ofInt m, .ofInt n⟩

/-- The coordinates of a point are these numbers. -/
structure Coordinates.Are (place : Coordinates) (m n : Int) : Prop where
  x : place.x.toInt = m
  y : place.y.toInt = n

theorem Coordinates.are_ofInts {m n : Int} (hm : Text.FitsInt32 m) (hn : Text.FitsInt32 n) :
    (Coordinates.ofInts m n).Are m n :=
  ⟨(toInt_ofInt_eq_self_iff m).mpr hm, (toInt_ofInt_eq_self_iff n).mpr hn⟩

theorem fitsInt32_toInt (n : Int32) : Text.FitsInt32 n.toInt :=
  ⟨Int32.le_toInt n, Int32.toInt_lt n⟩

namespace Macro

variable {word x y : List Char} {named : Option (List Char)} {tokens : List (List Char)} {m n : Int}
  {button : String}

/-! ## Arguments -/

/-- The arguments of a click: two numbers, and maybe one more, anywhere. -/
inductive ClickArguments (x y : List Char) : Option (List Char) → List (List Char) → Prop
  | bare : ClickArguments x y none [x, y]
  | before {b : List Char} : ClickArguments x y (some b) [b, x, y]
  | between {b : List Char} : ClickArguments x y (some b) [x, b, y]
  | behind {b : List Char} : ClickArguments x y (some b) [x, y, b]

/-- The button that is named, in small letters; the left one, if none is. -/
inductive NamesButton : Option (List Char) → String → Prop
  | left : NamesButton none Action.defaultButton
  | word {b : List Char} {button : String} (hb : Text.SpelledAs b button) (hne : button ≠ "") :
      NamesButton (some b) button

namespace ClickArguments

theorem mem_iff (h : ClickArguments x y named tokens) (token : List Char) :
    token ∈ tokens ↔ token = x ∨ token = y ∨ token ∈ named := by
  cases h <;> simp only [List.mem_cons, List.not_mem_nil, or_false, Option.mem_def, Option.some_inj,
    reduceCtorEq] <;>
    tauto

theorem exists_cons (h : ClickArguments x y named tokens) :
    ∃ next others, tokens = next :: others := by
  cases h <;> exact ⟨_, _, rfl⟩

/-- Where the name is left out, the numbers are left. -/
theorem filterMap {β : Type} (h : ClickArguments x y named tokens) {f : List Char → Option β}
    (hnamed : ∀ b ∈ named, f b = none) : tokens.filterMap f = [x, y].filterMap f := by
  cases h with
  | bare => rfl
  | before | between | behind => simp [List.filterMap_cons, hnamed _ rfl]

/-- Where the numbers are left out, the name is left. -/
theorem filter (h : ClickArguments x y named tokens) {p : List Char → Bool} (hx : p x = false)
    (hy : p y = false) (hnamed : ∀ b ∈ named, p b = true) : tokens.filter p = named.toList := by
  cases h with
  | bare => simp [hx, hy]
  | before | between | behind => simp [hx, hy, hnamed _ rfl]

/-- The name is found, wherever it stands. -/
theorem findSome? {β : Type} (h : ClickArguments x y named tokens) {f : List Char → Option β}
    (hx : f x = none) (hy : f y = none) : tokens.findSome? f = named.bind f := by
  cases h with
  | bare => simp [hx, hy]
  | @before b | @between b | @behind b => cases hb : f b <;> simp [hx, hy, hb]

end ClickArguments

theorem NamesButton.int32Of?_eq_none (h : NamesButton named button) :
    ∀ b ∈ named, Text.int32Of? b = none := by
  cases h with
  | left => exact fun _ hb => nomatch hb
  | word hb =>
    rintro _ ⟨⟩
    rw [Text.int32Of?, hb.boundedInt?_eq_none]
    rfl

/-! ## What they are taken for -/

/-- The numbers that have 32 bits with a sign. -/
def fitting (numbers : List Int) : List Int :=
  numbers.filter fun n => Text.FitsInt32 n

/-- The arguments that are read as no such number. -/
def strangers (tokens : List (List Char)) : List (List Char) :=
  tokens.filter fun token => (Text.int32Of? token).isNone

/-- The last of these, in small letters. -/
def buttonOf (tokens : List (List Char)) : String :=
  ((strangers tokens).getLast?.map fun token => Text.lower (String.ofList token)).getD
    Action.defaultButton

theorem fitting_eq_self (hm : Text.FitsInt32 m) (hn : Text.FitsInt32 n) :
    fitting [m, n] = [m, n] := by
  simp [fitting, hm, hn]

/-- A click is at the numbers that fit, with zeros for those that are missing. -/
theorem clickOf_of_arguments (h : ClickArguments x y named tokens) (hx : Text.IsDecimal m x)
    (hy : Text.IsDecimal n y) (hbutton : NamesButton named button) :
    clickOf tokens =
      .click (buttonOf tokens)
        (.ofInts ((fitting [m, n])[0]?.getD 0) ((fitting [m, n])[1]?.getD 0)) := by
  have hnumbers : tokens.filterMap Text.int32Of? = (fitting [m, n]).map Int32.ofInt := by
    rw [h.filterMap hbutton.int32Of?_eq_none]
    by_cases hm : Text.FitsInt32 m <;> by_cases hn : Text.FitsInt32 n <;>
      simp [hx.int32Of?, hy.int32Of?, fitting, hm, hn]
  have hzero : (0 : Int32) = .ofInt 0 := rfl
  rw [clickOf, hnumbers, List.getElem?_map, List.getElem?_map, hzero, Option.getD_map,
    Option.getD_map]
  rfl

/-- If the numbers fit, they do not get into the way of the name. -/
theorem buttonOf_of_fits (h : ClickArguments x y named tokens) (hx : Text.IsDecimal m x)
    (hy : Text.IsDecimal n y)
    (hbutton : NamesButton named button) (hm : Text.FitsInt32 m) (hn : Text.FitsInt32 n) :
    buttonOf tokens = button := by
  have hnumber : ∀ {k : Int} {token : List Char}, Text.IsDecimal k token → Text.FitsInt32 k →
      (Text.int32Of? token).isNone = false := by
    intro k token hk hfits
    rw [hk.int32Of?, if_pos hfits]
    rfl
  have hstrangers : strangers tokens = named.toList :=
    h.filter (hnumber hx hm) (hnumber hy hn) fun b hb => by rw [hbutton.int32Of?_eq_none b hb]; rfl
  rw [buttonOf, hstrangers]
  cases hbutton with
  | left => rfl
  | word hb => exact hb.lower

/-- **What the line of a click says.** -/
theorem ofText?_click_of_arguments {line : List Char} (hline : Text.pieces line = word :: tokens)
    (hword : Text.SpelledAs word "click") (h : ClickArguments x y named tokens)
    (hx : Text.IsDecimal m x) (hy : Text.IsDecimal n y) (hbutton : NamesButton named button) :
    Line.ofText? (Text.trim line) =
      some (.click (buttonOf tokens)
        (.ofInts ((fitting [m, n])[0]?.getD 0) ((fitting [m, n])[1]?.getD 0))) := by
  have hne : ∀ token ∈ tokens, token ≠ [] := by
    intro token htoken
    rcases (h.mem_iff token).mp htoken with rfl | rfl | hnamed
    · exact hx.ne_nil
    · exact hy.ne_nil
    · cases hbutton with
      | left => cases hnamed
      | word hb hname =>
        cases hnamed
        exact hb.ne_nil hname
  rw [← clickOf_of_arguments h hx hy hbutton]
  obtain ⟨next, others, rfl⟩ := h.exists_cons
  exact ofText?_click hline hword hne

/-! ## Clicks -/

/-- **A click is exact if its numbers fit, and only then.**  Let a line be a click with two numbers,
and with the name of a button anywhere among them or without one.  The macro of this line has one
action, a click.  It is at the numbers that have 32 bits, with zeros for those that are missing, and
its button is the last argument that is no such number.  This is the place and the button that the
line asks for if both numbers fit, and not otherwise. -/
theorem clicks_are_exact_iff_numbers_fit (stamp : Stamp) (boardName : String) {text : String}
    (hfeed : '\n' ∉ text.toList) (hline : Text.pieces text.toList = word :: tokens)
    (hword : Text.SpelledAs word "click") (hargs : ClickArguments x y named tokens)
    (hx : Text.IsDecimal m x) (hy : Text.IsDecimal n y) (hbutton : NamesButton named button) :
    ∃ a, (importText stamp boardName text).rows.map Row.actions = [[a]] ∧ a.kind = .mouseClick ∧
      a.coordinates = some (.ofInts ((fitting [m, n])[0]?.getD 0) ((fitting [m, n])[1]?.getD 0)) ∧
      a.button = buttonOf tokens ∧
      ((∃ place, a.coordinates = some place ∧ place.Are m n ∧ a.button = button) ↔
        Text.FitsInt32 m ∧ Text.FitsInt32 n) := by
  obtain ⟨next, others, rfl⟩ := hargs.exists_cons
  have hsaid := ofText?_click_of_arguments hline hword hargs hx hy hbutton
  refine ⟨_, actions_importText stamp boardName hfeed hline hword (by decide) hsaid,
    rfl, rfl, rfl, ?_⟩
  constructor
  · rintro ⟨place, -, hplace, -⟩
    exact ⟨hplace.x ▸ fitsInt32_toInt place.x, hplace.y ▸ fitsInt32_toInt place.y⟩
  · rintro ⟨hm, hn⟩
    refine ⟨_, rfl, ?_, buttonOf_of_fits hargs hx hy hbutton hm hn⟩
    rw [fitting_eq_self hm hn]
    exact Coordinates.are_ofInts hm hn

/-- The stamp that the first identifiers are made with. -/
def firstStamp : Stamp := ⟨.epoch, 0, 0, 0⟩

/-- A click whose button stands behind its numbers. -/
theorem clicks_are_exact_iff_numbers_fit_of_right :
    let text := " cLICK ,-10, 0020,\tRight"
    ∃ a, (importText firstStamp "" text).rows.map Row.actions = [[a]] ∧
      (∃ place, a.coordinates = some place ∧ place.Are (-10) 20 ∧ a.button = "right") := by
  intro text
  have hfeed : '\n' ∉ text.toList := by decide
  have hline : Text.pieces text.toList =
      ["cLICK".toList, "-10".toList, "0020".toList, "Right".toList] := by decide
  have hx : Text.IsDecimal (-10) "-10".toList := .negative (n := 10) (by decide)
  have hy : Text.IsDecimal 20 "0020".toList := .natural (n := 20) (by decide)
  have hbutton : NamesButton (some "Right".toList) "right" := .word (by decide) (by decide)
  obtain ⟨a, hactions, -, -, -, hexact⟩ :=
    clicks_are_exact_iff_numbers_fit firstStamp "" hfeed hline (by decide) .behind hx hy hbutton
  exact ⟨a, hactions, hexact.mpr (by decide)⟩

/-- **A large number becomes the button**, and the number behind it is taken for the
first coordinate. -/
theorem large_number_becomes_button :
    let text := "Click, 4294967296, 5"
    Text.pieces text.toList = ["Click".toList, "4294967296".toList, "5".toList] ∧
      Text.IsDecimal 4294967296 "4294967296".toList ∧ Text.IsDecimal 5 "5".toList ∧
      (importText firstStamp "" text).rows.map
        (fun row => row.actions.map fun a => (a.kind, a.coordinates, a.button)) =
        [[(.mouseClick, some ⟨5, 0⟩, "4294967296")]] := by
  exact ⟨by decide, .natural (n := 4294967296) (by decide),
    .natural (n := 5) (by decide), by decide +kernel⟩

end Macro

end ActionBoard
