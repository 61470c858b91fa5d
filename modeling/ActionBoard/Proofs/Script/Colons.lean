import ActionBoard.Proofs.Script.Dangers

/-!
# Two colons make a call a label

Quotes keep a semicolon from beginning a comment and a comma from separating arguments.  They do not
keep two colons from being the mark of a label: the constructs of a line are told apart by its
characters as they are.  So a call at the top level is a command as long as no two colons stand in a
row between its parentheses, wherever they stand.  If they do, the line is the label of a hotkey:
what is written in front of the first two colons is the label, and what is behind them, with the
closing parenthesis, is the one command of its body.

* `ofLine_call_eq`: a call is a command or a label, and no third thing.
* `exists_first_mark`: the place where the label ends.
* `calls_are_recorded_unless_colons_label_them`: what becomes of a call at the top level.
-/

namespace ActionBoard.Script

variable {name args before after : List Char} {part : Part}

/-! ## The first two colons -/

/-- Where two colons stand in a row, there is a first place where they do. -/
theorem exists_first_mark {text : List Char} (h : [':', ':'] <:+: text) :
    ∃ before after, text = before ++ ':' :: ':' :: after ∧ ¬ [':', ':'] <:+: before ++ [':'] := by
  induction text with
  | nil => exact absurd h (by decide)
  | cons c rest ih =>
    by_cases hhere : [':', ':'] <+: c :: rest
    · obtain ⟨after, hafter⟩ := hhere
      exact ⟨[], after, hafter.symm, by decide⟩
    · obtain ⟨before, after, rfl, hfirst⟩ := ih ((List.infix_cons_iff.mp h).resolve_left hhere)
      refine ⟨c :: before, after, rfl, fun hinside => ?_⟩
      have hstart : c :: before ++ [':'] <+: c :: (before ++ ':' :: ':' :: after) :=
        ⟨':' :: after, by simp⟩
      rcases List.infix_cons_iff.mp hinside with hahead | hinner
      · exact hhere (hahead.trans hstart)
      · exact hfirst hinner

/-- Two colons in a call stand between its parentheses. -/
theorem mark_in_call_iff (hname : IsIdentifier name) :
    [':', ':'] <:+: name ++ '(' :: (args ++ [')']) ↔ [':', ':'] <:+: args := by
  constructor
  · intro h
    by_contra hargs
    have hclosing : ¬ [':', ':'] <:+: args ++ [')'] := not_infix_append (by decide)
      hargs (by decide)
    exact not_infix_append (by decide) hname.isArgument.no_label_mark hclosing h
  · rintro ⟨start, rest, rfl⟩
    exact ⟨name ++ '(' :: start, rest ++ [')'], by simp⟩

/-- A call with two colons in it is a label. -/
theorem ofLine_call_of_mark (hname : IsIdentifier name)
    (hfirst : ¬ [':', ':'] <:+: before ++ [':']) :
    Construct.ofLine (name ++ '(' :: (before ++ ':' :: ':' :: after ++ [')'])) =
      .hotkey (String.ofList (Text.trim (name ++ '(' :: before))) (Text.trim (after ++ [')'])) := by
  have hne : name ++ '(' :: before ≠ [] := by simp
  have hlabel : ¬ [':', ':'] <:+: name ++ '(' :: before ++ [':'] := by
    rw [List.append_assoc, List.cons_append]
    exact not_infix_append (by decide) hname.isArgument.no_label_mark hfirst
  have hsplit := splitLabel?_append hne hlabel (after ++ [')'])
  have htext : name ++ '(' :: before ++ ':' :: ':' :: (after ++ [')']) =
      name ++ '(' :: (before ++ ':' :: ':' :: after ++ [')']) := by simp
  rw [htext] at hsplit
  rw [ofLine_call_eq hname, hsplit]

/-- A call is a command if and only if there are no two colons in it. -/
theorem ofLine_call_eq_command_iff (hname : IsIdentifier name) :
    Construct.ofLine (name ++ '(' :: (args ++ [')'])) = .command ↔ ¬ [':', ':'] <:+: args := by
  constructor
  · intro hline hmark
    obtain ⟨before, after, rfl, hfirst⟩ := exists_first_mark hmark
    rw [ofLine_call_of_mark hname hfirst] at hline
    cases hline
  · exact fun hmark => ofLine_call hname fun hinside => hmark ((mark_in_call_iff hname).mp hinside)

/-- What is behind a label and ends in a parenthesis is no block. -/
theorem opensBlock_closed (after : List Char) :
    opensBlock (Text.trim (after ++ [')'])) = false := by
  have hclosed : ')' ∈ Text.trim (after ++ [')']) := Text.mem_trim (by simp) (by decide)
  rw [Bool.eq_false_iff]
  intro hblock
  rw [opensBlock, Bool.or_eq_true, List.isEmpty_iff, beq_iff_eq] at hblock
  rcases hblock with hnil | hbrace
  · rw [hnil] at hclosed
    cases hclosed
  · rw [hbrace] at hclosed
    exact absurd hclosed (by decide)

/-! ## What becomes of a call -/

/-- A command of the top level is the one of its line. -/
theorem command_head_mem_topLevel_iff (text : String)
    (hpart : part ∈ parts (sourceLines text.toList)) :
    part.head.command ∈ (ofText text).topLevel ↔ Construct.ofLine part.head.text = .command := by
  rw [ofText, mem_topLevel_readLines]
  constructor
  · rintro (hnone | ⟨other, hother, hline, hcommand⟩)
    · cases hnone
    · have hnumber : part.head.number = other.head.number := by
        simpa [SourceLine.command] using congrArg Command.line hcommand
      rwa [eq_of_number_eq (head_mem_of_mem_parts hpart) (head_mem_of_mem_parts hother) hnumber]
  · exact fun hline => .inr ⟨part, hpart, hline, rfl⟩

/-- A part changes the hotkeys if and only if it is the label of one. -/
theorem hotkeys_addTo_of_ne
    (h : ∀ label inline, Construct.ofLine part.head.text ≠ .hotkey label inline)
    (script : Script) : (part.addTo script).hotkeys = script.hotkeys := by
  unfold Part.addTo
  split
  case h_5 label inline hline => exact absurd hline (h label inline)
  all_goals rfl

theorem hotkeys_addTo_of_label {label : String} {inline : List Char}
    (h : Construct.ofLine part.head.text = .hotkey label inline) (script : Script) :
    (part.addTo script).hotkeys = script.hotkeys.declare label (part.hotkeyCommands inline) := by
  rw [Part.addTo, h]

/-- **A call is recorded unless two colons label it.**  This is so for every line at the top
level of any text that is a call under an identifier, whatever stands between its parentheses.
It is recorded as a command with this name and with its arguments split, and leaves the
hotkeys as they are, if and only if no two colons stand in a row between the parentheses, in
quotes or not.  Otherwise it declares the hotkey of what is written in front of the first two
colons, with one command. -/
theorem calls_are_recorded_unless_colons_label_them (text : String)
    (hpart : part ∈ parts (sourceLines text.toList))
    (hname : IsIdentifier name) (hcall : part.head.text = name ++ '(' :: (args ++ [')'])) :
    let script := ofText text
    (⟨String.ofList name, arguments args, String.ofList part.head.text, part.head.number⟩ ∈
      script.topLevel ↔
        ¬ [':', ':'] <:+: args) ∧
      ((∀ earlier, (part.addTo earlier).hotkeys = earlier.hotkeys) ↔ ¬ [':', ':'] <:+: args) ∧
      ∀ before after, args = before ++ ':' :: ':' :: after → ¬ [':', ':'] <:+: before ++ [':'] →
        let label := String.ofList (Text.trim (name ++ '(' :: before))
        let body := [Command.ofText (Text.trim (after ++ [')'])) part.head.number]
        (∀ earlier, (part.addTo earlier).hotkeys = earlier.hotkeys.declare label body) ∧
          (IsKept (parts (sourceLines text.toList)) part → script.hotkeys.find? label =
            some body) := by
  intro script
  have hargs : '\n' ∉ args := fun hfeed =>
    notMem_of_mem_sourceLines (head_mem_of_mem_parts hpart) (by simp [hcall, hfeed])
  have hcommand : part.head.command =
      ⟨String.ofList name, arguments args, String.ofList part.head.text, part.head.number⟩ := by
    rw [SourceLine.command, Command.ofText, hcall, readCall?_call hname hargs]
  have hline : Construct.ofLine part.head.text = .command ↔ ¬ [':', ':'] <:+: args := by
    rw [hcall, ofLine_call_eq_command_iff hname]
  have hlabelled : ∀ before after, args = before ++ ':' :: ':' :: after →
      ¬ [':', ':'] <:+: before ++ [':'] →
      Construct.ofLine part.head.text =
        .hotkey (String.ofList (Text.trim (name ++ '(' :: before)))
          (Text.trim (after ++ [')'])) := by
    rintro before after rfl hfirst
    rw [hcall, ofLine_call_of_mark hname hfirst]
  have hbody : ∀ after : List Char, part.hotkeyCommands (Text.trim (after ++ [')'])) =
      [Command.ofText (Text.trim (after ++ [')'])) part.head.number] := fun after => by
    rw [Part.hotkeyCommands, opensBlock_closed, if_neg Bool.false_ne_true]
  refine ⟨?_, ⟨fun hsame hmark => ?_, fun hmark => ?_⟩, fun before after hsplit hfirst => ?_⟩
  · rw [← hcommand, command_head_mem_topLevel_iff text hpart, hline]
  · obtain ⟨before, after, hsplit, hfirst⟩ := exists_first_mark hmark
    have hadded := hsame {}
    rw [hotkeys_addTo_of_label (hlabelled before after hsplit hfirst)] at hadded
    cases hadded
  · exact hotkeys_addTo_of_ne fun label inline heq => by simp [hline.mpr hmark] at heq
  · have hconstruct := hlabelled before after hsplit hfirst
    refine ⟨fun earlier => ?_, fun hkept => ?_⟩
    · rw [hotkeys_addTo_of_label hconstruct, hbody]
    · have hfound := (isRecordedIn_readLines hkept {}).hotkey _ _ hconstruct
      rwa [hbody] at hfound

/-- A text with a call behind a body, and one colon in it. -/
theorem calls_are_recorded_unless_colons_label_them_of_clock :
    let text := "F1:: \x7b\nClick(1, 2)\n\x7d\nMsgBox(\"12:30, ;\", x) ; now"
    let part : Part := ⟨⟨4, "MsgBox(\"12:30, ;\", x)".toList⟩, []⟩
    part ∈ parts (sourceLines text.toList) ∧ IsIdentifier "MsgBox".toList ∧
      part.head.text = "MsgBox".toList ++ '(' :: ("\"12:30, ;\", x".toList ++ [')']) ∧
      ⟨"MsgBox", ["\"12:30, ;\"", "x"], "MsgBox(\"12:30, ;\", x)", 4⟩ ∈ (ofText text).topLevel := by
  intro text part
  have hpart : part ∈ parts (sourceLines text.toList) := by decide +kernel
  have hname : IsIdentifier "MsgBox".toList := by decide
  have hcall : part.head.text = "MsgBox".toList ++ '(' :: ("\"12:30, ;\", x".toList ++ [')']) := rfl
  have hargs : arguments "\"12:30, ;\", x".toList = ["\"12:30, ;\"", "x"] := by decide +kernel
  have hrecorded :=
    (calls_are_recorded_unless_colons_label_them text hpart hname hcall).1.mpr (by decide +kernel)
  rw [hargs, String.ofList_toList, String.ofList_toList] at hrecorded
  exact ⟨hpart, hname, hcall, hrecorded⟩

/-- **Quotes do not keep two colons from labelling a call**: the command is not recorded, and a
hotkey is declared. -/
theorem quoted_colons_label_a_call :
    let script := ofText "#Requires AutoHotkey v2.0\nMsgBox(\"a::b\")"
    parts (sourceLines "#Requires AutoHotkey v2.0\nMsgBox(\"a::b\")".toList) =
        [⟨⟨1, "#Requires AutoHotkey v2.0".toList⟩, []⟩, ⟨⟨2, "MsgBox(\"a::b\")".toList⟩, []⟩] ∧
      Balanced true "\"a::b\"".toList ∧ script.topLevel = [] ∧
      script.hotkeys = [("MsgBox(\"a", [⟨"b\")", [], "b\")", 2⟩])] := by
  have hquoted : Balanced true "\"a::b\"".toList :=
    @Balanced.quotes true '"' "a::b".toList [] (.inl rfl) (by decide) .nil
  exact ⟨by decide +kernel, hquoted, by decide +kernel, by decide +kernel⟩

end ActionBoard.Script
