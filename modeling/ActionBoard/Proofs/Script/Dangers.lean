import ActionBoard.Proofs.Script.Layout
import ActionBoard.Proofs.Script.Names
import ActionBoard.Proofs.Script.Parts
import ActionBoard.Script.Check

/-!
# Dangerous commands are reported

Checking a script looks at the names of its commands, so a line is reported if reading makes it
a command of its name.  In a body every line is a command, whatever it looks like.  At the top
level a line has to get past the other constructs first: a call or a legacy command is no
directive and no header, but two colons anywhere in it make it a label, and an equals sign
behind the name makes it an assignment.

Only commands are looked at.  A call whose result is assigned is none: at the top level it is the
value of a global, and in a body the command is named by the variable
(`assigned_calls_go_unreported`).

* `Calls`: the two ways to write a command.  `name_ofText_of_calls` is what its name is read as,
  `ofLine_call` and `ofLine_legacy` say when it is a command at the top level.
* `Writes`: the lines in which a command of the script is written.
* `dangerous_commands_are_reported`: each of these lines is warned about.
-/

namespace ActionBoard.Script

variable {name text : List Char} {script : Script} {c : Command} {line : SourceLine}

/-! ## Lines of the text -/

theorem isPrefix_beforeComment (quote : Option Char) (line : List Char) :
    beforeComment quote line <+: line := by
  induction line generalizing quote with
  | nil => exact List.prefix_refl []
  | cons c rest ih =>
    rw [beforeComment]
    split
    · exact List.nil_prefix
    · exact List.prefix_cons_inj c |>.mpr (ih (quoteAfter quote c))

theorem trim_subset (text : List Char) : Text.trim text ⊆ text := fun _ hc =>
  List.dropWhile_subset _ (Text.mem_of_mem_stripEnd hc)

theorem notMem_of_mem_sourceLines {text : List Char} (h : line ∈ sourceLines text) :
    '\n' ∉ line.text := by
  rw [sourceLines_eq_readFrom, readFrom, List.mem_filter, List.mem_map] at h
  obtain ⟨⟨numbered, hnumbered, rfl⟩, -⟩ := h
  have hpart : numbered.text ∈ Text.splitAt '\n' (Text.withoutMark text) :=
    List.mem_of_getElem? (getElem?_of_mem_numberLines hnumbered).2
  intro hfeed
  exact Text.notMem_of_mem_splitAt hpart
    ((isPrefix_beforeComment none _).subset (trim_subset _ hfeed))

/-! ## Commands as they are written -/

/-- A text that calls a command: its arguments stand in parentheses, or behind a blank or a comma,
or there are none. -/
inductive Calls (name : List Char) : List Char → Prop
  | call (args : List Char) : Calls name (name ++ '(' :: (args ++ [')']))
  | legacy {rest : List Char} (hrest : ∀ c ∈ rest.head?, endsCommandName c = true) :
      Calls name (name ++ rest)

theorem isWord_of_endsCommandName {c : Char} (h : endsCommandName c = true) :
    Text.isWord c = false := by
  rw [endsCommandName, Bool.or_eq_true] at h
  rcases h with hblank | hcomma
  · refine Bool.eq_false_iff.mpr fun hword => ?_
    rw [Text.isBlank_eq_false_of_isWord hword] at hblank
    cases hblank
  · rw [beq_iff_eq.mp hcomma]
    decide

theorem readName?_legacy (hname : IsIdentifier name) {rest : List Char}
    (hrest : ∀ c ∈ rest.head?, endsCommandName c = true) : readName? (name ++ rest) =
      some (name, rest) :=
  hname.readName?_append fun c hc => isWord_of_endsCommandName (hrest c hc)

theorem ne_paren_of_endsCommandName {rest : List Char}
    (hrest : ∀ c ∈ rest.head?, endsCommandName c = true)
    (inner : List Char) : rest ≠ '(' :: inner := by
  rintro rfl
  exact absurd (hrest '(' rfl) (by decide)

/-- Parentheses do not stand behind the name of a legacy command. -/
theorem readCall?_legacy (hname : IsIdentifier name) {rest : List Char}
    (hrest : ∀ c ∈ rest.head?, endsCommandName c = true) : readCall? (name ++ rest) = none := by
  rw [readCall?, readName?_legacy hname hrest, Option.bind_eq_bind, Option.bind_some]
  dsimp only
  split
  · exact absurd rfl (ne_paren_of_endsCommandName hrest _)
  · rfl

/-- The name of a legacy command ends where its arguments begin. -/
theorem ofText_legacy (hname : IsIdentifier name) {rest : List Char}
    (hrest : ∀ c ∈ rest.head?, endsCommandName c = true) (number : Nat) :
    Command.ofText (name ++ rest) number =
      ⟨String.ofList name, arguments (rest.dropWhile endsCommandName),
        String.ofList (name ++ rest), number⟩ := by
  have hstart : ∀ c ∈ name, (!endsCommandName c) = true := by
    intro c hc
    rw [Bool.not_eq_true', Bool.eq_false_iff]
    intro hends
    have hword := isWord_of_endsCommandName hends
    rw [hname.isWord c hc] at hword
    cases hword
  have hbehind : rest.takeWhile (fun c => !endsCommandName c) = [] ∧
      rest.dropWhile (fun c => !endsCommandName c) = rest := by
    cases rest with
    | nil => exact ⟨rfl, rfl⟩
    | cons c rest => simp [hrest c rfl]
  rw [Command.ofText, readCall?_legacy hname hrest]
  dsimp only
  rw [List.takeWhile_append_of_pos hstart, List.dropWhile_append_of_pos hstart, hbehind.1,
    hbehind.2, List.append_nil]

theorem name_ofText_legacy (hname : IsIdentifier name) {rest : List Char}
    (hrest : ∀ c ∈ rest.head?, endsCommandName c = true) (number : Nat) :
    (Command.ofText (name ++ rest) number).name = String.ofList name := by
  rw [ofText_legacy hname hrest]

/-- **A command is read under its name**, in either way of writing it. -/
theorem name_ofText_of_calls (hname : IsIdentifier name) (h : Calls name text) (htext : '\n' ∉ text)
    (number : Nat) : (Command.ofText text number).name = String.ofList name := by
  cases h with
  | call args =>
    have hargs : '\n' ∉ args := fun hfeed =>
      htext (List.mem_append_right name (List.mem_cons_of_mem _ (List.mem_append_left _ hfeed)))
    rw [Command.ofText, readCall?_call hname hargs]
  | legacy hrest => exact name_ofText_legacy hname hrest number

/-! ## Commands at the top level -/

theorem afterKeyword?_eq_none_of_first {letter first : Char}
    (h : Text.sameLetter letter first = false)
    (word rest : List Char) : afterKeyword? (letter :: word) (first :: rest) = none := by
  simp [afterKeyword?, Text.dropWord?, h]

/-- A name that no keyword begins like. -/
structure IsPlainName (name : List Char) : Prop where
  isIdentifier : IsIdentifier name
  no_keyword : ∀ c ∈ name.head?, Text.sameLetter '#' c = false ∧ Text.sameLetter 'g' c = false

theorem isPlainName_iff : IsPlainName name ↔ IsIdentifier name ∧
    (name.head?.all fun c => !Text.sameLetter '#' c && !Text.sameLetter 'g' c) = true := by
  simp only [Option.all_eq_true, Bool.and_eq_true, Bool.not_eq_true']
  exact ⟨fun h => ⟨h.isIdentifier, h.no_keyword⟩, fun h => ⟨h.1, h.2⟩⟩

instance (name : List Char) : Decidable (IsPlainName name) :=
  decidable_of_iff _ isPlainName_iff.symm

/-- What is no keyword, header, label or assignment is a command. -/
theorem ofLine_eq_command (hname : IsPlainName name) (rest : List Char)
    (hheader : readHeader? (name ++ rest) = none)
    (hlabel : ¬ [':', ':'] <:+: name ++ rest) (hassigned : readAssignment? (name ++ rest) = none) :
    Construct.ofLine (name ++ rest) = .command := by
  obtain ⟨first, others, rfl, hstart⟩ := hname.isIdentifier.exists_cons
  obtain ⟨hsign, hletter⟩ := hname.no_keyword first rfl
  have hrequires : requiredVersion? (first :: others ++ rest) = none := by
    have hkeyword : afterKeyword? "#requires".toList (first :: others ++ rest) = none :=
      afterKeyword?_eq_none_of_first hsign _ _
    rw [requiredVersion?, hkeyword]
    rfl
  have hglobal : afterKeyword? "global".toList (first :: others ++ rest) = none :=
    afterKeyword?_eq_none_of_first hletter _ _
  have hhead : (first :: others ++ rest).head? ≠ some '#' := by
    rintro ⟨⟩
    exact absurd hstart (by decide)
  simp only [Construct.ofLine, hrequires, hhead, hglobal, hheader,
    splitLabel?_eq_none hlabel, hassigned,
    decide_false, Bool.false_and, Bool.false_eq_true, if_false]

/-- Behind the first word of a call there is a parenthesis. -/
theorem dropWhile_of_readCall? {text : List Char} {call : List Char × List Char}
    (h : readCall? text = some call) : ∃ inner, text.dropWhile Text.isWord = '(' :: inner := by
  rw [readCall?] at h
  obtain ⟨⟨name, rest⟩, hread, h⟩ := Option.bind_eq_some_iff.mp h
  cases text with
  | nil => cases hread
  | cons c after =>
    rw [readName?] at hread
    split at hread
    · rename_i hstart
      cases hread
      rw [List.dropWhile_cons_of_pos (isWord_of_startsName hstart)]
      dsimp only at h
      split at h
      · rename_i inner heq
        exact ⟨inner, heq⟩
      · cases h
    · cases hread

theorem dropWhile_of_readHeader? {text : List Char} {header : String × List String}
    (h : readHeader? text = some header) : ∃ inner, text.dropWhile Text.isWord = '(' :: inner := by
  rw [readHeader?] at h
  obtain ⟨head, hhead, h⟩ := Option.bind_eq_some_iff.mp h
  obtain ⟨call, hcall, -⟩ := Option.bind_eq_some_iff.mp h
  obtain ⟨inner, hinner⟩ := dropWhile_of_readCall? hcall
  have hprefix : Text.stripEnd Text.isBlank head <+: text := by
    have hstrip : Text.stripEnd Text.isBlank head <+: head := by
      rw [Text.stripEnd, ← List.reverse_suffix, List.reverse_reverse]
      exact List.dropWhile_suffix _
    refine hstrip.trans ?_
    rw [dropLast?] at hhead
    split at hhead
    · cases hhead
      exact List.dropLast_prefix text
    · cases hhead
  obtain ⟨behind, rfl⟩ := hprefix
  refine ⟨inner ++ behind, ?_⟩
  rw [List.dropWhile_append, hinner]
  rfl

/-- A legacy command without two colons in it is a command unless it assigns something. -/
theorem ofLine_legacy (hname : IsPlainName name) {rest : List Char}
    (hrest : ∀ c ∈ rest.head?, endsCommandName c = true) (hlabel : ¬ [':', ':'] <:+: name ++ rest)
    (hassigned : readAssignment? (name ++ rest) = none) :
    Construct.ofLine (name ++ rest) = .command := by
  refine ofLine_eq_command hname rest ?_ hlabel hassigned
  rw [Option.eq_none_iff_forall_ne_some]
  intro header hheader
  obtain ⟨inner, hinner⟩ := dropWhile_of_readHeader? hheader
  have hdrop : rest.dropWhile Text.isWord = rest := by
    cases rest with
    | nil => rfl
    | cons c rest =>
      exact List.dropWhile_cons_of_neg (by rw [isWord_of_endsCommandName (hrest c rfl)]; decide)
  rw [List.dropWhile_append_of_pos hname.isIdentifier.isWord, hdrop] at hinner
  exact ne_paren_of_endsCommandName hrest inner hinner

/-! ## What is reported -/

/-- Names of dangerous commands are read as names, and no keyword begins like one of them. -/
theorem isPlainName_of_dangerous : ∀ name ∈ dangerousCommands, IsPlainName name.toList := by
  decide

theorem warning_mem_validate (native : Bool) (hc : c ∈ script.allCommands)
    (hname : c.name ∈ dangerousCommands) :
    .warning ("Potentially dangerous command: " ++ c.name) c.line ∈
      (validate native script).diagnostics := by
  have hwarned : .warning ("Potentially dangerous command: " ++ c.name) c.line ∈
      checkCommand native c := by
    rw [checkCommand, if_pos (List.contains_iff_mem.mpr hname)]
    exact List.mem_append_left _ List.mem_cons_self
  exact List.mem_append_right _ (List.mem_flatMap.mpr ⟨c, hc, hwarned⟩)

/-- The lines of a script in which a command is written.  At the top level two colons would make the
line a label, and a legacy command must not be an assignment; a body has to be kept, and may also
stand behind its label. -/
inductive Writes (parts : List Part) (name : List Char) : SourceLine → Prop
  | call {part : Part} {args : List Char} (hpart : part ∈ parts) (htext : part.head.text =
    name ++ '(' :: (args ++ [')']))
      (hlabel : ¬ [':', ':'] <:+: part.head.text) : Writes parts name part.head
  | legacy {part : Part} {rest : List Char} (hpart : part ∈ parts)
      (htext : part.head.text = name ++ rest)
      (hrest : ∀ c ∈ rest.head?, endsCommandName c = true)
        (hlabel : ¬ [':', ':'] <:+: part.head.text)
      (hassigned : readAssignment? part.head.text = none) : Writes parts name part.head
  | body {part : Part} {line : SourceLine} (kept : IsKept parts part) (hline : line ∈ part.body)
      (calls : Calls name line.text) : Writes parts name line
  | behindLabel {part : Part} {label : String} {inline : List Char} (kept : IsKept parts part)
      (hlabel : Construct.ofLine part.head.text = .hotkey label inline)
        (calls : Calls name inline) :
      Writes parts name part.head

/-- A command that is called is none of the braces around a body. -/
theorem Calls.exists_cons (hname : IsIdentifier name) (h : Calls name text) :
    ∃ c rest, text = c :: rest ∧ Text.startsName c = true := by
  obtain ⟨c, others, rfl, hstart⟩ := hname.exists_cons
  cases h with
  | call args => exact ⟨c, _, rfl, hstart⟩
  | legacy hrest => exact ⟨c, _, rfl, hstart⟩

theorem Calls.ne_brace (hname : IsIdentifier name) (h : Calls name text) {brace : Char}
    (hbrace : Text.startsName brace = false) (rest : List Char) : text ≠ brace :: rest := by
  obtain ⟨c, others, rfl, hstart⟩ := h.exists_cons hname
  rintro ⟨⟩
  rw [hstart] at hbrace
  cases hbrace

/-- A line in which a command is written becomes a command of its name, with the number of the
line. -/
theorem Writes.exists_command {lines : List SourceLine} (hname : IsPlainName name)
    (h : Writes (parts lines) name line)
    (hlines : ∀ line ∈ lines, '\n' ∉ line.text) (script : Script) :
    ∃ c ∈ (readLines script lines).allCommands, c.name = String.ofList name ∧
      c.line = line.number := by
  cases h with
  | @call part args hpart htext hlabel =>
    have hline : Construct.ofLine part.head.text = .command := by
      rw [htext] at hlabel ⊢
      exact ofLine_call hname.isIdentifier hlabel
    have hcalls : Calls name part.head.text := htext ▸ .call args
    exact ⟨part.head.command, command_head_mem hpart hline script,
      name_ofText_of_calls hname.isIdentifier hcalls (hlines _ (head_mem_of_mem_parts hpart)) _,
      Command.line_ofText _ _⟩
  | @legacy part rest hpart htext hrest hlabel hassigned =>
    have hline : Construct.ofLine part.head.text = .command := by
      rw [htext] at hlabel hassigned ⊢
      exact ofLine_legacy hname hrest hlabel hassigned
    have hcalls : Calls name part.head.text := htext ▸ .legacy hrest
    exact ⟨part.head.command, command_head_mem hpart hline script,
      name_ofText_of_calls hname.isIdentifier hcalls (hlines _ (head_mem_of_mem_parts hpart)) _,
      Command.line_ofText _ _⟩
  | @body part line kept hline calls =>
    have hbrace : line.text ≠ ['}'] := calls.ne_brace hname.isIdentifier (by decide) []
    exact ⟨line.command, command_mem_of_mem_body kept hline hbrace script,
      name_ofText_of_calls hname.isIdentifier calls (hlines _ (mem_of_mem_body kept.mem hline)) _,
      Command.line_ofText _ _⟩
  | @behindLabel part label inline kept hlabel calls =>
    have hblock : opensBlock inline = false := by
      obtain ⟨c, rest, rfl, hstart⟩ := calls.exists_cons hname.isIdentifier
      have hne : c :: rest ≠ ['{'] := calls.ne_brace hname.isIdentifier (by decide) []
      simpa [opensBlock] using hne
    have hinline : '\n' ∉ inline := by
      obtain ⟨before, after, hsplit, -, rfl⟩ := splitLabel?_of_ofLine hlabel
      intro hfeed
      refine hlines _ (head_mem_of_mem_parts kept.mem) ?_
      rw [eq_of_splitLabel? hsplit]
      exact List.mem_append_right before
        (List.mem_cons_of_mem _ (List.mem_cons_of_mem _ (trim_subset after hfeed)))
    exact ⟨_, command_mem_of_behindLabel kept hlabel hblock script,
      name_ofText_of_calls hname.isIdentifier calls hinline _, Command.line_ofText _ _⟩

/-- **Every line in which a dangerous command is written is warned about**, under its number and
with the name of the command, on every platform. -/
theorem dangerous_commands_are_reported (native : Bool) (text : String) {name : String}
    (hname : name ∈ dangerousCommands) {line : SourceLine}
    (h : Writes (parts (sourceLines text.toList)) name.toList line) :
    .warning ("Potentially dangerous command: " ++ name) line.number ∈
      (validate native (ofText text)).diagnostics := by
  obtain ⟨c, hc, hcname, hcline⟩ :=
    h.exists_command (isPlainName_of_dangerous name hname)
      (fun _ hline => notMem_of_mem_sourceLines hline) {}
  rw [String.ofList_toList] at hcname
  subst hcname
  rw [← hcline]
  exact warning_mem_validate native hc hname

/-- A process that a function starts. -/
theorem dangerous_commands_are_reported_of_function :
    let text := "Go() \x7b\nRun(\"a\")\n\x7d"
    "Run" ∈ dangerousCommands ∧
      Writes (parts (sourceLines text.toList)) "Run".toList ⟨2, "Run(\"a\")".toList⟩ ∧
      .warning ("Potentially dangerous command: " ++ "Run") 2 ∈
        (validate false (ofText text)).diagnostics := by
  intro text
  have hname : "Run" ∈ dangerousCommands := by decide
  have hparts : parts (sourceLines text.toList) =
      [⟨⟨1, "Go() \x7b".toList⟩, [⟨2, "Run(\"a\")".toList⟩]⟩] := by decide +kernel
  have hwrites :
      Writes (parts (sourceLines text.toList)) "Run".toList ⟨2, "Run(\"a\")".toList⟩ := by
    rw [hparts]
    exact .body ⟨[], [], rfl, fun _ hlater => nomatch hlater⟩ List.mem_cons_self
      (.call "\"a\"".toList)
  exact ⟨hname, hwrites, dangerous_commands_are_reported false text hname hwrites⟩

/-- **A call whose result is assigned is not reported**, neither at the top level nor in a body that
is kept.  Neither is what looks like a legacy command and assigns something, nor a call at the top
level with two colons in it. -/
theorem assigned_calls_go_unreported :
    parts (sourceLines "x := Run(\"a\")".toList) = [⟨⟨1, "x := Run(\"a\")".toList⟩, []⟩] ∧
      parts (sourceLines "Go() \x7b\nx := Run(\"a\")\n\x7d".toList) =
        [⟨⟨1, "Go() \x7b".toList⟩, [⟨2, "x := Run(\"a\")".toList⟩]⟩] ∧
      parts (sourceLines "Run = a".toList) = [⟨⟨1, "Run = a".toList⟩, []⟩] ∧
      parts (sourceLines "Run(\"::a\")".toList) = [⟨⟨1, "Run(\"::a\")".toList⟩, []⟩] ∧
      ∀ written ∈ [("x := Run(\"a\")", 1), ("Go() \x7b\nx := Run(\"a\")\n\x7d", 2), ("Run = a", 1),
        ("Run(\"::a\")", 1)],
        ∀ native, ∀ d ∈ (validate native (ofText written.1)).diagnostics, d.line ≠ written.2 := by
  decide +kernel

end ActionBoard.Script
