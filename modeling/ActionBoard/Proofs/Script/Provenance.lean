import ActionBoard.Proofs.Script.Listing
import ActionBoard.Proofs.Text.Blank
import Mathlib.Data.List.Nodup
import Mathlib.Data.List.Perm.Subperm

/-!
# Where commands come from

Every command remembers the line it was written in.  Lines are left out, taken together into
bodies and looked at before their turn, and a body may be declared again and drop the one
before; all the same the number of a command is the one of its own line of the text, and its
text is what stands there.

Reading goes forward only.  So the lines read so far are an initial part of the lines of the
text, and what is known of the commands recorded from them is known part by part: the commands
of the top level, of a hotkey and of a function are each made from lines that were read, in the
order of the lines.

* `TakenFrom`: commands made from some of the lines, in their order; `ReadAs` is that for the body
  of a hotkey, which may also stand behind its label.
* `Recorded`: what is known of a script when certain lines have been read.  `Recorded.topLevel`,
  `Recorded.hotkey` and `Recorded.function` are the three ways in which a script gets more commands,
  `recorded_readLines` is the whole pass.
* `commands_keep_their_lines`: what this says of the lines of a text.
-/

namespace ActionBoard.Text

/-- The text without one byte order mark at its start. -/
def withoutMark : List Char → List Char
  | [] => []
  | c :: rest => if c = byteOrderMark then rest else c :: rest

end ActionBoard.Text

namespace ActionBoard.Declarations

open scoped List

variable {β γ : Type} {name : String} {value : β} {entry : String × β}
  {declarations : Declarations β}

/-- What is declared was declared before, or is declared now. -/
theorem eq_or_mem_of_mem_declare (h : entry ∈ declarations.declare name value) :
    entry = (name, value) ∨ entry ∈ declarations := by
  induction declarations with
  | nil => exact .inl (List.mem_singleton.mp h)
  | cons first rest ih =>
    obtain ⟨key, old⟩ := first
    rw [declare] at h
    split at h
    · rcases List.mem_cons.mp h with rfl | h
      · exact .inl rfl
      · exact .inr (List.mem_cons_of_mem _ h)
    · rcases List.mem_cons.mp h with rfl | h
      · exact .inr List.mem_cons_self
      · exact (ih h).imp_right (List.mem_cons_of_mem _)

theorem exists_mem_values {p : β → Prop} :
    (∃ value ∈ declarations.values, p value) ↔ ∃ entry ∈ declarations, p entry.2 := by
  constructor
  · rintro ⟨value, hvalue, hp⟩
    obtain ⟨entry, hentry, rfl⟩ := List.mem_map.mp hvalue
    exact ⟨entry, hentry, hp⟩
  · rintro ⟨entry, hentry, hp⟩
    exact ⟨entry.2, List.mem_map_of_mem hentry, hp⟩

/-- A declaration adds what belongs to its value, and may take away what belonged to the
value it replaces. -/
theorem flatMap_declare_subperm (f : β → List γ) (name : String) (value : β)
    (declarations : Declarations β) :
    (declarations.declare name value).values.flatMap f <+~ f value ++
      declarations.values.flatMap f := by
  induction declarations with
  | nil => exact List.Subperm.refl _
  | cons first rest ih =>
    obtain ⟨key, old⟩ := first
    rw [declare]
    split
    · have hdropped : (values rest).flatMap f <+ f old ++ (values rest).flatMap f :=
        List.sublist_append_right _ _
      exact ((List.Sublist.refl (f value)).append hdropped).subperm
    · have hkept : f old ++ (declare name value rest).values.flatMap f <+~
          f old ++ (f value ++ (values rest).flatMap f) := (List.subperm_append_left (f old)).mpr ih
      exact hkept.trans (List.perm_append_comm_assoc _ _ _).subperm

end ActionBoard.Declarations

namespace ActionBoard.Script

open scoped List

variable {lines read taken rest source : List SourceLine} {line : SourceLine}
  {script : Script} {c : Command}
variable {cs body : List Command} {name label : String}

/-! ## Lines of the text -/

/-- A line without its comment, and without white space at its ends. -/
def bareLine (line : List Char) : List Char :=
  Text.trim (stripComment line)

theorem map_number_numberLines (first : Nat) (lines : List (List Char)) :
    (numberLines first lines).map SourceLine.number = List.range' first lines.length := by
  induction lines generalizing first with
  | nil => rfl
  | cons text rest ih => rw [numberLines, List.map_cons, ih, List.length_cons, List.range'_succ]

theorem getElem?_of_mem_numberLines {first : Nat} {lines : List (List Char)}
    (h : line ∈ numberLines first lines) :
    first ≤ line.number ∧ lines[line.number - first]? = some line.text := by
  induction lines generalizing first with
  | nil => cases h
  | cons text rest ih =>
    rcases List.mem_cons.mp h with rfl | h
    · simp
    · obtain ⟨hfirst, htext⟩ := ih h
      have hnext : line.number - first = (line.number - (first + 1)) + 1 := by omega
      refine ⟨by omega, ?_⟩
      rw [hnext, List.getElem?_cons_succ]
      exact htext

theorem sourceLines_eq (text : List Char) :
    sourceLines text =
      ((numberLines 1 (Text.lines (Text.withoutMark text))).map fun line =>
        { line with text := bareLine line.text }).filter fun line => !line.text.isEmpty := by
  cases text with
  | nil => rfl
  | cons c rest => rfl

/-- The numbers of the lines go up. -/
theorem pairwise_sourceLines (text : List Char) :
    ((sourceLines text).map SourceLine.number).Pairwise (· < ·) := by
  have hnumbers : (((numberLines 1 (Text.lines (Text.withoutMark text))).map fun line =>
      { line with text := bareLine line.text }).map SourceLine.number).Pairwise (· < ·) := by
    rw [List.map_map]
    exact (map_number_numberLines 1 _).symm ▸ List.pairwise_lt_range'
  rw [sourceLines_eq]
  exact hnumbers.sublist (List.filter_sublist.map _)

theorem nodup_sourceLines (text : List Char) : (sourceLines text).Nodup :=
  .of_map SourceLine.number ((pairwise_sourceLines text).imp Nat.ne_of_lt)

/-- A line that is read is told by its number. -/
theorem eq_of_number_eq {text : List Char} {other : SourceLine} (hline : line ∈ sourceLines text)
    (hother : other ∈ sourceLines text) (h : line.number = other.number) : line = other :=
  List.inj_on_of_nodup_map ((pairwise_sourceLines text).imp Nat.ne_of_lt) hline hother h

/-- A line that is read is the bare line of the text with its number, and not empty. -/
theorem getElem?_of_mem_sourceLines {text : List Char} (h : line ∈ sourceLines text) :
    1 ≤ line.number ∧ line.text ≠ [] ∧
      ∃ written, (Text.lines (Text.withoutMark text))[line.number - 1]? = some written ∧
        line.text = bareLine written := by
  rw [sourceLines_eq, List.mem_filter, List.mem_map] at h
  obtain ⟨⟨numbered, hnumbered, rfl⟩, hne⟩ := h
  obtain ⟨hfirst, htext⟩ := getElem?_of_mem_numberLines hnumbered
  refine ⟨hfirst, ?_, numbered.text, htext, rfl⟩
  simpa using hne

/-! ## Commands of lines -/

@[simp] theorem Command.line_ofText (text : List Char) (line : Nat) :
    (Command.ofText text line).line = line := by
  unfold Command.ofText
  split <;> rfl

@[simp] theorem Command.raw_ofText (text : List Char) (line : Nat) :
    (Command.ofText text line).raw = String.ofList text := by
  unfold Command.ofText
  split <;> rfl

/-- The command that is the whole of a line. -/
def SourceLine.command (line : SourceLine) : Command :=
  Command.ofText line.text line.number

/-- Commands made from some of the lines, in the order of the lines. -/
def TakenFrom (lines : List SourceLine) (cs : List Command) : Prop :=
  ∃ chosen : List SourceLine, chosen <+ lines ∧ cs = chosen.map SourceLine.command

theorem TakenFrom.nil (lines : List SourceLine) : TakenFrom lines [] :=
  ⟨[], List.nil_sublist lines, rfl⟩

theorem TakenFrom.mono (h : TakenFrom read cs) (hread : read <+ lines) : TakenFrom lines cs := by
  obtain ⟨chosen, hchosen, rfl⟩ := h
  exact ⟨chosen, hchosen.trans hread, rfl⟩

theorem TakenFrom.append_line (h : TakenFrom read cs) (line : SourceLine) :
    TakenFrom (read ++ [line]) (cs ++ [line.command]) := by
  obtain ⟨chosen, hchosen, rfl⟩ := h
  exact ⟨chosen ++ [line], hchosen.append (List.Sublist.refl [line]), by rw [List.map_append]; rfl⟩

theorem TakenFrom.lines_sublist (h : TakenFrom lines cs) :
    cs.map Command.line <+ lines.map SourceLine.number := by
  obtain ⟨chosen, hchosen, rfl⟩ := h
  have hnumbers : (chosen.map SourceLine.command).map Command.line =
      chosen.map SourceLine.number := by
    rw [List.map_map]
    exact List.map_congr_left fun line _ => Command.line_ofText line.text line.number
  exact hnumbers ▸ hchosen.map SourceLine.number

/-- The commands of a body are those of its lines, without the lines of closing braces. -/
theorem takenFrom_bodyCommands (lines : List SourceLine) : TakenFrom lines (bodyCommands lines) :=
  ⟨_, List.filter_sublist, rfl⟩

/-- A block is the start of the lines, and what is left is their end. -/
theorem collectBlock_split (depth : Int) (lines : List SourceLine) :
    ∃ closing, lines = (collectBlock depth lines).1 ++ closing ++ (collectBlock depth lines).2 := by
  induction lines generalizing depth with
  | nil => exact ⟨[], rfl⟩
  | cons line rest ih =>
    rw [collectBlock]
    dsimp only
    split
    · exact ⟨[line], rfl⟩
    · obtain ⟨closing, hrest⟩ := ih (depth + braceBalance line.text)
      exact ⟨closing, congrArg (line :: ·) hrest⟩

/-- The lines that a block uses up, from which its commands are made. -/
theorem exists_taken_collectBlock (depth : Int) (lines : List SourceLine) :
    ∃ taken, lines = taken ++ (collectBlock depth lines).2 ∧
      TakenFrom taken (bodyCommands (collectBlock depth lines).1) := by
  obtain ⟨closing, hsplit⟩ := collectBlock_split depth lines
  exact ⟨_, hsplit, (takenFrom_bodyCommands _).mono (List.sublist_append_left _ _)⟩

/-! ## Bodies of hotkeys -/

/-- A command that stands behind its label, in the line of the label. -/
def StandsBehind (line : SourceLine) (label : String) (c : Command) : Prop :=
  ∃ inline, Construct.ofLine line.text = .hotkey label inline ∧ inline ≠ [] ∧
    c = Command.ofText inline line.number

/-- The body of a hotkey was made from the lines behind its label, or from what stands behind the
label in its line. -/
inductive ReadAs (lines : List SourceLine) (label : String) : List Command → Prop
  | block {body : List Command} (h : TakenFrom lines body) : ReadAs lines label body
  | inline {line : SourceLine} {c : Command} (hline : line ∈ lines)
      (h : StandsBehind line label c) :
      ReadAs lines label [c]

theorem ReadAs.mono (h : ReadAs read label body) (hread : read <+ lines) :
    ReadAs lines label body := by
  cases h with
  | block h => exact .block (h.mono hread)
  | inline hline h => exact .inline (hread.subset hline) h

theorem ReadAs.lines_sublist (h : ReadAs lines label body) :
    body.map Command.line <+ lines.map SourceLine.number := by
  cases h with
  | block h => exact h.lines_sublist
  | @inline line c hline h =>
    obtain ⟨inline, -, -, rfl⟩ := h
    rw [List.map_singleton, Command.line_ofText, List.singleton_sublist]
    exact List.mem_map_of_mem hline

theorem skipOpening_suffix (lines : List SourceLine) : skipOpening lines <:+ lines := by
  unfold skipOpening
  split
  · split
    · exact List.suffix_cons _ _
    · exact List.suffix_refl _
  · exact List.suffix_refl _

/-- The lines that a hotkey uses up behind its label, and how its body is read. -/
theorem exists_taken_hotkeyBody {inline : List Char}
    (hline : Construct.ofLine line.text = .hotkey label inline) (rest : List SourceLine) :
    ∃ taken, rest = taken ++ (hotkeyBody inline line.number rest).2 ∧
      ReadAs (line :: taken) label (hotkeyBody inline line.number rest).1 := by
  unfold hotkeyBody
  by_cases hblock : (inline.isEmpty || inline == ['{']) = true
  · rw [if_pos hblock]
    dsimp only
    have hsuffix : (if inline.isEmpty = true then skipOpening rest else rest) <:+ rest := by
      split
      · exact skipOpening_suffix rest
      · exact List.suffix_refl rest
    obtain ⟨opening, hopening⟩ := hsuffix
    generalize (if inline.isEmpty = true then skipOpening rest else rest) = lines at hopening
    obtain ⟨taken, hsplit, hbody⟩ := exists_taken_collectBlock 1 lines
    refine ⟨opening ++ taken, ?_, .block (hbody.mono ?_)⟩
    · rw [List.append_assoc, ← hsplit, hopening]
    · exact (List.sublist_append_right opening taken).cons line
  · rw [if_neg hblock]
    have hne : inline ≠ [] := by
      rintro rfl
      exact hblock rfl
    exact ⟨[], rfl, .inline List.mem_cons_self ⟨inline, hline, hne, rfl⟩⟩

/-! ## Scripts recorded from lines -/

/-- What is known of a script when certain lines have been read: every part of it was made from
them, and no two commands from one line. -/
structure Recorded (script : Script) (read : List SourceLine) : Prop where
  topLevel : TakenFrom read script.topLevel
  hotkeys : ∀ entry ∈ script.hotkeys, ReadAs read entry.1 entry.2
  functions : ∀ entry ∈ script.functions, TakenFrom read entry.2.body
  once : (script.allCommands.map Command.line).Nodup

theorem recorded_empty : Recorded {} [] where
  topLevel := .nil []
  hotkeys := fun _ hentry => nomatch hentry
  functions := fun _ hentry => nomatch hentry
  once := List.nodup_nil

/-- Every command stands in a part of the script. -/
theorem mem_allCommands {c : Command} : c ∈ script.allCommands ↔
    c ∈ script.topLevel ∨ (∃ entry ∈ script.hotkeys, c ∈ entry.2) ∨ ∃ entry ∈ script.functions,
      c ∈ entry.2.body := by
  rw [allCommands, List.mem_append, List.mem_append, or_assoc, List.mem_flatten, List.mem_flatMap,
    Declarations.exists_mem_values, Declarations.exists_mem_values]

/-- Every command has the number of a line that was read. -/
theorem Recorded.lines_subset (h : Recorded script read) :
    script.allCommands.map Command.line ⊆ read.map SourceLine.number := by
  intro number hnumber
  obtain ⟨c, hc, rfl⟩ := List.mem_map.mp hnumber
  rcases mem_allCommands.mp hc with hc | ⟨entry, hentry, hc⟩ | ⟨entry, hentry, hc⟩
  · exact h.topLevel.lines_sublist.subset (List.mem_map_of_mem hc)
  · exact (h.hotkeys entry hentry).lines_sublist.subset (List.mem_map_of_mem hc)
  · exact (h.functions entry hentry).lines_sublist.subset (List.mem_map_of_mem hc)

/-- New lines give new numbers, so commands from them share no line with those recorded before. -/
theorem Recorded.once_of_subperm (h : Recorded script read)
    (hnodup : ((read ++ taken).map SourceLine.number).Nodup)
    {new all : List Command} (hnew : new.map Command.line <+ taken.map SourceLine.number)
    (hall : all <+~ new ++ script.allCommands) : (all.map Command.line).Nodup := by
  rw [List.map_append, List.nodup_append] at hnodup
  obtain ⟨-, htaken, hapart⟩ := hnodup
  have hboth : ((new ++ script.allCommands).map Command.line).Nodup := by
    rw [List.map_append, List.nodup_append]
    refine ⟨htaken.sublist hnew, h.once, fun number hnumber other hother heq => ?_⟩
    exact hapart other (h.lines_subset hother) number (hnew.subset hnumber) heq.symm
  obtain ⟨kept, hperm, hsub⟩ := hall
  exact (hperm.map Command.line).nodup_iff.mp (hboth.sublist (hsub.map Command.line))

/-- Lines that add no command leave what is recorded as it is. -/
theorem Recorded.pass {next : Script} (h : Recorded script read)
    (htop : next.topLevel = script.topLevel)
    (hhotkeys : next.hotkeys = script.hotkeys) (hfunctions : next.functions = script.functions) :
    Recorded next (read ++ taken) where
  topLevel := htop ▸ h.topLevel.mono (List.sublist_append_left read taken)
  hotkeys := fun entry hentry =>
    (h.hotkeys entry (hhotkeys ▸ hentry)).mono (List.sublist_append_left read taken)
  functions := fun entry hentry =>
    (h.functions entry (hfunctions ▸ hentry)).mono (List.sublist_append_left read taken)
  once := by
    have hall : next.allCommands = script.allCommands := by
      rw [allCommands, allCommands, htop, hhotkeys, hfunctions]
    exact hall ▸ h.once

/-- A line of the top level is recorded with its own number. -/
theorem Recorded.append_topLevel (h : Recorded script read)
    (hnodup : ((read ++ [line]).map SourceLine.number).Nodup) :
    Recorded { script with topLevel := script.topLevel ++ [line.command] } (read ++ [line]) where
  topLevel := h.topLevel.append_line line
  hotkeys :=
    fun entry hentry => (h.hotkeys entry hentry).mono (List.sublist_append_left read [line])
  functions :=
    fun entry hentry => (h.functions entry hentry).mono (List.sublist_append_left read [line])
  once := by
    have hnew : [line.command].map Command.line <+ [line].map SourceLine.number := by
      rw [List.map_singleton, SourceLine.command, Command.line_ofText, List.map_singleton]
    refine h.once_of_subperm hnodup hnew ?_
    rw [allCommands, allCommands, List.append_assoc, List.append_assoc, List.append_assoc]
    exact (List.perm_append_comm_assoc _ _ _).subperm

/-- A hotkey is recorded with the lines of its body. -/
theorem Recorded.declare_hotkey (h : Recorded script read)
    (hnodup : ((read ++ taken).map SourceLine.number).Nodup) (hbody : ReadAs taken label body) :
    Recorded { script with hotkeys := script.hotkeys.declare label body } (read ++ taken) where
  topLevel := h.topLevel.mono (List.sublist_append_left read taken)
  hotkeys := by
    intro entry hentry
    rcases Declarations.eq_or_mem_of_mem_declare hentry with rfl | hentry
    · exact hbody.mono (List.sublist_append_right read taken)
    · exact (h.hotkeys entry hentry).mono (List.sublist_append_left read taken)
  functions :=
    fun entry hentry => (h.functions entry hentry).mono (List.sublist_append_left read taken)
  once := by
    refine h.once_of_subperm hnodup hbody.lines_sublist ?_
    have hhotkeys : (script.hotkeys.declare label body).values.flatten <+~ body ++
        script.hotkeys.values.flatten := by
      simpa using Declarations.flatMap_declare_subperm id label body script.hotkeys
    rw [allCommands, allCommands, List.append_assoc, List.append_assoc, ← List.append_assoc body]
    refine ((List.subperm_append_left _).mpr ((List.subperm_append_right _).mpr hhotkeys)).trans ?_
    rw [List.append_assoc, List.append_assoc]
    exact (List.perm_append_comm_assoc _ _ _).subperm

/-- A function is recorded with the lines of its body. -/
theorem Recorded.declare_function {f : Function} (h : Recorded script read)
    (hnodup : ((read ++ taken).map SourceLine.number).Nodup) (hbody : TakenFrom taken f.body) :
    Recorded { script with functions := script.functions.declare name f } (read ++ taken) where
  topLevel := h.topLevel.mono (List.sublist_append_left read taken)
  hotkeys := fun entry hentry => (h.hotkeys entry hentry).mono (List.sublist_append_left read taken)
  functions := by
    intro entry hentry
    rcases Declarations.eq_or_mem_of_mem_declare hentry with rfl | hentry
    · exact hbody.mono (List.sublist_append_right read taken)
    · exact (h.functions entry hentry).mono (List.sublist_append_left read taken)
  once := by
    refine h.once_of_subperm hnodup hbody.lines_sublist ?_
    have hfunctions := Declarations.flatMap_declare_subperm Function.body name f script.functions
    exact ((List.subperm_append_left _).mpr hfunctions).trans (List.perm_append_comm_assoc
      _ _ _).subperm

/-- The lines read so far have different numbers. -/
theorem nodup_initial (hnodup : (source.map SourceLine.number).Nodup)
    (hsource : source = read ++ rest) : (read.map SourceLine.number).Nodup := by
  have hread : read <+ source := hsource ▸ List.sublist_append_left read rest
  exact hnodup.sublist (hread.map SourceLine.number)

/-- **Reading records what it passes.**  The induction is on the reading: the lines read so far and
the lines that are left are together the lines of the text. -/
theorem recorded_readLines (hnodup : (source.map SourceLine.number).Nodup) (script : Script)
    (lines : List SourceLine) :
    ∀ {read : List SourceLine}, source = read ++ lines → Recorded script read →
      Recorded (readLines script lines) source := by
  have hstep : ∀ {read rest : List SourceLine} {line : SourceLine}, source = read ++ line :: rest →
      source = read ++ [line] ++ rest := by
    intro read rest line hsplit
    rw [hsplit, List.append_assoc, List.singleton_append]
  induction script, lines using readLines.induct with
  | case1 script =>
    intro read hsource h
    rw [readLines, hsource, List.append_nil]
    exact h
  | case2 script line rest version hline ih =>
    intro read hsource h
    rw [readLines, hline]
    exact ih (hstep hsource) (h.pass rfl rfl rfl)
  | case3 script line rest hline ih =>
    intro read hsource h
    rw [readLines, hline]
    exact ih (hstep hsource) (h.pass rfl rfl rfl)
  | case4 script line rest list hline ih =>
    intro read hsource h
    rw [readLines, hline]
    exact ih (hstep hsource) (h.pass rfl rfl rfl)
  | case5 script line rest name params hline function =>
    rename_i ih
    intro read hsource h
    rw [readLines, hline]
    obtain ⟨taken, hrest, hbody⟩ := exists_taken_collectBlock 1 rest
    have hnext : source = read ++ (line :: taken) ++ (collectBlock 1 rest).2 := by
      rw [List.append_assoc, List.cons_append, ← hrest]
      exact hsource
    have hbehind : TakenFrom (line :: taken) function.body :=
      hbody.mono (List.sublist_cons_self line taken)
    exact ih hnext (h.declare_function (nodup_initial hnodup hnext) hbehind)
  | case6 script line rest label inline hline body =>
    rename_i ih
    intro read hsource h
    rw [readLines, hline]
    obtain ⟨taken, hrest, hbody⟩ := exists_taken_hotkeyBody hline rest
    have hnext : source = read ++ (line :: taken) ++ (hotkeyBody inline line.number rest).2 := by
      rw [List.append_assoc, List.cons_append, ← hrest]
      exact hsource
    exact ih hnext (h.declare_hotkey (nodup_initial hnodup hnext) hbody)
  | case7 script line rest name value hline ih =>
    intro read hsource h
    rw [readLines, hline]
    exact ih (hstep hsource) (h.pass rfl rfl rfl)
  | case8 script line rest hline c =>
    rename_i ih
    intro read hsource h
    rw [readLines, hline]
    exact ih (hstep hsource) (h.append_topLevel (nodup_initial hnodup (hstep hsource)))

/-! ## Commands in the lines of a text -/

/-- What is before the first double colon of a text, and what is behind it, make up the text. -/
theorem eq_of_splitLabel? {text label after : List Char}
    (h : splitLabel? text = some (label, after)) : text = label ++ ':' :: ':' :: after := by
  induction text generalizing label with
  | nil => cases h
  | cons c rest ih =>
    rw [splitLabel?.eq_def] at h
    dsimp only at h
    split at h
    · cases h
      rfl
    · obtain ⟨⟨before, behind⟩, hrest, heq⟩ := Option.map_eq_some_iff.mp h
      cases heq
      exact congrArg (c :: ·) (ih hrest)

theorem splitLabel?_of_ofLine {text inline : List Char}
    (h : Construct.ofLine text = .hotkey label inline) :
    ∃ before after, splitLabel? text = some (before, after) ∧
      label = String.ofList (Text.trim before) ∧
      inline = Text.trim after := by
  unfold Construct.ofLine at h
  repeat' split at h
  all_goals cases h
  rename_i before after hsplit
  exact ⟨before, after, hsplit, rfl, rfl⟩

/-- How a command stands in its bare line: it is the whole of it, or it is the body of a hotkey of
the script, which stands behind the label of the hotkey and a double colon. -/
inductive StandsIn (script : Script) (bare : List Char) (c : Command) : Prop
  | whole (raw : c.raw.toList = bare) : StandsIn script bare c
  | behindLabel {label after : List Char} (line : bare = label ++ ':' :: ':' :: after)
      (first : splitLabel? bare = some (label, after)) (ne_nil : Text.trim after ≠ [])
      (raw : c.raw.toList = Text.trim after)
      (hotkey : (String.ofList (Text.trim label), [c]) ∈ script.hotkeys) : StandsIn script bare c

/-- The commands of a script keep their lines in a text: each has a number of one of the lines, what
it was written as is not empty and ends its bare line, the numbers go up within the top level, each
hotkey and each function, and none occurs twice. -/
structure KeepsLines (script : Script) (lines : List (List Char)) : Prop where
  line : ∀ c ∈ script.allCommands, 1 ≤ c.line ∧ c.line ≤ lines.length ∧
    ∃ line, lines[c.line - 1]? = some line ∧
      c.raw ≠ "" ∧ c.raw.toList <:+ bareLine line ∧ StandsIn script (bareLine line) c
  topLevel : script.topLevel.Pairwise (·.line < ·.line)
  hotkeys : ∀ body ∈ script.hotkeys.values, body.Pairwise (·.line < ·.line)
  functions : ∀ f ∈ script.functions.values, f.body.Pairwise (·.line < ·.line)
  once : (script.allCommands.map Command.line).Nodup

/-- Where the numbers of the lines go up, those of commands made from them do. -/
theorem pairwise_of_lines_sublist (h : cs.map Command.line <+ lines.map SourceLine.number)
    (hlines : (lines.map SourceLine.number).Pairwise (· < ·)) : cs.Pairwise (·.line < ·.line) :=
  List.pairwise_map.mp (hlines.sublist h)

/-- A command that is the whole of a line stands in it so. -/
theorem standsIn_command (line : SourceLine) : StandsIn script line.text line.command := by
  refine .whole ?_
  rw [SourceLine.command, Command.raw_ofText, String.toList_ofList]

/-- A command that stands behind a label stands in the line of the label so. -/
theorem StandsBehind.standsIn (h : StandsBehind line label c)
    (hotkey : (label, [c]) ∈ script.hotkeys) : StandsIn script line.text c := by
  obtain ⟨inline, hline, hne, hc⟩ := h
  obtain ⟨before, after, hsplit, rfl, rfl⟩ := splitLabel?_of_ofLine hline
  refine .behindLabel (eq_of_splitLabel? hsplit) hsplit hne ?_ hotkey
  rw [hc, Command.raw_ofText, String.toList_ofList]

/-- Every command of a recorded script stands in one of the lines and has its number. -/
theorem Recorded.exists_line (h : Recorded script source) (hc : c ∈ script.allCommands) :
    ∃ line ∈ source, c.line = line.number ∧ StandsIn script line.text c := by
  have htaken : ∀ {cs}, TakenFrom source cs → c ∈ cs →
      ∃ line ∈ source, c.line = line.number ∧ StandsIn script line.text c := by
    rintro _ ⟨chosen, hchosen, rfl⟩ hc
    obtain ⟨line, hline, rfl⟩ := List.mem_map.mp hc
    exact ⟨line, hchosen.subset hline, Command.line_ofText line.text line.number,
      standsIn_command line⟩
  rcases mem_allCommands.mp hc with hc | ⟨⟨label, body⟩, hentry, hc⟩ | ⟨entry, hentry, hc⟩
  · exact htaken h.topLevel hc
  · cases h.hotkeys _ hentry with
    | block hbody => exact htaken hbody hc
    | @inline line c' hline hbehind =>
      obtain rfl := List.mem_singleton.mp hc
      refine ⟨line, hline, ?_, hbehind.standsIn hentry⟩
      obtain ⟨inline, -, -, rfl⟩ := hbehind
      exact Command.line_ofText inline line.number
  · exact htaken (h.functions entry hentry) hc

theorem StandsIn.raw_ne_empty {bare : List Char} (h : StandsIn script bare c) (hbare : bare ≠ []) :
    c.raw ≠ "" := by
  intro hraw
  have hnil : c.raw.toList = [] := by rw [hraw]; rfl
  cases h with
  | whole raw => exact hbare (raw ▸ hnil)
  | behindLabel line first ne_nil raw hotkey => exact ne_nil (raw ▸ hnil)

/-- What a command was written as is the end of its bare line. -/
theorem StandsIn.raw_suffix {bare : List Char} (h : StandsIn script bare c)
    (hlast : ∀ c ∈ bare.getLast?, Text.isBlank c = false) : c.raw.toList <:+ bare := by
  cases h with
  | whole raw => exact raw ▸ List.suffix_refl bare
  | @behindLabel label after line first ne_nil raw hotkey =>
    have hafter : after <:+ bare := ⟨label ++ [':', ':'], by rw [line, List.append_assoc]; rfl⟩
    exact raw ▸ Text.trim_suffix hafter hlast

/-- **Commands keep their lines.**  This is so for every text, also for one whose braces do not
match or whose functions and hotkeys are declared more than once. -/
theorem commands_keep_their_lines (text : String) :
    KeepsLines (ofText text) (Text.lines (Text.withoutMark text.toList)) := by
  have hnumbers := pairwise_sourceLines text.toList
  have hrecorded : Recorded (ofText text) (sourceLines text.toList) :=
    recorded_readLines (hnumbers.imp Nat.ne_of_lt) {} (sourceLines text.toList) rfl recorded_empty
  constructor
  · intro c hc
    obtain ⟨line, hline, hnumber, hstands⟩ := hrecorded.exists_line hc
    obtain ⟨hfirst, hne, written, hwritten, hbare⟩ := getElem?_of_mem_sourceLines hline
    obtain ⟨hlength, -⟩ := List.getElem?_eq_some_iff.mp hwritten
    rw [hbare] at hne hstands
    rw [hnumber]
    refine ⟨hfirst, by omega, written, hwritten, hstands.raw_ne_empty hne, ?_, hstands⟩
    exact hstands.raw_suffix (Text.isBlank_getLast?_trim _)
  · exact pairwise_of_lines_sublist hrecorded.topLevel.lines_sublist hnumbers
  · intro body hbody
    obtain ⟨entry, hentry, rfl⟩ := List.mem_map.mp hbody
    exact pairwise_of_lines_sublist (hrecorded.hotkeys entry hentry).lines_sublist hnumbers
  · intro f hf
    obtain ⟨entry, hentry, rfl⟩ := List.mem_map.mp hf
    exact pairwise_of_lines_sublist (hrecorded.functions entry hentry).lines_sublist hnumbers
  · exact hrecorded.once

end ActionBoard.Script
