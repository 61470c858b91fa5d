import ActionBoard.Proofs.Script.Line
import ActionBoard.Script.Source
import Mathlib.Data.List.Basic

/-!
# Scripts that are read as they are written

A `Listing` is a script before it is written: globals, functions, hotkeys and commands with the
names, labels and arguments that can be written.  It is written line by line in that order, and
what is read from the lines is the script that was written, every command with the text and the
number of its line:

* `ofText_text`: reading the text of a listing gives its script.

Three facts make up the proof.  Every line is kept as it is when comments, white space and
empty lines are taken away (`sourceLines_text`).  A body ends at its closing brace, because no
command has a brace in it (`collectBlock_body`).  And a name that is declared for the first
time is declared last (`foldl_declare`).  Each section of the listing is then read with the
lines behind it left over.
-/

namespace ActionBoard.Declarations

variable {β : Type}

theorem declare_of_notMem {name : String} {value : β} {declarations : Declarations β}
    (h : name ∉ declarations.names) : declarations.declare name value =
      declarations ++ [(name, value)] := by
  induction declarations with
  | nil => rfl
  | cons first rest ih =>
    obtain ⟨key, old⟩ := first
    obtain ⟨hne, hrest⟩ : name ≠ key ∧ name ∉ names rest := by simpa [names] using h
    rw [declare, if_neg hne.symm, ih hrest, List.cons_append]

/-- New names are declared behind the others, in their order. -/
theorem foldl_declare {entries declarations : Declarations β}
    (hnodup : (declarations.names ++ entries.names).Nodup) :
    entries.foldl (fun declared entry => declare entry.1 entry.2 declared) declarations =
      declarations ++ entries := by
  induction entries generalizing declarations with
  | nil => exact (List.append_nil declarations).symm
  | cons entry rest ih =>
    have hfresh : entry.1 ∉ declarations.names := fun hmem =>
      (List.nodup_append.mp hnodup).2.2 entry.1 hmem entry.1 List.mem_cons_self rfl
    have hrest : ((declarations ++ [entry]).names ++ names rest).Nodup := by
      simpa [names] using hnodup
    rw [List.foldl_cons, declare_of_notMem hfresh, ih hrest, List.append_assoc,
      List.singleton_append]

end ActionBoard.Declarations

namespace ActionBoard.Script

/-! ## What is written -/

/-- A command that is written as a call. -/
structure Call where
  name : String
  args : List String
  isIdentifier : IsIdentifier name.toList
  isArgument : ∀ arg ∈ args, IsArgument arg.toList

/-- A global with the text of its value. -/
structure WrittenGlobal where
  name : String
  value : String
  isIdentifier : IsIdentifier name.toList
  isArgument : IsArgument value.toList

structure WrittenFunction where
  name : String
  params : List String
  body : List Call
  isIdentifier : IsIdentifier name.toList
  isIdentifier_params : ∀ p ∈ params, IsIdentifier p.toList

structure WrittenHotkey where
  label : String
  body : List Call
  isLabel : IsLabel label.toList

/-- A script before it is written. -/
structure Listing where
  globals : List WrittenGlobal
  functions : List WrittenFunction
  hotkeys : List WrittenHotkey
  topLevel : List Call
  nodup_globals : (globals.map WrittenGlobal.name).Nodup
  nodup_functions : (functions.map WrittenFunction.name).Nodup
  nodup_hotkeys : (hotkeys.map WrittenHotkey.label).Nodup

/-! ## How it is written -/

namespace Call

def text (call : Call) : List Char :=
  callText call.name.toList call.args

/-- The command of a call that is written in the given line. -/
def command (call : Call) (line : Nat) : Command :=
  ⟨call.name, call.args, String.ofList call.text, line⟩

/-- The commands of calls in consecutive lines, the first of which is given. -/
def commands (first : Nat) : List Call → List Command
  | [] => []
  | call :: rest => call.command first :: commands (first + 1) rest

end Call

/-- The lines of a body between its header and the brace that closes it. -/
def blockLines (header : List Char) (body : List Call) : List (List Char) :=
  header :: (body.map Call.text ++ [['}']])

namespace WrittenGlobal

def line (g : WrittenGlobal) : List Char :=
  globalText g.name.toList g.value.toList

def entry (g : WrittenGlobal) : String × String :=
  (g.name, g.value)

end WrittenGlobal

namespace WrittenFunction

def lines (f : WrittenFunction) : List (List Char) :=
  blockLines (headerText f.name.toList f.params) f.body

/-- The function that is declared from the given line on. -/
def entry (f : WrittenFunction) (first : Nat) : String × Function :=
  (f.name, ⟨f.name, f.params, Call.commands (first + 1) f.body⟩)

/-- The functions that are declared one after the other, from the given line on. -/
def entries (first : Nat) : List WrittenFunction → Declarations Function
  | [] => []
  | f :: rest => f.entry first :: entries (first + f.lines.length) rest

end WrittenFunction

namespace WrittenHotkey

def lines (k : WrittenHotkey) : List (List Char) :=
  blockLines (labelText k.label.toList) k.body

/-- The hotkey that is declared from the given line on. -/
def entry (k : WrittenHotkey) (first : Nat) : String × List Command :=
  (k.label, Call.commands (first + 1) k.body)

/-- The hotkeys that are declared one after the other, from the given line on. -/
def entries (first : Nat) : List WrittenHotkey → Declarations (List Command)
  | [] => []
  | k :: rest => k.entry first :: entries (first + k.lines.length) rest

end WrittenHotkey

namespace Listing

def globalLines (l : Listing) : List (List Char) :=
  l.globals.map WrittenGlobal.line

def functionLines (l : Listing) : List (List Char) :=
  l.functions.flatMap WrittenFunction.lines

def hotkeyLines (l : Listing) : List (List Char) :=
  l.hotkeys.flatMap WrittenHotkey.lines

def commandLines (l : Listing) : List (List Char) :=
  l.topLevel.map Call.text

/-- The sections one after the other: globals, functions, hotkeys and the commands at the top
level. -/
def lines (l : Listing) : List (List Char) :=
  l.globalLines ++ (l.functionLines ++ (l.hotkeyLines ++ l.commandLines))

/-- The text of a listing, in which every line ends in a line feed. -/
def text (l : Listing) : String :=
  String.ofList (l.lines.flatMap fun line => line ++ ['\n'])

/-- The number of the first line of a function. -/
def firstFunction (l : Listing) : Nat :=
  1 + l.globalLines.length

def firstHotkey (l : Listing) : Nat :=
  l.firstFunction + l.functionLines.length

def firstCommand (l : Listing) : Nat :=
  l.firstHotkey + l.hotkeyLines.length

/-- The script that is written by a listing. -/
def script (l : Listing) : Script where
  globals := l.globals.map WrittenGlobal.entry
  functions := WrittenFunction.entries l.firstFunction l.functions
  hotkeys := WrittenHotkey.entries l.firstHotkey l.hotkeys
  topLevel := Call.commands l.firstCommand l.topLevel

end Listing

/-! ## Lines that are kept -/

/-- A line of which nothing is taken away. -/
structure IsSettled (line : List Char) : Prop where
  ne_nil : line ≠ []
  one_line : '\n' ∉ line
  balanced : Balanced true line
  head_isLabelChar : ∀ c ∈ line.head?, isLabelChar c = true ∨ c = '}'
  last_not_blank : ∀ c ∈ line.getLast?, Text.isBlank c = false

namespace IsSettled

variable {line : List Char}

theorem head_not_blank (h : IsSettled line) : ∀ c ∈ line.head?, Text.isBlank c = false := by
  intro c hc
  rcases h.head_isLabelChar c hc with hlabel | rfl
  · exact isBlank_eq_false_of_isLabelChar hlabel
  · decide

theorem trim_stripComment (h : IsSettled line) : Text.trim (stripComment line) = line := by
  rw [stripComment_of_balanced h.balanced, Text.trim_eq_self h.head_not_blank h.last_not_blank]

theorem last_ne_return (h : IsSettled line) : line.getLast? ≠ some '\r' := by
  intro hlast
  exact absurd (h.last_not_blank '\r' hlast) (by decide)

end IsSettled

theorem balanced_commaSeparated {args : List String} (h : ∀ arg ∈ args, IsArgument arg.toList) :
    Balanced true (commaSeparated args) := by
  induction args with
  | nil => exact .nil
  | cons arg rest ih =>
    have harg : Balanced true arg.toList := (h arg List.mem_cons_self).balanced.allowing
    cases rest with
    | nil =>
      rw [commaSeparated, List.map_singleton, List.intercalate_singleton]
      exact harg
    | cons next rest =>
      rw [commaSeparated_cons_cons]
      exact harg.append (.comma
        (.char (by decide) (ih fun other hother => h other (List.mem_cons_of_mem arg hother))))

theorem IsIdentifier.balanced {name : List Char} (h : IsIdentifier name) {commas : Bool} :
    Balanced commas name :=
  .of_unmarked fun c hc => isMarking_eq_false_of_isLabelChar (h.isLabelChar c hc)

theorem IsIdentifier.head_append {name : List Char} (h : IsIdentifier name) (rest : List Char) :
    ∀ c ∈ (name ++ rest).head?, Script.isLabelChar c = true ∨ c = '}' := by
  obtain ⟨c, others, rfl, -⟩ := h.exists_cons
  rintro d ⟨⟩
  exact .inl (h.isLabelChar c List.mem_cons_self)

theorem isSettled_closing : IsSettled ['}'] where
  ne_nil := List.cons_ne_nil _ _
  one_line := by decide
  balanced := .of_all rfl
  head_isLabelChar := by
    rintro c ⟨⟩
    exact .inr rfl
  last_not_blank := by
    rintro c ⟨⟩
    rfl

/-- A call with something behind it is settled if its end is. -/
theorem isSettled_callText_append {name : List Char} {args : List String}
    (hname : IsIdentifier name)
    (hargs : ∀ arg ∈ args, IsArgument arg.toList) {rest : List Char} (hrest : rest ⊆ [' ', '{'])
    (hlast : ∀ c ∈ (callText name args ++ rest).getLast?, Text.isBlank c = false) :
    IsSettled (callText name args ++ rest) where
  ne_nil := by simp [callText]
  one_line := by
    have hargs : '\n' ∉ commaSeparated args :=
      notMem_commaSeparated (fun arg harg => (hargs arg harg).one_line) (by decide) (by decide)
    have hrest : '\n' ∉ rest := fun hmem => absurd (hrest hmem) (by decide)
    simp [callText, hname.isArgument.one_line, hargs, hrest]
  balanced := by
    have hunmarked : ∀ c ∈ rest, isMarking c = false := by
      intro c hc
      have hmem := hrest hc
      simp only [List.mem_cons, List.not_mem_nil, or_false] at hmem
      rcases hmem with rfl | rfl
      · rfl
      · rfl
    rw [callText, List.append_assoc, List.cons_append, List.append_assoc, List.singleton_append]
    exact hname.balanced.append (.parens (balanced_commaSeparated hargs) (.of_unmarked hunmarked))
  head_isLabelChar := by
    rw [callText, List.append_assoc]
    exact hname.head_append _
  last_not_blank := hlast

theorem Call.isSettled_text (call : Call) : IsSettled call.text := by
  have hlast : ∀ c ∈ (callText call.name.toList call.args ++ []).getLast?,
      Text.isBlank c = false := by
    have hsplit : callText call.name.toList call.args ++ [] =
        (call.name.toList ++ '(' :: commaSeparated call.args) ++ [')'] := by simp [callText]
    rw [hsplit, List.getLast?_concat]
    rintro c ⟨⟩
    rfl
  have hsettled :=
    isSettled_callText_append call.isIdentifier call.isArgument (List.nil_subset _) hlast
  rwa [List.append_nil] at hsettled

theorem isSettled_headerText (f : WrittenFunction) :
    IsSettled (headerText f.name.toList f.params) := by
  have hlast :
      ∀ c ∈ (callText f.name.toList f.params ++ [' ', '{']).getLast?, Text.isBlank c = false := by
    rw [List.append_cons, List.getLast?_concat]
    rintro c ⟨⟩
    rfl
  exact isSettled_callText_append f.isIdentifier
    (fun p hp => (f.isIdentifier_params p hp).isArgument)
    (List.Subset.refl _) hlast

theorem isSettled_labelText (k : WrittenHotkey) : IsSettled (labelText k.label.toList) where
  ne_nil := by simp [labelText]
  one_line := by simpa [labelText] using notMem_of_forall k.isLabel.chars (c := '\n') (by decide)
  balanced := by
    refine Balanced.append (.of_unmarked fun c hc => ?_) (.of_all rfl)
    exact isMarking_eq_false_of_isLabelChar (k.isLabel.chars c hc)
  head_isLabelChar := by
    intro c hc
    rw [labelText, List.head?_append_of_ne_nil _ k.isLabel.ne_nil] at hc
    exact .inl (k.isLabel.chars c (List.mem_of_mem_head? hc))
  last_not_blank := by
    rw [labelText, List.getLast?_append_of_ne_nil _ (List.cons_ne_nil _ _)]
    rintro c ⟨⟩
    rfl

theorem WrittenGlobal.isArgument_assignment (g : WrittenGlobal) :
    IsArgument (assignmentText g.name.toList g.value.toList) :=
  isArgument_assignmentText g.isIdentifier g.isArgument

theorem WrittenGlobal.isSettled_line (g : WrittenGlobal) : IsSettled g.line where
  ne_nil := List.append_ne_nil_of_right_ne_nil _ (List.cons_ne_nil _ _)
  one_line := by
    intro hmem
    rcases List.mem_append.mp hmem with hword | hbehind
    · exact absurd hword (by decide)
    · rcases List.mem_cons.mp hbehind with hblank | hassignment
      · exact absurd hblank (by decide)
      · exact g.isArgument_assignment.one_line hassignment
  balanced := Balanced.append (.of_all rfl) (.char rfl g.isArgument_assignment.balanced.allowing)
  head_isLabelChar := by
    rintro c ⟨⟩
    exact .inl rfl
  last_not_blank := by
    have hsplit : g.line = ("global".toList ++ [' ']) ++ assignmentText g.name.toList
        g.value.toList :=
      List.append_cons "global".toList ' ' _
    rw [hsplit, List.getLast?_append_of_ne_nil _ g.isArgument_assignment.ne_nil]
    exact g.isArgument_assignment.last_not_blank

theorem isSettled_of_mem_blockLines {header : List Char} {body : List Call}
    (hheader : IsSettled header)
    {line : List Char} (hline : line ∈ blockLines header body) : IsSettled line := by
  rw [blockLines, List.mem_cons, List.mem_append, List.mem_map, List.mem_singleton] at hline
  rcases hline with rfl | ⟨call, -, rfl⟩ | rfl
  · exact hheader
  · exact call.isSettled_text
  · exact isSettled_closing

theorem Listing.isSettled_of_mem_lines {l : Listing} {line : List Char} (hline : line ∈ l.lines) :
    IsSettled line := by
  simp only [lines, globalLines, functionLines, hotkeyLines, commandLines,
    List.mem_append, List.mem_map, List.mem_flatMap] at hline
  rcases hline with ⟨g, -, rfl⟩ | ⟨f, -, hline⟩ | ⟨k, -, hline⟩ | ⟨call, -, rfl⟩
  · exact g.isSettled_line
  · exact isSettled_of_mem_blockLines (isSettled_headerText f) hline
  · exact isSettled_of_mem_blockLines (isSettled_labelText k) hline
  · exact call.isSettled_text

/-! ## Numbered lines -/

theorem numberLines_append (first : Nat) (before rest : List (List Char)) :
    numberLines first (before ++ rest) = numberLines first before ++
      numberLines (first + before.length) rest := by
  induction before generalizing first with
  | nil => rfl
  | cons line before ih =>
    rw [List.cons_append, numberLines, numberLines, ih, List.cons_append, List.length_cons,
      Nat.add_right_comm, Nat.add_assoc]

theorem text_mem_of_mem_numberLines {first : Nat} {lines : List (List Char)} {line : SourceLine}
    (h : line ∈ numberLines first lines) : line.text ∈ lines := by
  induction lines generalizing first with
  | nil => cases h
  | cons text rest ih =>
    rcases List.mem_cons.mp h with rfl | h
    · exact List.mem_cons_self
    · exact List.mem_cons_of_mem text (ih h)

/-- A text that does not begin with a mark is read from its start. -/
theorem sourceLines_of_unmarked {text : List Char} (h : ∀ c ∈ text.head?, c ≠ Text.byteOrderMark) :
    sourceLines text =
      ((numberLines 1 (Text.lines text)).map fun line =>
        { line with text := Text.trim (stripComment line.text) }).filter fun line =>
          !line.text.isEmpty := by
  cases text with
  | nil => rfl
  | cons c rest => simp [sourceLines, h c rfl]

/-- Settled lines do not begin with a mark. -/
theorem head_ne_mark {lines : List (List Char)} (h : ∀ line ∈ lines, IsSettled line) :
    ∀ c ∈ (lines.flatMap fun line => line ++ ['\n']).head?, c ≠ Text.byteOrderMark := by
  cases lines with
  | nil =>
    intro c hc
    cases hc
  | cons line rest =>
    have hline : IsSettled line := h line List.mem_cons_self
    rintro c hc rfl
    rw [List.flatMap_cons, List.append_assoc, List.head?_append_of_ne_nil line hline.ne_nil] at hc
    have hmark : isLabelChar Text.byteOrderMark = false := by decide +kernel
    exact (hline.head_isLabelChar _ hc).elim (fun hlabel => Bool.false_ne_true (hmark ▸ hlabel))
      (by decide)

/-- Nothing is taken away from the lines of a listing. -/
theorem Listing.sourceLines_text (l : Listing) :
    sourceLines l.text.toList = numberLines 1 l.lines := by
  have hlines : Text.lines (l.lines.flatMap fun line => line ++ ['\n']) = l.lines :=
    Text.lines_flatMap (fun line hline => (isSettled_of_mem_lines hline).one_line)
      fun line hline => (isSettled_of_mem_lines hline).last_ne_return
  have hkept : ∀ line ∈ numberLines 1 l.lines, IsSettled line.text := fun line hline =>
    isSettled_of_mem_lines (text_mem_of_mem_numberLines hline)
  have hstripped : ((numberLines 1 l.lines).map fun line =>
      { line with text := Text.trim (stripComment line.text) }) =
      numberLines 1 l.lines := by
    conv_rhs => rw [← List.map_id (numberLines 1 l.lines)]
    refine List.map_congr_left fun line hline => ?_
    rw [(hkept line hline).trim_stripComment]
    rfl
  have hnonempty : ((numberLines 1 l.lines).filter fun line => !line.text.isEmpty) =
      numberLines 1 l.lines := by
    refine List.filter_eq_self.mpr fun line hline => ?_
    simpa using (hkept line hline).ne_nil
  rw [text, String.toList_ofList,
    sourceLines_of_unmarked (head_ne_mark fun line => isSettled_of_mem_lines), hlines,
    hstripped, hnonempty]

/-! ## Bodies -/

/-- No command has a brace in it. -/
theorem Call.notMem_text (call : Call) {c : Char} (hc : c = '{' ∨ c = '}') : c ∉ call.text := by
  have hargs : ∀ arg ∈ call.args, c ∉ arg.toList := by
    intro arg harg
    rcases hc with rfl | rfl
    · exact (call.isArgument arg harg).no_opening
    · exact (call.isArgument arg harg).no_closing
  have hname : c ∉ call.name.toList := by
    rcases hc with rfl | rfl
    · exact call.isIdentifier.isArgument.no_opening
    · exact call.isIdentifier.isArgument.no_closing
  have hbetween : c ∉ commaSeparated call.args := by
    rcases hc with rfl | rfl
    · exact notMem_commaSeparated hargs (by decide) (by decide)
    · exact notMem_commaSeparated hargs (by decide) (by decide)
  rcases hc with rfl | rfl
  · simp [text, callText, hname, hbetween]
  · simp [text, callText, hname, hbetween]

theorem Call.braceBalance_text (call : Call) : braceBalance call.text = 0 := by
  rw [braceBalance, List.count_eq_zero_of_not_mem (call.notMem_text (.inl rfl)),
    List.count_eq_zero_of_not_mem (call.notMem_text (.inr rfl))]
  rfl

/-- A body ends at the brace that closes it. -/
theorem collectBlock_body (first : Nat) (body : List Call) (rest : List SourceLine) :
    collectBlock 1 (numberLines first (body.map Call.text ++ [['}']]) ++ rest) =
      (numberLines first (body.map Call.text), rest) := by
  induction body generalizing first with
  | nil => rfl
  | cons call body ih =>
    rw [List.map_cons, List.cons_append, numberLines, List.cons_append, collectBlock]
    dsimp only
    rw [call.braceBalance_text, Int.add_zero, if_neg (by decide), ih, numberLines]

theorem Call.ofText_eq_command (call : Call) (line : Nat) :
    Command.ofText call.text line = call.command line := by
  have hline : '\n' ∉ commaSeparated call.args :=
    notMem_commaSeparated (fun arg harg => (call.isArgument arg harg).one_line)
      (by decide) (by decide)
  rw [Command.ofText, text, readCall?_callText call.isIdentifier hline]
  simp [command, text, arguments_commaSeparated call.isArgument]

/-- The commands of a body are those that were written. -/
theorem bodyCommands_body (first : Nat) (body : List Call) :
    bodyCommands (numberLines first (body.map Call.text)) = Call.commands first body := by
  induction body generalizing first with
  | nil => rfl
  | cons call body ih =>
    have hne : call.text ≠ ['}'] := fun heq => call.notMem_text (.inr rfl)
      (heq ▸ List.mem_cons_self)
    have hkept : (call.text != ['}']) = true := by simpa using hne
    have hrest := ih (first + 1)
    rw [bodyCommands] at hrest
    rw [List.map_cons, numberLines, bodyCommands,
      List.filter_cons_of_pos (p := fun line : SourceLine => line.text != ['}']) hkept,
        List.map_cons, hrest,
      call.ofText_eq_command, Call.commands]

/-! ## Sections -/

variable (script : Script) (first : Nat) (rest : List (List Char))

/-- A global is declared by its line. -/
theorem readLines_global (g : WrittenGlobal) :
    readLines script (numberLines first (g.line :: rest)) =
      readLines { script with globals := script.globals.declare g.name g.value }
        (numberLines (first + 1) rest) := by
  rw [numberLines, readLines, WrittenGlobal.line, ofLine_globalText g.isIdentifier]
  dsimp only
  rw [declareGlobals, g.isArgument_assignment.isPart.splitArgs_eq]
  simp [readAssignment?_assignmentText g.isIdentifier g.isArgument]

/-- A function is declared by its header, with the commands up to the closing brace. -/
theorem readLines_function (f : WrittenFunction) :
    readLines script (numberLines first (f.lines ++ rest)) =
      readLines
        { script with functions := script.functions.declare (f.entry first).1 (f.entry first).2 }
        (numberLines (first + f.lines.length) rest) := by
  rw [numberLines_append, WrittenFunction.lines, blockLines, numberLines,
    List.cons_append, readLines, ofLine_headerText f.isIdentifier f.isIdentifier_params]
  dsimp only
  rw [collectBlock_body, bodyCommands_body, String.ofList_toList]
  rfl

/-- A hotkey is declared by its label, with the commands up to the closing brace. -/
theorem readLines_hotkey (k : WrittenHotkey) :
    readLines script (numberLines first (k.lines ++ rest)) =
      readLines
        { script with hotkeys := script.hotkeys.declare (k.entry first).1 (k.entry first).2 }
        (numberLines (first + k.lines.length) rest) := by
  rw [numberLines_append, WrittenHotkey.lines, blockLines, numberLines, List.cons_append, readLines,
    ofLine_labelText k.isLabel]
  dsimp only
  rw [hotkeyBody]
  simp only [List.isEmpty_cons, beq_self_eq_true, Bool.or_true, if_true,
    Bool.false_eq_true, if_false]
  rw [collectBlock_body, bodyCommands_body, String.ofList_toList]
  rfl

/-- A command at the top level is a line of its own. -/
theorem readLines_command (call : Call) :
    readLines script (numberLines first (call.text :: rest)) =
      readLines { script with topLevel := script.topLevel ++ [call.command first] }
        (numberLines (first + 1) rest) := by
  rw [numberLines, readLines, Call.text, ofLine_callText call.isIdentifier call.isArgument]
  dsimp only
  rw [← Call.text, call.ofText_eq_command]

theorem readLines_globals (globals : List WrittenGlobal) :
    readLines script (numberLines first (globals.map WrittenGlobal.line ++ rest)) =
      readLines
        { script with
          globals := (globals.map WrittenGlobal.entry).foldl (fun declared e => Declarations.declare
            e.1 e.2 declared)
            script.globals }
        (numberLines (first + (globals.map WrittenGlobal.line).length) rest) := by
  induction globals generalizing script first with
  | nil => rfl
  | cons g globals ih =>
    rw [List.map_cons, List.cons_append, readLines_global, ih, List.length_cons, Nat.add_right_comm,
      ← Nat.add_assoc]
    rfl

theorem readLines_functions (functions : List WrittenFunction) :
    readLines script (numberLines first (functions.flatMap WrittenFunction.lines ++ rest)) =
      readLines
        { script with
          functions := (WrittenFunction.entries first functions).foldl
            (fun declared e => Declarations.declare e.1 e.2 declared) script.functions }
        (numberLines (first + (functions.flatMap WrittenFunction.lines).length) rest) := by
  induction functions generalizing script first with
  | nil => rfl
  | cons f functions ih =>
    rw [List.flatMap_cons, List.append_assoc, readLines_function, ih, List.length_append,
      ← Nat.add_assoc]
    rfl

theorem readLines_hotkeys (hotkeys : List WrittenHotkey) :
    readLines script (numberLines first (hotkeys.flatMap WrittenHotkey.lines ++ rest)) =
      readLines
        { script with
          hotkeys := (WrittenHotkey.entries first hotkeys).foldl
            (fun declared e => Declarations.declare e.1 e.2 declared) script.hotkeys }
        (numberLines (first + (hotkeys.flatMap WrittenHotkey.lines).length) rest) := by
  induction hotkeys generalizing script first with
  | nil => rfl
  | cons k hotkeys ih =>
    rw [List.flatMap_cons, List.append_assoc, readLines_hotkey, ih, List.length_append,
      ← Nat.add_assoc]
    rfl

theorem readLines_commands (calls : List Call) :
    readLines script (numberLines first (calls.map Call.text)) =
      { script with topLevel := script.topLevel ++ Call.commands first calls } := by
  induction calls generalizing script first with
  | nil => simp [numberLines, readLines, Call.commands]
  | cons call calls ih =>
    rw [List.map_cons, readLines_command, ih, List.append_assoc, List.singleton_append,
      Call.commands]

/-! ## Listings -/

theorem WrittenFunction.names_entries (functions : List WrittenFunction) :
    (entries first functions).names = functions.map name := by
  induction functions generalizing first with
  | nil => rfl
  | cons f functions ih =>
    have hrest := ih (first + f.lines.length)
    rw [Declarations.names] at hrest
    rw [Declarations.names, entries, List.map_cons, hrest, List.map_cons]
    rfl

theorem WrittenHotkey.names_entries (hotkeys : List WrittenHotkey) :
    (entries first hotkeys).names = hotkeys.map label := by
  induction hotkeys generalizing first with
  | nil => rfl
  | cons k hotkeys ih =>
    have hrest := ih (first + k.lines.length)
    rw [Declarations.names] at hrest
    rw [Declarations.names, entries, List.map_cons, hrest, List.map_cons]
    rfl

/-- What is declared for the first time is declared in the order in which it is written. -/
theorem foldl_declare_nil {β : Type} {entries : Declarations β} (h : entries.names.Nodup) :
    entries.foldl (fun declared e => Declarations.declare e.1 e.2 declared) [] = entries :=
  @Declarations.foldl_declare β entries [] h

/-- **What is read from the text of a listing is the script that was written**: the same globals,
functions, hotkeys and commands in the same order, with the same names, parameters, arguments, texts
and numbers of lines. -/
theorem Listing.ofText_text (l : Listing) : ofText l.text = l.script := by
  have hglobals : Declarations.names (l.globals.map WrittenGlobal.entry) =
      l.globals.map WrittenGlobal.name := by
    simp [Declarations.names, Function.comp_def, WrittenGlobal.entry]
  rw [ofText, l.sourceLines_text, lines, globalLines, readLines_globals, functionLines,
    readLines_functions, hotkeyLines, readLines_hotkeys, commandLines, readLines_commands]
  rw [foldl_declare_nil (hglobals ▸ l.nodup_globals),
    foldl_declare_nil ((WrittenFunction.names_entries _ _).symm ▸ l.nodup_functions),
    foldl_declare_nil ((WrittenHotkey.names_entries _ _).symm ▸ l.nodup_hotkeys)]
  rfl

/-- An argument in quotes, within which commas and semicolons mean nothing. -/
def quotedArgument : String :=
  "\"a, b; c\""

theorem isArgument_quotedArgument : IsArgument quotedArgument.toList where
  ne_nil := by decide
  head_not_blank := by
    rintro c ⟨⟩
    rfl
  last_not_blank := by
    rintro c ⟨⟩
    rfl
  balanced := @Balanced.quotes false '"' "a, b; c".toList [] (.inl rfl) (by decide) .nil
  no_opening := by decide
  no_closing := by decide
  no_label_mark := fun h => absurd (h.subset List.mem_cons_self) (by decide)
  one_line := by decide

/-- A call with names as its arguments. -/
def Call.ofNames (name : String) (args : List String) (h : IsIdentifier name.toList)
    (hargs : ∀ arg ∈ args, IsIdentifier arg.toList) : Call :=
  ⟨name, args, h, fun arg harg => (hargs arg harg).isArgument⟩

/-- A listing with something in each of its sections. -/
def Listing.greeting : Listing where
  globals := [⟨"greeting", quotedArgument, by decide, isArgument_quotedArgument⟩]
  functions :=
    [⟨"Greet", ["who"], [.ofNames "MsgBox" ["greeting", "who"] (by decide) (by decide)],
      by decide, by decide⟩]
  hotkeys :=
    [⟨"^!h", [⟨"Greet", [quotedArgument], by decide,
      List.forall_mem_singleton.mpr isArgument_quotedArgument⟩],
      ⟨by decide, List.all_eq_true.mp (by decide)⟩⟩]
  topLevel := [.ofNames "Greet" ["greeting"] (by decide) (by decide)]
  nodup_globals := by decide
  nodup_functions := by decide
  nodup_hotkeys := by decide

theorem Listing.ofText_text_of_greeting :
    greeting.text = "global greeting := \"a, b; c\"\n" ++
      "Greet(who) \x7b\nMsgBox(greeting, who)\n\x7d\n" ++
      "^!h:: \x7b\nGreet(\"a, b; c\")\n\x7d\n" ++ "Greet(greeting)\n" ∧
    ofText greeting.text =
      { globals := [("greeting", quotedArgument)]
        functions := [("Greet", ⟨"Greet", ["who"],
          [⟨"MsgBox", ["greeting", "who"], "MsgBox(greeting, who)", 3⟩]⟩)]
        hotkeys := [("^!h", [⟨"Greet", [quotedArgument], "Greet(\"a, b; c\")", 6⟩])]
        topLevel := [⟨"Greet", ["greeting"], "Greet(greeting)", 8⟩] } :=
  ⟨by decide, greeting.ofText_text.trans (by decide)⟩

end ActionBoard.Script
