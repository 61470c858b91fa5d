import ActionBoard.Script.Construct
import ActionBoard.Text.Lines
import ActionBoard.Text.Mark

/-!
# From source text to scripts

The text is read line by line in one pass.  Lines that are empty without their comment are left out,
but count for the numbers of the others.

Functions and hotkeys have bodies in braces.  A body ends with the line in which as many braces have
been closed as were opened; that line itself does not belong to it, and neither do lines with
nothing but a closing brace.  Braces are counted wherever they stand, also in quotes.

`collectBlock_length_le` says that a body takes lines away and adds none, which is why reading ends.
-/

namespace ActionBoard.Script

/-- A line with its number, which counts from one. -/
structure SourceLine where
  number : Nat
  text : List Char
  deriving DecidableEq

/-- The lines with their numbers, the first of which is given. -/
def numberLines (first : Nat) : List (List Char) → List SourceLine
  | [] => []
  | text :: rest => ⟨first, text⟩ :: numberLines (first + 1) rest

/-- The lines of a text that are not empty without comment. -/
def sourceLines (text : List Char) : List SourceLine :=
  let text := match text with
    | c :: rest => if c = Text.byteOrderMark then rest else text
    | [] => text
  let stripped := (numberLines 1 (Text.lines text)).map fun line =>
    { line with text := Text.trim (stripComment line.text) }
  stripped.filter fun line => !line.text.isEmpty

/-! ## Bodies -/

/-- How many braces a line opens more than it closes. -/
def braceBalance (text : List Char) : Int :=
  (text.count '{' : Int) - (text.count '}' : Int)

/-- The lines of a body in which `depth` braces are open, and the lines after it. -/
def collectBlock (depth : Int) : List SourceLine → List SourceLine × List SourceLine
  | [] => ([], [])
  | line :: rest =>
    let depth := depth + braceBalance line.text
    if depth ≤ 0 then
      ([], rest)
    else
      let (body, after) := collectBlock depth rest
      (line :: body, after)

theorem collectBlock_length_le (depth : Int) (lines : List SourceLine) :
    (collectBlock depth lines).2.length ≤ lines.length := by
  induction lines generalizing depth with
  | nil => simp [collectBlock]
  | cons line rest ih =>
    rw [collectBlock]
    dsimp only
    split
    · simp
    · exact Nat.le_succ_of_le (ih _)

/-- The commands of the lines of a body. -/
def bodyCommands (lines : List SourceLine) : List Command :=
  (lines.filter fun line => line.text != ['}']).map fun line =>
    Command.ofText line.text line.number

/-- The lines behind a label with nothing else in its line: an opening brace may stand
in the next one. -/
def skipOpening (lines : List SourceLine) : List SourceLine :=
  match lines with
  | line :: rest => if line.text = ['{'] then rest else lines
  | [] => []

theorem skipOpening_length_le (lines : List SourceLine) :
    (skipOpening lines).length ≤ lines.length := by
  unfold skipOpening
  split
  · split <;> simp
  · simp

/-- The body of a hotkey and the lines after it.  The body stands behind the label in line `number`,
or in the lines that follow. -/
def hotkeyBody (inline : List Char) (number : Nat) (lines : List SourceLine) :
    List Command × List SourceLine :=
  if inline.isEmpty || inline == ['{'] then
    let lines := if inline.isEmpty then skipOpening lines else lines
    let (block, after) := collectBlock 1 lines
    (bodyCommands block, after)
  else
    ([Command.ofText inline number], lines)

theorem hotkeyBody_length_le (inline : List Char) (number : Nat) (lines : List SourceLine) :
    (hotkeyBody inline number lines).2.length ≤ lines.length := by
  unfold hotkeyBody
  split
  · dsimp only
    refine Nat.le_trans (collectBlock_length_le 1 _) ?_
    split
    · exact skipOpening_length_le lines
    · exact Nat.le_refl _
  · exact Nat.le_refl _

/-! ## The pass over the lines -/

/-- With the globals of a list declared. -/
def declareGlobals (script : Script) (list : List Char) : Script :=
  let declareOne (globals : Declarations String) (chunk : List Char) : Declarations String :=
    match readAssignment? chunk with
    | some (name, value) => globals.declare name value
    | none => globals.declare (String.ofList chunk) ""
  { script with globals := (splitArgs list).foldl declareOne script.globals }

/-- The script with what the lines add to it. -/
def readLines (script : Script) : List SourceLine → Script
  | [] => script
  | line :: rest =>
    match Construct.ofLine line.text with
    | .requires version => readLines { script with requires := some version } rest
    | .directive =>
      readLines { script with directives := script.directives ++ [String.ofList line.text] } rest
    | .globals list => readLines (declareGlobals script list) rest
    | .function name params =>
      let function : Function := ⟨name, params, bodyCommands (collectBlock 1 rest).1⟩
      readLines { script with functions := script.functions.declare name function }
        (collectBlock 1 rest).2
    | .hotkey label inline =>
      let body := (hotkeyBody inline line.number rest).1
      readLines { script with hotkeys := script.hotkeys.declare label body }
        (hotkeyBody inline line.number rest).2
    | .assignment name value =>
      readLines { script with globals := script.globals.declare name value } rest
    | .command =>
      let c := Command.ofText line.text line.number
      readLines { script with topLevel := script.topLevel ++ [c] } rest
termination_by lines => lines.length
decreasing_by
  · exact Nat.lt_succ_self _
  · exact Nat.lt_succ_self _
  · exact Nat.lt_succ_self _
  · exact Nat.lt_succ_of_le (collectBlock_length_le 1 rest)
  · exact Nat.lt_succ_of_le (hotkeyBody_length_le inline line.number rest)
  · exact Nat.lt_succ_self _
  · exact Nat.lt_succ_self _

/-- The script that a text stands for. -/
def ofText (text : String) : Script :=
  readLines {} (sourceLines text.toList)

end ActionBoard.Script
