import ActionBoard.Text.Numeral
import ActionBoard.Text.Split
import ActionBoard.Text.Word

/-!
# Log filters

A log filter is a list of directives with commas between them.  A directive is a level, or the name
of a target with or without a level behind an equality sign; the target may have a span in brackets.
-/

namespace ActionBoard.CommandLine

/-- The names of levels. -/
def levelNames : List String :=
  ["trace", "debug", "info", "warn", "error", "off"]

/-- Whether a text is a level: a name in any case, a number up to five, or nothing. -/
def isLevel (text : List Char) : Bool :=
  text.isEmpty || levelNames.contains (String.ofList (text.map Char.toLower))
    || (Text.boundedNat? 6 text).isSome

def startsTarget (c : Char) : Bool :=
  c == '-' || c == ':' || Text.isWord c

/-- Whether what stands behind a target fits. -/
def isTargetEnd : List Char → Bool
  | [] => true
  | '=' :: level => isLevel level
  | _ => false

/-- Whether a text is a span in brackets and what may follow it. -/
def isSpan : List Char → Bool
  | '[' :: rest =>
    match rest.dropWhile (· != ']') with
    | _ :: behind => isTargetEnd behind
    | [] => false
  | _ => false

def isDirective (text : List Char) : Bool :=
  match text with
  | [] => true
  | '[' :: _ => isSpan text
  | c :: _ =>
    if startsTarget c then
      let behind := text.dropWhile fun c => c != '=' && c != '['
      if behind.head? == some '[' then isSpan behind else isTargetEnd behind
    else false

/-- Whether a text is a log filter. -/
def isLogFilter (text : String) : Bool :=
  (Text.splitAt ',' text.toList).all isDirective

end ActionBoard.CommandLine
