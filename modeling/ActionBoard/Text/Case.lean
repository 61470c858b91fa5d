import ActionBoard.Text.Word
import ActionBoard.Text.CaseTable

/-!
# Small and capital letters

The full case mappings: one character may become several (`ß` becomes `SS`), and a capital sigma
becomes the final form `ς` where it ends a word.  It ends a word when, leaving case-ignorable
characters aside, a cased character stands before it and none stands after it.
-/

namespace ActionBoard.Text

/-- The image of a code point under a run, where the run contains it. -/
def CaseRun.image? (run : CaseRun) (n : Nat) : Option Nat :=
  if run.first ≤ n && n ≤ run.last && (n - run.first) % run.step == 0 then
    some (Int.toNat (n + run.shift))
  else
    none

/-- The image of a character beyond ASCII: several characters, one, or itself. -/
def mapCase (specials : List (Nat × List Nat)) (runs : List CaseRun) (c : Char) : List Char :=
  match specials.lookup c.toNat with
  | some image => image.map Char.ofNat
  | none =>
    match runs.findSome? (·.image? c.toNat) with
    | some image => [Char.ofNat image]
    | none => [c]

/-- The small form of a character that stands alone. -/
def lowerChar (c : Char) : List Char :=
  if c.toNat < 0x80 then [asciiLower c] else mapCase lowerSpecials lowerRuns c

/-- The capital form of a character. -/
def upperChar (c : Char) : List Char :=
  if c.toNat < 0x80 then
    [if 'a' ≤ c && c ≤ 'z' then Char.ofNat (c.toNat - 32) else c]
  else
    mapCase upperSpecials upperRuns c

def isCased (c : Char) : Bool :=
  isAsciiLetter c || (0x80 ≤ c.toNat && inRanges casedRanges c.toNat)

def isCaseIgnorable (c : Char) : Bool :=
  ['\'', '.', ':', '^', '`'].contains c
    || (0x80 ≤ c.toNat
        && inRanges (caseIgnorableFirst ++ caseIgnorableSecond ++ caseIgnorableThird) c.toNat)

/-- Whether the first character that is not case-ignorable is cased. -/
def casedNext (cs : List Char) : Bool :=
  (cs.dropWhile isCaseIgnorable).head?.any isCased

/-- The small form of a text whose part before it, in reverse, is `before`. -/
def lowerFrom : List Char → List Char → List Char
  | _, [] => []
  | before, c :: rest =>
    let image :=
      if c = 'Σ' then
        [if casedNext before && !casedNext rest then 'ς' else 'σ']
      else
        lowerChar c
    image ++ lowerFrom (c :: before) rest

/-- The small form of a text. -/
def lower (s : String) : String :=
  String.ofList (lowerFrom [] s.toList)

/-- The capital form of a text. -/
def upper (s : String) : String :=
  String.ofList (s.toList.flatMap upperChar)

end ActionBoard.Text
