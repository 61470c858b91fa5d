/-!
# Shell scripts: patterns

A pattern stands for many texts.  A star stands for any characters, a question mark for one, and a
set in brackets for one of those in it.  A quoted character only stands for itself.
-/

namespace ActionBoard.Shell

/-- A character, and whether it is quoted. -/
abbrev Marked := Char × Bool

/-- An item of a pattern. -/
inductive PatternItem where
  | char (c : Char)
  | one
  | many
  /-- A character that is in one of the ranges, or in none of them. -/
  | among (isMember : Bool) (ranges : List (Char × Char))
  deriving DecidableEq

/-- A character that is not quoted. -/
def isOpen (c : Char) (m : Marked) : Bool :=
  m.1 == c && !m.2

/-- The ranges of a set. -/
def rangesOf : List Marked → List (Char × Char)
  | low :: dash :: high :: rest =>
    if isOpen '-' dash then (low.1, high.1) :: rangesOf rest
    else (low.1, low.1) :: rangesOf (dash :: high :: rest)
  | m :: rest => (m.1, m.1) :: rangesOf rest
  | [] => []

/-- The set behind an opening bracket, and what follows it; none where there is no closing one. -/
def readSet? (text : List Marked) : Option (PatternItem × List Marked) :=
  let isNegated := text.head?.any fun m => isOpen '!' m || isOpen '^' m
  let text := if isNegated then text.drop 1 else text
  let start := text.take 1
  let inner := (text.drop 1).takeWhile fun m => !isOpen ']' m
  match (text.drop 1).dropWhile fun m => !isOpen ']' m with
  | _ :: behind => some (.among (!isNegated) (rangesOf (start ++ inner)), behind)
  | [] => none

/-- The pattern that a text is. -/
def patternOf : Nat → List Marked → List PatternItem
  | 0, _ => []
  | _, [] => []
  | fuel + 1, m :: rest =>
    if isOpen '*' m then .many :: patternOf fuel rest
    else if isOpen '?' m then .one :: patternOf fuel rest
    else if isOpen '[' m then
      match readSet? rest with
      | some (set, behind) => set :: patternOf fuel behind
      | none => .char '[' :: patternOf fuel rest
    else .char m.1 :: patternOf fuel rest

def PatternItem.accepts (item : PatternItem) (c : Char) : Bool :=
  match item with
  | char d => c == d
  | one => true
  | many => false
  | among isMember ranges => (ranges.any fun range => range.1 ≤ c && c ≤ range.2) == isMember

/-- Whether a pattern stands for a text. -/
def standsFor : List PatternItem → List Char → Bool
  | [], text => text.isEmpty
  | .many :: items, [] => standsFor items []
  | .many :: items, c :: text => standsFor items (c :: text) || standsFor (.many :: items) text
  | _ :: _, [] => false
  | item :: items, c :: text => item.accepts c && standsFor items text
termination_by items text => items.length + text.length

/-- The pattern of a text that is marked. -/
def pattern (text : List Marked) : List PatternItem :=
  patternOf (text.length + 1) text

/-- Whether a text has a character that makes it a pattern. -/
def isPattern (text : List Marked) : Bool :=
  text.any fun m => isOpen '*' m || isOpen '?' m || isOpen '[' m

/-! ## Cutting off -/

/-- What is left behind the shortest or the longest start that a pattern stands for. -/
def withoutStart (longest : Bool) (items : List PatternItem) (text : List Char) : List Char :=
  let lengths := List.range (text.length + 1)
  let lengths := if longest then lengths.reverse else lengths
  match lengths.find? fun n => standsFor items (text.take n) with
  | some n => text.drop n
  | none => text

/-- What is left before the shortest or the longest end that a pattern stands for. -/
def withoutEnd (longest : Bool) (items : List PatternItem) (text : List Char) : List Char :=
  let lengths := List.range (text.length + 1)
  let lengths := if longest then lengths else lengths.reverse
  match lengths.find? fun n => standsFor items (text.drop n) with
  | some n => text.take n
  | none => text

end ActionBoard.Shell
