import ActionBoard.Text.Blank

/-!
# Quotes, comments and arguments

A semicolon begins a comment and a comma separates arguments, unless they stand in quotes; a comma
does not separate inside parentheses either.  A quote is closed by the character that opened it, so
that the other kind of quote may stand within.  A quote that is never closed reaches to the end, a
closing parenthesis without an opening one does not count.
-/

namespace ActionBoard.Script

/-- The quote that is open after a character. -/
def quoteAfter (quote : Option Char) (c : Char) : Option Char :=
  match quote with
  | some opened => if opened = c then none else quote
  | none => if c = '"' || c = '\'' then some c else none

/-- The text before the comment, where `quote` is open. -/
def beforeComment (quote : Option Char) : List Char → List Char
  | [] => []
  | c :: rest =>
    if c = ';' && quote.isNone then [] else c :: beforeComment (quoteAfter quote c) rest

/-- A line without its comment. -/
def stripComment (line : List Char) : List Char :=
  beforeComment none line

/-- How many parentheses are open after a character, with the quote that is open after it. -/
def depthAfter (quote : Option Char) (depth : Nat) (c : Char) : Nat :=
  if quote.isNone then
    if c = '(' then depth + 1 else if c = ')' then depth - 1 else depth
  else
    depth

/-- With a character put before the first part. -/
def prependChar (c : Char) : List (List Char) → List (List Char)
  | [] => [[c]]
  | part :: parts => (c :: part) :: parts

/-- The parts between separating commas, where a quote and some parentheses are open. -/
def partsFrom (quote : Option Char) (depth : Nat) : List Char → List (List Char)
  | [] => [[]]
  | c :: rest =>
    let quote := quoteAfter quote c
    let depth := depthAfter quote depth c
    if c = ',' && quote.isNone && depth == 0 then
      [] :: partsFrom quote depth rest
    else
      prependChar c (partsFrom quote depth rest)

/-- The arguments of a list; empty ones are dropped. -/
def splitArgs (text : List Char) : List (List Char) :=
  ((partsFrom none 0 text).map Text.trim).filter fun part => !part.isEmpty

/-- `splitArgs` on strings. -/
def arguments (text : List Char) : List String :=
  (splitArgs text).map String.ofList

end ActionBoard.Script
