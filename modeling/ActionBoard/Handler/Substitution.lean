import ActionBoard.Engine.Context
import ActionBoard.Text.Search

/-!
# Variables in texts

A text may name variables in braces, and every `{name}` of a variable is replaced by the text of its
value.  The variables are gone through one after the other, each replacing all its places in the
text as it is by then.  Where the replacement of one variable brings a place of another one into
the text, the order matters.  Variables have no order of their own, so the order in which they
are enumerated is an argument (`substituteAll`, `substituteIn`), or a parameter of what replaces
them (`Enumeration`).
-/

namespace ActionBoard

/-- The place of a variable in a text. -/
def placeholder (name : String) : List Char :=
  '{' :: name.toList ++ ['}']

/-- The text with the places of the variables replaced in the given order. -/
def substituteAll (vars : List (String × Value)) (text : List Char) : List Char :=
  vars.foldl
    (fun text entry => Text.replaceAll (placeholder entry.1) entry.2.text.toList text) text

/-- `substituteAll` for a string. -/
def substituteIn (order : List (String × Value)) (text : String) : String :=
  String.ofList (substituteAll order text.toList)

/-- A way to enumerate variables: each of them comes once, in an order that may depend
on all of them. -/
structure Enumeration where
  entries : Variables → List (String × Value)
  perm : ∀ vars, (entries vars).Perm vars.toList

/-- The variables in the order of their names. -/
def Enumeration.byName : Enumeration :=
  ⟨Dictionary.toList, fun _ => .refl _⟩

/-- The text with the places of all variables replaced as they are enumerated. -/
def substitute (enumeration : Enumeration) (vars : Variables) (text : String) : String :=
  substituteIn (enumeration.entries vars) text

end ActionBoard
