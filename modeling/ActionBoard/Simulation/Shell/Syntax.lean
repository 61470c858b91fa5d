import ActionBoard.Text.Word

/-!
# Shell scripts

Interpreters of scripts are other programs.  A described machine has a shell as such a program, and
these are its scripts: simple commands with redirections, joined by separators, bars, conditions and
loops, in the foreground or the background, with functions of their own.

A word is made of pieces, because it matters for its evaluation what was quoted.  What stands inside
a substitution is kept as text, and read when the substitution is made.
-/

namespace ActionBoard.Shell

/-! ## Words -/

/-- A piece of a word. -/
inductive Piece where
  | text (content : List Char) (quoted : Bool)
  /-- The value of a parameter, or what an operator makes of it with the argument behind the
  operator. -/
  | value (name operator : String) (argument : List Char) (quoted : Bool)
  /-- What a script writes. -/
  | output (script : List Char) (quoted : Bool)
  /-- The value of an expression. -/
  | number (expression : List Char) (quoted : Bool)
  deriving DecidableEq

/-- A word, not yet evaluated. -/
abbrev Word := List Piece

/-- The characters of a word of which nothing is quoted and nothing has to be looked up. -/
def Word.plain? : Word → Option (List Char)
  | [] => some []
  | .text content false :: rest => (Word.plain? rest).map (content ++ ·)
  | _ => none

/-! ## Commands -/

/-- Where a descriptor leads to. -/
inductive Target where
  | input (path : Word)
  | output (path : Word)
  /-- Behind what the file has already. -/
  | append (path : Word)
  /-- Where another descriptor leads to. -/
  | same (descriptor : Word)
  /-- From a text that stands in the script. -/
  | here (content : Word)
  deriving DecidableEq

structure Redirection where
  descriptor : Nat
  target : Target
  deriving DecidableEq

inductive Command where
  | nothing
  | simple (line : Nat) (assignments : List (String × Word)) (words : List Word)
      (redirections : List Redirection)
  | sequence (first second : Command)
  /-- The second command, if the first one succeeds. -/
  | both (first second : Command)
  /-- The second command, unless the first one succeeds. -/
  | either (first second : Command)
  /-- The second command with what the first one writes as its input. -/
  | pipe (first second : Command)
  /-- Succeeds if the command does not. -/
  | opposite (command : Command)
  | background (command : Command)
  | subshell (command : Command)
  | redirected (line : Nat) (command : Command) (redirections : List Redirection)
  | branch (condition yes no : Command)
  /-- Goes on while the condition succeeds, or while it does not. -/
  | loop (whileTrue : Bool) (condition body : Command)
  | forEach (line : Nat) (name : String) (words : List Word) (body : Command)
  /-- The command of the first case that has a pattern for the subject. -/
  | choice (line : Nat) (subject : Word) (cases : List (List Word × Command))
  | define (name : String) (body : Command)

/-! ## Names -/

def isNameStart (c : Char) : Bool :=
  Text.isAsciiLetter c || c == '_'

def isNameChar (c : Char) : Bool :=
  isNameStart c || Text.isAsciiDigit c

/-- Whether a text can be the name of a variable or a function. -/
def isName (text : List Char) : Bool :=
  text.head?.any isNameStart && text.all isNameChar

/-- Whether a text is a row of digits. -/
def isNumeral (text : List Char) : Bool :=
  !text.isEmpty && text.all Text.isAsciiDigit

end ActionBoard.Shell
