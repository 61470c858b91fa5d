import ActionBoard.Text.Case

/-!
# Modes of running a script

A script is run natively, by an interpreter, or in emulation, by the engine.  Which of the two can
be left open: it is then native where there is an interpreter.
-/

namespace ActionBoard

/-- How a script is to be run. -/
inductive RunMode where
  | auto
  | native
  | emulated
  deriving DecidableEq

namespace RunMode

def all : List RunMode := [auto, native, emulated]

def name : RunMode → String
  | auto => "auto"
  | native => "native"
  | emulated => "emulated"

/-- The mode of a name. -/
def ofName? (name : String) : Option RunMode :=
  all.find? fun mode => mode.name == name

/-- The mode that a text names in any case, or what is wrong with the text. -/
def ofText (text : String) : Except String RunMode :=
  match ofName? (Text.lower text) with
  | some mode => .ok mode
  | none => .error ("Unknown mode: " ++ Text.lower text)

end RunMode

/-- How a script was run; it may have been refused before. -/
inductive ExecutedMode where
  | refused
  | native
  | emulated
  deriving DecidableEq

def ExecutedMode.name : ExecutedMode → String
  | refused => "none"
  | native => "native"
  | emulated => "emulated"

end ActionBoard
