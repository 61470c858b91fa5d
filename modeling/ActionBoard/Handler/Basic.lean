import ActionBoard.Action.Outcome
import ActionBoard.Engine.Activity
import ActionBoard.Engine.Context

/-!
# Handlers

A handler executes the actions of one kind.  It reads and changes the variables of the run, acts
through effects, and ends either with an outcome or with an error that the engine turns into a
failed outcome.  Variables changed before an error stay changed.

`Handling` is the language in which handlers are written: a program over the variables whose effects
are those of an activity.
-/

namespace ActionBoard

/-- Why a handler could not execute an action. -/
inductive HandlerError where
  | portMissing (port : String)
  | coordinatesMissing
  | keyMissing
  | parameterMissing (name : String)
  | storeNotFound (name : String)
  | port (error : PortError)
  deriving DecidableEq

def HandlerError.message : HandlerError → String
  | portMissing name => name ++ " port is not configured"
  | coordinatesMissing => "coordinates are not set"
  | keyMissing => "key is not set"
  | parameterMissing name => "missing parameter: " ++ name
  | storeNotFound name => "record store '" ++ name ++ "' not found"
  | port error => error.message

/-- A program over the variables of a run that may end in an error. -/
def Handling (α : Type) : Type :=
  Variables → Activity (Except HandlerError α × Variables)

namespace Handling

variable {α β : Type}

/-- The activity of a program that starts with the given variables. -/
def run (program : Handling α) (vars : Variables) :
    Activity (Except HandlerError α × Variables) :=
  program vars

/-- A program, and another one after it unless the first ended in an error. -/
def bind (program : Handling α) (next : α → Handling β) : Handling β := fun vars =>
  (program.run vars).bind fun
    | (.ok a, vars) => (next a).run vars
    | (.error e, vars) => .done (.error e, vars)

instance : Monad Handling where
  pure a := fun vars => .done (.ok a, vars)
  bind := bind

/-- Ends with an error. -/
def fail (e : HandlerError) : Handling α := fun vars =>
  .done (.error e, vars)

/-- A value that has to be there. -/
def require (value : Option α) (e : HandlerError) : Handling α :=
  match value with
  | some a => pure a
  | none => fail e

/-- A port that has to be there. -/
def requirePort (present : Bool) (port : String) : Handling Unit :=
  if present then pure () else fail (.portMissing port)

/-- The answer of a device; its failure ends the program. -/
def device (call : DeviceCall) : Handling call.Answer := fun vars =>
  .ask (.device call) fun
    | .ok answer => .done (.ok answer, vars)
    | .error e => .done (.error (.port e), vars)

def log (level : LogLevel) (message : String) : Handling Unit := fun vars =>
  .ask (.log level message) fun _ => .done (.ok (), vars)

/-- Waits for some milliseconds. -/
def wait (duration : Nat) : Handling Unit := fun vars =>
  .ask (.wait duration) fun _ => .done (.ok (), vars)

/-- Overflows if a sum of what the variables hold would be too great. -/
def overflowIf (tooGreat : Variables → Bool) : Handling Unit := fun vars =>
  if tooGreat vars then .ask .overflow fun _ => .done (.ok (), vars) else .done (.ok (), vars)

def getVariables : Handling Variables := fun vars =>
  .done (.ok vars, vars)

/-- The variables changed as a whole. -/
def modifyVariables (change : Variables → Variables) : Handling Unit := fun vars =>
  .done (.ok (), change vars)

def setVariable (name : String) (value : Value) : Handling Unit :=
  modifyVariables fun vars => vars.insert name value

def getVariable? (name : String) : Handling (Option Value) := do
  return (← getVariables).find? name

end Handling

/-- What executes the actions of a kind: a program of its own, or a call of another row of the
board, which only the engine can make. -/
inductive Handler where
  | leaf (execute : Action → Context → Handling Outcome)
  | rowCall

/-- A handler that does not look at the context beyond the variables. -/
def Handler.simple (execute : Action → Handling Outcome) : Handler :=
  .leaf fun a _ => execute a

end ActionBoard
