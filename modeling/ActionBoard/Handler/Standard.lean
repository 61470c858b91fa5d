import ActionBoard.Handler.Branching
import ActionBoard.Handler.Capture
import ActionBoard.Handler.Journal
import ActionBoard.Handler.Keyboard
import ActionBoard.Handler.Lookup
import ActionBoard.Handler.Pointer

/-!
# The standard handlers

Every kind of action has a standard handler.  It depends on which ports are present and on the
settings of the engine, and the one that saves also on the order in which variables are enumerated.
-/

namespace ActionBoard.Handler

/-- The standard handler of a kind. -/
def standard (enumeration : Enumeration) (ports : PortSet) (settings : EngineSettings) :
    ActionKind → Handler
  | .mouseClick => simple (click ports)
  | .mouseMove => simple (move ports)
  | .keyPress => simple (press ports)
  | .waitTime => simple (pause settings)
  | .waitPixelColor => simple (awaitColor ports settings)
  | .waitPixelChange => simple (awaitChange ports settings)
  | .waitImage => simple (awaitImage ports settings)
  | .waitText => simple awaitText
  | .conditional => simple (conditional ports)
  | .loop => simple loop
  | .screenshot => simple (capture ports)
  | .log => simple journal
  | .dbSearch => simple (dbSearch ports)
  | .dbGetValue => simple dbGetValue
  | .dbIterate => simple (dbIterate ports)
  | .dbSave => simple (dbSave enumeration ports)
  | .checkValue => simple (checkValue ports)
  | .runRow => rowCall

/-- A handler that sets some variables and then always ends in the same way. -/
def fixed (vars : List (String × Value)) (result : Except HandlerError String) : Handler :=
  simple fun a => do
    Handling.modifyVariables fun before => before.insertAll vars
    match result with
    | .ok message => return .succeeded a message
    | .error e => Handling.fail e

end ActionBoard.Handler
