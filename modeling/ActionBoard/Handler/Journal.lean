import ActionBoard.Handler.Basic

/-!
# Logging

A message goes to the log under one of four levels.  The level may be written in any case and under
a few names; a name that is not known logs as information, but is remembered as it was written.
-/

namespace ActionBoard

/-- The level that a name in capitals stands for. -/
def LogLevel.ofName (name : String) : LogLevel :=
  if ["DEBUG", "TRACE"].contains name then .debug
  else if ["WARNING", "WARN"].contains name then .warning
  else if ["ERROR", "CRITICAL"].contains name then .error
  else .info

namespace Handler

/-- The message of a logging action: what it says, or its name. -/
def logMessage (a : Action) : String :=
  (a.metaText? "message").getD a.name

/-- The name of the level of a logging action, in capitals. -/
def logLevelName (a : Action) : String :=
  Text.upper (a.metaTextOr "log_level" "INFO")

/-- Logs the message of the action and remembers it. -/
def journal (a : Action) : Handling Outcome := do
  let message := logMessage a
  let level := logLevelName a
  Handling.log (.ofName level) message
  Handling.setVariable "last_log_message" (.string message)
  Handling.setVariable "last_log_level" (.string level)
  return .succeeded a ("[" ++ level ++ "] " ++ message)

end Handler

end ActionBoard
