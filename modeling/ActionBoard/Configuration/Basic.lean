import ActionBoard.Engine.Settings
import ActionBoard.Host.Basic
import ActionBoard.Text.Case

/-!
# Configurations

A configuration sets the engine, the running of scripts and the logging.  Everything in it has a
default.

A configuration is valid when no wait between two looks is empty, rows may call each other at all,
scripts are given some time, and the level of logging is known.  The first thing that is not as it
should be is reported.

Paths in a configuration file are read from the directory of that file.
-/

namespace ActionBoard

/-- How scripts are run. -/
structure ScriptSettings where
  /-- The program that runs scripts natively. -/
  interpreter : Option String := none
  /-- How many seconds a script may take natively. -/
  timeLimit : UInt64 := 30
  /-- The directory outside of which no script is run. -/
  allowedRoot : Option String := none
  deriving DecidableEq

/-- All that can be configured. -/
structure Configuration where
  engine : EngineSettings := {}
  script : ScriptSettings := {}
  logLevel : String := "info"
  deriving DecidableEq

/-- Why there is no configuration. -/
inductive ConfigurationError where
  | unreadable (path : String) (error : FileError)
  /-- What was found at the path is not a configuration. -/
  | malformed (path : String)
  | unsetVariable (name : String)
  | invalid (key reason : String)
  deriving DecidableEq

namespace ConfigurationError

def message : ConfigurationError → String
  | unreadable path e => "failed to read file " ++ path ++ ": " ++ e.message
  | malformed path => "failed to parse YAML in " ++ path
  | unsetVariable name => "environment variable '" ++ name ++ "' not set"
  | invalid key reason => "invalid configuration value for '" ++ key ++ "': " ++ reason

end ConfigurationError

namespace ScriptSettings

/-- The limit of time in milliseconds. -/
def timeLimitMilliseconds (s : ScriptSettings) : Nat :=
  1000 * s.timeLimit.toNat

/-- With relative paths read from a directory. -/
def relativeTo (s : ScriptSettings) (directory : String) : ScriptSettings :=
  { s with
    interpreter := s.interpreter.map (Path.join directory)
    allowedRoot := s.allowedRoot.map (Path.join directory) }

end ScriptSettings

namespace Configuration

def logLevels : List String :=
  ["trace", "debug", "info", "warn", "error"]

/-- The first thing that makes a configuration invalid. -/
def fault? (c : Configuration) : Option ConfigurationError :=
  if c.engine.checkInterval = 0 then
    some (.invalid "engine.pixel_check_interval_ms" "must be positive")
  else if c.engine.pausePoll = 0 then
    some (.invalid "engine.pause_poll_interval_ms" "must be positive")
  else if c.engine.callDepthLimit = 0 then
    some (.invalid "engine.max_call_depth" "must be at least 1")
  else if c.script.timeLimit = 0 then
    some (.invalid "script.native_timeout_secs" "must be at least 1")
  else if !logLevels.contains (Text.lower c.logLevel) then
    some (.invalid "logging.level" ("unknown level '" ++ c.logLevel ++ "'"))
  else none

/-- The configuration itself, if it is valid. -/
def validated (c : Configuration) : Except ConfigurationError Configuration :=
  match c.fault? with
  | some fault => .error fault
  | none => .ok c

end Configuration

end ActionBoard
