import ActionBoard.Configuration.Basic
import ActionBoard.Json.Typed

/-!
# Configurations as JSON

Settings are also exchanged as JSON, under the names that they have in configuration files.
-/

namespace ActionBoard

namespace EngineSettings

/-- The names of the settings of the engine. -/
def fieldNames : List String :=
  ["default_delay_ms", "pixel_check_interval_ms", "default_wait_timeout_ms",
    "pause_poll_interval_ms", "max_call_depth"]

def toJson (s : EngineSettings) : Json :=
  .object
    [("default_delay_ms", .int (.ofWord s.defaultDelay)),
      ("pixel_check_interval_ms", .int (.ofWord s.checkInterval)),
      ("default_wait_timeout_ms", .int (.ofWord s.waitTimeout)),
      ("pause_poll_interval_ms", .int (.ofWord s.pausePoll)),
      ("max_call_depth", .int (.ofWord s.callDepthLimit))]

/-- The settings in a tree; those that are missing have their defaults. -/
def ofJson? (json : Json) : Option EngineSettings := do
  let fields ← Fields.ofJson? fieldNames json
  let defaults : EngineSettings := {}
  let number (name : String) (missing : UInt64) : Option UInt64 :=
    fields.withDefault name Json.word64? missing
  some
    { defaultDelay := ← number "default_delay_ms" defaults.defaultDelay
      checkInterval := ← number "pixel_check_interval_ms" defaults.checkInterval
      waitTimeout := ← number "default_wait_timeout_ms" defaults.waitTimeout
      pausePoll := ← number "pause_poll_interval_ms" defaults.pausePoll
      callDepthLimit := ← number "max_call_depth" defaults.callDepthLimit }

end EngineSettings

namespace ScriptSettings

/-- The names of the settings for scripts. -/
def fieldNames : List String :=
  ["interpreter_path", "native_timeout_secs", "allowed_root"]

def toJson (s : ScriptSettings) : Json :=
  .object
    [("interpreter_path", .stringOrNull s.interpreter),
      ("native_timeout_secs", .int (.ofWord s.timeLimit)),
      ("allowed_root", .stringOrNull s.allowedRoot)]

/-- The settings in a tree; those that are missing have their defaults. -/
def ofJson? (json : Json) : Option ScriptSettings := do
  let fields ← Fields.ofJson? fieldNames json
  let defaults : ScriptSettings := {}
  let path (name : String) : Option (Option String) :=
    fields.withDefault name (Json.orNull Json.string?) none
  some
    { interpreter := ← path "interpreter_path"
      timeLimit := ← fields.withDefault "native_timeout_secs" Json.word64? defaults.timeLimit
      allowedRoot := ← path "allowed_root" }

end ScriptSettings

def Configuration.toJson (c : Configuration) : Json :=
  .object
    [("engine", c.engine.toJson), ("script", c.script.toJson),
      ("logging", .object [("level", .string c.logLevel)])]

end ActionBoard
