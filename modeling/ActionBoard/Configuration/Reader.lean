import ActionBoard.Configuration.Environment

/-!
# Reading configurations

A configuration is a mapping of sections, and each section a mapping of fields.  Sections and
fields that are missing have their defaults, so has a section that is null, and unknown ones are
ignored.  A field that is present has to be of its type; only a path may be null, which means
that there is none.

A text of nothing but white space is a configuration, too.  What tree any other text stands for is
up to a reader of YAML, which is a parameter of all that is read here.
-/

namespace ActionBoard

namespace Yaml

/-- The natural number of 64 bits that a tree is. -/
def word64? (tree : Yaml) : Option UInt64 :=
  match tree.untagged with
  | int n => if 0 ≤ n && n < 0x10000000000000000 then some (UInt64.ofNat n.toNat) else none
  | _ => none

/-- The text that a tree is. -/
def text? (tree : Yaml) : Option String :=
  match tree.untagged with
  | string s => some s
  | _ => none

/-- The text that a tree is, or null for none. -/
def optionalText? : Yaml → Option (Option String)
  | null => some none
  | tree => tree.text?.map some

/-- A member of a mapping whose key is a text. -/
def field? (member : Yaml × Yaml) : Option (String × Yaml) :=
  member.1.text?.map (·, member.2)

/-- The members of a mapping whose keys are texts, where null has none and no known name occurs
twice. -/
def fields? (known : List String) (tree : Yaml) : Option (List (String × Yaml)) :=
  match tree.untagged with
  | null => some []
  | mapping members =>
    (members.mapM field?).filter fun fields =>
      known.all fun name => fields.countP (·.1 == name) ≤ 1
  | _ => none

/-- A field that may be missing. -/
def fieldOr {α : Type} (fields : List (String × Yaml)) (name : String) (read : Yaml → Option α)
    (missing : α) : Option α :=
  match fields.lookup name with
  | some tree => read tree
  | none => some missing

end Yaml

/-- The settings of the engine in a section. -/
def EngineSettings.ofYaml? (tree : Yaml) : Option EngineSettings := do
  let fields ← tree.fields?
    ["default_delay_ms", "pixel_check_interval_ms", "default_wait_timeout_ms",
      "pause_poll_interval_ms", "max_call_depth"]
  let defaults : EngineSettings := {}
  let number (name : String) (missing : UInt64) : Option UInt64 :=
    Yaml.fieldOr fields name Yaml.word64? missing
  some
    { defaultDelay := ← number "default_delay_ms" defaults.defaultDelay
      checkInterval := ← number "pixel_check_interval_ms" defaults.checkInterval
      waitTimeout := ← number "default_wait_timeout_ms" defaults.waitTimeout
      pausePoll := ← number "pause_poll_interval_ms" defaults.pausePoll
      callDepthLimit := ← number "max_call_depth" defaults.callDepthLimit }

/-- The settings for scripts in a section. -/
def ScriptSettings.ofYaml? (tree : Yaml) : Option ScriptSettings := do
  let fields ← tree.fields? ["interpreter_path", "native_timeout_secs", "allowed_root"]
  let defaults : ScriptSettings := {}
  some
    { interpreter := ← Yaml.fieldOr fields "interpreter_path" Yaml.optionalText? none
      timeLimit := ← Yaml.fieldOr fields "native_timeout_secs" Yaml.word64? defaults.timeLimit
      allowedRoot := ← Yaml.fieldOr fields "allowed_root" Yaml.optionalText? none }

namespace Configuration

/-- The level of logging in a section. -/
def logLevelOfYaml? (tree : Yaml) : Option String := do
  let fields ← tree.fields? ["level"]
  Yaml.fieldOr fields "level" Yaml.text? ({} : Configuration).logLevel

/-- The configuration that a tree describes. -/
def ofYaml? (tree : Yaml) : Option Configuration := do
  let fields ← tree.fields? ["engine", "script", "logging"]
  some
    { engine := ← Yaml.fieldOr fields "engine" EngineSettings.ofYaml? {}
      script := ← Yaml.fieldOr fields "script" ScriptSettings.ofYaml? {}
      logLevel := ← Yaml.fieldOr fields "logging" logLevelOfYaml? ({} : Configuration).logLevel }

section

variable (yaml : YamlReader)

/-- The configuration in a text that was found at a path. -/
def read (path text : String) : ConfigurationProgram Configuration :=
  if Text.allBlank text then return {}
  else
    match yaml text.toList with
    | none => throw (.malformed path)
    | some tree => do
      match ofYaml? (← substituted yaml tree) with
      | some configuration => return configuration
      | none => throw (.malformed path)

/-- The name of a text that was found in no file. -/
def unnamedSource : String := "<string>"

/-- The valid configuration in a text. -/
def ofText (text : String) : ConfigurationProgram Configuration := do
  liftM (← read yaml unnamedSource text).validated

/-- The valid configuration in a file. -/
def load (path : String) : ConfigurationProgram Configuration := do
  let text ← ExceptT.mk <| (HostProgram.readText path).bind fun content =>
    .done (content.mapError (ConfigurationError.unreadable path))
  let configuration ← read yaml path text
  let script := match Path.parent? path with
    | some directory => configuration.script.relativeTo directory
    | none => configuration.script
  liftM { configuration with script }.validated

end

end Configuration

end ActionBoard
