import ActionBoard.Configuration.Basic
import ActionBoard.Host.Program
import ActionBoard.Yaml.Basic

/-!
# Values from the environment

In a configuration a value may be taken from an environment variable: `!env_var NAME`, or
`!env_var NAME default` for the case that the variable is not set.  The text of the variable is read
by the same reader as the configuration, so a number stays a number; a text that cannot be read
stays what it is.  What comes from the environment is not looked at for further variables.

No other tags are allowed.
-/

namespace ActionBoard

/-- Something that makes a configuration on a host. -/
abbrev ConfigurationProgram := ExceptT ConfigurationError HostProgram

namespace Configuration

/-- The tag of values from the environment. -/
def environmentTag : String := "!env_var"

/-- A tag as it is shown; the one without a name is shown twice over. -/
def shownTag (tag : String) : String :=
  if tag == "!" then "!!" else tag

/-- The name of the variable and the default that stand behind the tag. -/
def splitDefault (argument : List Char) : String × Option String :=
  match argument.dropWhile fun c => !Text.isBlank c with
  | [] => (String.ofList argument, none)
  | _ :: rest =>
    (String.ofList (argument.takeWhile fun c => !Text.isBlank c),
      some (String.ofList (Text.trim rest)))

section

variable (yaml : YamlReader)

/-- The value that the text of a variable stands for. -/
def valueOfText (text : String) : Yaml :=
  (yaml text.toList).getD (.string text)

/-- The value of a variable. -/
def environmentValue (argument : String) : ConfigurationProgram Yaml := do
  let (name, default) := splitDefault argument.toList
  match (← (HostProgram.environmentVariable name : HostProgram _)) with
  | some text => return valueOfText yaml text
  | none =>
    match default with
    | some text => return valueOfText yaml text
    | none => throw (.unsetVariable name)

mutual

/-- A tree with the values from the environment in their places. -/
def substituted : Yaml → ConfigurationProgram Yaml
  | .tagged tag value =>
    if tag = environmentTag then
      match value with
      | .string argument => environmentValue yaml argument
      | _ => throw (.invalid environmentTag "environment variable name must be a string")
    else throw (.invalid (shownTag tag) "unsupported tag")
  | .mapping members => return .mapping (← substitutedMembers members)
  | .sequence items => return .sequence (← substitutedItems items)
  | scalar => return scalar

def substitutedItems : List Yaml → ConfigurationProgram (List Yaml)
  | [] => return []
  | item :: rest => do
    let item ← substituted item
    return item :: (← substitutedItems rest)

def substitutedMembers : List (Yaml × Yaml) → ConfigurationProgram (List (Yaml × Yaml))
  | [] => return []
  | (key, value) :: rest => do
    let value ← substituted value
    return (key, value) :: (← substitutedMembers rest)

end

end

end Configuration

end ActionBoard
