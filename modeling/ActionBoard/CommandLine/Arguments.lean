import ActionBoard.CommandLine.Grammar
import ActionBoard.Text.Split

/-!
# Reading the command line

The words of a command line are read one after the other, and the first of them that does not
fit ends the reading.  So does a word that asks for help or for the version: what stands behind
it is not looked at.

The value of an option is joined to its name by an equality sign, or is the next word if that
does not look like an option.  No option is given twice at one level.  Behind two dashes every
word is an argument.

An option that can stand before the subcommand as well as behind it counts where it stands behind
it.
-/

namespace ActionBoard.CommandLine

/-- Options with their values. -/
abbrev Values := List (String × String)

/-- What a subcommand is to do. -/
inductive Command where
  | run (board : String) (records : Option String)
  | parse (script : String)
  | validate (script : String)
  | exec (script : String) (mode : RunMode) (seconds : Option UInt64) (allowedRoot : Option String)
  | importFile (script : String) (output : Option String)

/-- A command line that says what to do. -/
structure Invocation where
  configuration : Option String
  logFilter : Option String
  command : Command

/-- What reading a command line comes to. -/
inductive Reading (α : Type) where
  | value (a : α)
  /-- Help is asked for, about a subcommand or the whole. -/
  | help (subcommand : Option String)
  | version
  /-- The command line cannot be understood. -/
  | misuse (message : String)

instance : Monad Reading where
  pure := .value
  bind
    | .value a, next => next a
    | .help subcommand, _ => .help subcommand
    | .version, _ => .version
    | .misuse message, _ => .misuse message

/-! ## Single options -/

/-- Whether a word looks like an option. -/
def looksLikeOption (word : String) : Bool :=
  word.toList.head? == some '-' && word != "-"

/-- With a value for an option, which has to be acceptable and new. -/
def addValue (form : OptionForm) (value : String) (values : Values) : Reading Values :=
  if (values.lookup form.name).isSome then .misuse ("--" ++ form.name ++ " is given twice")
  else if form.accepts value then .value (values ++ [(form.name, value)])
  else .misuse ("invalid value '" ++ value ++ "' for --" ++ form.name)

/-- An option and the value joined to it. -/
structure OptionWord where
  form : OptionForm
  joined : Option String

/-- A name and what is joined to it by an equality sign. -/
def splitJoined (word : List Char) : String × Option String :=
  match word.dropWhile (· != '=') with
  | [] => (String.ofList word, none)
  | _ :: value => (String.ofList (word.takeWhile (· != '=')), some (String.ofList value))

/-- The option that a word names by a letter, with the value joined to it. -/
def shortOption? (forms : List OptionForm) : List Char → Option OptionWord
  | '-' :: letter :: rest =>
    (forms.find? fun form => form.short == some letter).map fun form =>
      let value := match rest with
        | '=' :: value => value
        | value => value
      ⟨form, if rest.isEmpty then none else some (String.ofList value)⟩
  | _ => none

/-- The option that a word names, with the value joined to it. -/
def optionWord? (forms : List OptionForm) (word : String) : Option OptionWord :=
  match word.toList with
  | '-' :: '-' :: name =>
    let (name, joined) := splitJoined name
    (forms.find? fun form => form.name == name).map (⟨·, joined⟩)
  | word => shortOption? forms word

/-- Whether a word asks for help. -/
def asksForHelp (word : String) : Bool :=
  word == "--help" || "-h".toList.isPrefixOf word.toList

/-! ## Behind the subcommand -/

/-- The options and arguments behind a subcommand. -/
def readWords (form : SubcommandForm) (values : Values) (arguments : List String) :
    List String → Reading (Values × List String)
  | [] => .value (values, arguments)
  | "--" :: rest => .value (values, arguments ++ rest)
  | word :: rest =>
    if !looksLikeOption word then
      if arguments.isEmpty && isPath word then readWords form values [word] rest
      else .misuse ("unexpected argument '" ++ word ++ "'")
    else if asksForHelp word then .help (some form.name)
    else
      match optionWord? form.allOptions word, rest with
      | none, _ => .misuse ("unexpected argument '" ++ word ++ "'")
      | some ⟨option, some value⟩, rest => do
        let values ← addValue option value values
        readWords form values arguments rest
      | some ⟨option, none⟩, [] => .misuse ("--" ++ option.name ++ " needs a value")
      | some ⟨option, none⟩, value :: rest =>
        if looksLikeOption value then .misuse ("--" ++ option.name ++ " needs a value")
        else do
          let values ← addValue option value values
          readWords form values arguments rest

/-- What a subcommand is to do with its argument and options. -/
def commandOf (form : SubcommandForm) (values : Values) (argument : String) : Command :=
  match form.name with
  | "run" => .run argument (values.lookup "records")
  | "parse" => .parse argument
  | "validate" => .validate argument
  | "exec" =>
    let mode := ((values.lookup "mode").bind fun text => (RunMode.ofText text).toOption).getD .auto
    let seconds := (values.lookup "timeout").bind fun text => Text.word64Of? text.toList
    .exec argument mode seconds (values.lookup "allowed-root")
  | _ => .importFile argument (values.lookup "output")

/-- The subcommand with the words behind it. -/
def readSubcommand (form : SubcommandForm) (words : List String) : Reading (Values × Command) := do
  let (values, arguments) ← readWords form [] [] words
  match arguments with
  | [argument] =>
    if isPath argument then .value (values, commandOf form values argument)
    else .misuse "a path is empty"
  | [] => .misuse (form.argument ++ " is missing")
  | _ => .misuse "too many arguments"

/-! ## The whole -/

/-- What is asked for behind the word for help. -/
def readHelp : List String → Reading Invocation
  | [] => .help none
  | [name] => if name == "help" || (subcommand? name).isSome then .help (some name)
    else .misuse ("unknown subcommand '" ++ name ++ "'")
  | name :: _ => .misuse ("unknown subcommand '" ++ name ++ "'")

/-- The value of an option, for which the environment may stand in.  A variable that is set has to
be acceptable even if it is not needed at one of the two levels. -/
def configurationOf (environment : Option String) (before behind : Values) :
    Reading (Option String) :=
  let outer := before.lookup "config"
  let inner := behind.lookup "config"
  match environment with
  | none => .value (inner <|> outer)
  | some path =>
    if !isPath path && (outer.isNone || inner.isNone) then .misuse "a path is empty"
    else .value (inner <|> outer <|> some path)

/-- Reads the words from the beginning, where `environment` is the value of the variable for the
configuration file. -/
def readBefore (environment : Option String) (before : Values) : List String → Reading Invocation
  | [] => .misuse "a subcommand is missing"
  | "--" :: _ => .misuse "a subcommand is missing"
  | word :: rest =>
    if !looksLikeOption word then
      match subcommand? word with
      | some form => do
        let (behind, command) ← readSubcommand form rest
        let configuration ← configurationOf environment before behind
        return { configuration, command, logFilter := behind.lookup "log-level" <|>
          before.lookup "log-level" }
      | none =>
        if word == "help" then readHelp rest else .misuse ("unknown subcommand '" ++ word ++ "'")
    else if asksForHelp word then .help none
    else if word == "--version" || "-V".toList.isPrefixOf word.toList then .version
    else
      match optionWord? globalOptions word, rest with
      | none, _ => .misuse ("unexpected argument '" ++ word ++ "'")
      | some ⟨option, some value⟩, rest => do
        let before ← addValue option value before
        readBefore environment before rest
      | some ⟨option, none⟩, [] => .misuse ("--" ++ option.name ++ " needs a value")
      | some ⟨option, none⟩, value :: rest =>
        if looksLikeOption value then .misuse ("--" ++ option.name ++ " needs a value")
        else do
          let before ← addValue option value before
          readBefore environment before rest

/-- Reads the words of a command line. -/
def readCommandLine (environment : Option String) (words : List String) : Reading Invocation :=
  readBefore environment [] words

end ActionBoard.CommandLine
