import ActionBoard.CommandLine.Grammar

/-!
# Help

The help texts are made from the grammar: what the program or the subcommand is about, how it is
used, and its arguments, options or subcommands in two columns.
-/

namespace ActionBoard.CommandLine

/-- Lines of two columns, the second of which begins two blanks behind the longest entry of the
first. -/
def columns (entries : List (String × String)) : List String :=
  let width := (entries.map fun entry => entry.1.length).foldl max 0
  entries.map fun entry =>
    "  " ++ entry.1 ++ String.ofList (List.replicate (width - entry.1.length + 2) ' ') ++ entry.2

/-- The name of an option's value. -/
def valueName (name : String) : String :=
  String.ofList (name.toList.map fun c => if c == '-' then '_' else c.toUpper)

/-- What is shown of an option in front of what it is about. -/
def OptionForm.shown (form : OptionForm) : String :=
  let short := match form.short with
    | some letter => "-" ++ String.ofList [letter] ++ ", "
    | none => "    "
  short ++ "--" ++ form.name ++ " <" ++ valueName form.name ++ ">"

/-- What an option is about, with its default and its variable. -/
def OptionForm.aboutWith (form : OptionForm) (environment : String → Option String) : String :=
  let default := match form.default with
    | some value => " [default: " ++ value ++ "]"
    | none => ""
  let variableText := match form.variableName with
    | some name => " [env: " ++ name ++ "=" ++ (environment name).getD "" ++ "]"
    | none => ""
  form.about ++ variableText ++ default

/-- What an option is sorted by among those of one place. -/
def OptionForm.sortKey (form : OptionForm) : String :=
  match form.short with
  | some letter => String.ofList [letter, '0']
  | none => form.name

def isShownBefore (a b : OptionForm) : Bool :=
  a.place < b.place || (a.place == b.place && a.sortKey ≤ b.sortKey)

/-- The lines about options. -/
def optionLines (environment : String → Option String) (forms : List OptionForm)
    (others : List (String × String)) : List String :=
  let sorted := forms.mergeSort isShownBefore
  columns (sorted.map (fun form => (form.shown, form.aboutWith environment)) ++ others)

/-- Lines as a text. -/
def textOfLines (lines : List String) : String :=
  String.join (lines.map (· ++ "\n"))

def helpOption : String × String := ("-h, --help", "Print help")

def versionOption : String × String := ("-V, --version", "Print version")

def helpAbout : String := "Print this message or the help of the given subcommand(s)"

/-- Help about the whole. -/
def helpText (environment : String → Option String) : String :=
  let commands := subcommands.map (fun form => (form.name, form.about)) ++ [("help", helpAbout)]
  textOfLines <|
    [programAbout, "", "Usage: " ++ programName ++ " [OPTIONS] <COMMAND>", "", "Commands:"]
      ++ columns commands ++ ["", "Options:"]
      ++ optionLines environment globalOptions [helpOption, versionOption]

/-- Help about a subcommand. -/
def SubcommandForm.helpText (form : SubcommandForm) (environment : String → Option String) :
    String :=
  let argument := "<" ++ form.argument ++ ">"
  textOfLines <|
    [form.about, "", "Usage: " ++ programName ++ " " ++ form.name ++ " [OPTIONS] " ++ argument, "",
      "Arguments:"]
      ++ columns [(argument, form.argumentAbout)] ++ ["", "Options:"]
      ++ optionLines environment form.allOptions [helpOption]

/-- Help about the subcommand for help. -/
def helpAboutHelp : String :=
  textOfLines
    [helpAbout, "", "Usage: " ++ programName ++ " help [COMMAND]...", "", "Arguments:",
      "  [COMMAND]...  Print help for the subcommand(s)"]

/-- The help that is asked for. -/
def helpFor (environment : String → Option String) : Option String → String
  | none => helpText environment
  | some name =>
    match subcommand? name with
    | some form => form.helpText environment
    | none => helpAboutHelp

/-- The text for who asks for the version. -/
def versionText : String :=
  programName ++ " " ++ programVersion ++ "\n"

end ActionBoard.CommandLine
