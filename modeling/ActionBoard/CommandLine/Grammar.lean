import ActionBoard.Runner.Mode
import ActionBoard.Text.Numeral

/-!
# The grammar of the command line

What can be said on the command line: subcommands, each with one argument and options of its own,
and two options that can stand with every subcommand or before it.  All options take a value, which
not every text can be.
-/

namespace ActionBoard.CommandLine

/-- An option with a value. -/
structure OptionForm where
  name : String
  short : Option Char := none
  about : String
  accepts : String → Bool
  /-- Where among the options it is shown. -/
  place : Nat
  /-- The environment variable that gives the value if the command line does not. -/
  variableName : Option String := none
  default : Option String := none

/-- A subcommand with its argument and its own options. -/
structure SubcommandForm where
  name : String
  about : String
  argument : String
  argumentAbout : String := ""
  options : List OptionForm := []

def programName : String := "macroboard"

def programVersion : String := "0.3.0"

def programAbout : String := "Desktop automation boards and script runner"

/-- What can be a path. -/
def isPath (text : String) : Bool := !text.isEmpty

/-- What can be a number of seconds. -/
def isSeconds (text : String) : Bool := (Text.word64Of? text.toList).isSome

/-- What can be a mode. -/
def isMode (text : String) : Bool := (RunMode.ofText text).toOption.isSome

/-- The variable that names the configuration file. -/
def configurationVariable : String := "MACROBOARD_CONFIG"

/-- The options that can stand everywhere. -/
def globalOptions : List OptionForm :=
  [{ name := "config", about := "YAML configuration file", accepts := isPath, place := 0
     variableName := some configurationVariable },
    { name := "log-level", about := "Log filter (overrides RUST_LOG and the configured level)"
      accepts := fun _ => true, place := 1 }]

def subcommands : List SubcommandForm :=
  [{ name := "run", about := "Execute a saved board with dry-run devices"
     argument := "BOARD", argumentAbout := "Board JSON file"
     options :=
       [{ name := "records", about := "JSON object of record tables, keyed by store name"
          accepts := isPath, place := 0 }] },
    { name := "parse", about := "Print the parsed script model as JSON", argument := "SCRIPT" },
    { name := "validate", about := "Print diagnostics; exits non-zero when the script is invalid"
      argument := "SCRIPT" },
    { name := "exec", about := "Run a script natively or in emulation", argument := "SCRIPT"
      options :=
        [{ name := "mode", about := "auto, native or emulated", accepts := isMode, place := 0
           default := some "auto" },
          { name := "timeout", about := "Native run limit in seconds",
            accepts := isSeconds, place := 1 },
          { name := "allowed-root", about := "Refuse scripts outside this directory"
            accepts := isPath, place := 2 }] },
    { name := "import", about := "Translate a script or legacy macro into a board"
      argument := "SCRIPT"
      options :=
        [{ name := "output", short := some 'o'
           about := "Output file; the board is printed when omitted", accepts := isPath
           place := 0 }] }]

/-- The subcommand of a name. -/
def subcommand? (name : String) : Option SubcommandForm :=
  subcommands.find? fun form => form.name == name

/-- The options that can stand with a subcommand. -/
def SubcommandForm.allOptions (form : SubcommandForm) : List OptionForm :=
  globalOptions ++ form.options

end ActionBoard.CommandLine
