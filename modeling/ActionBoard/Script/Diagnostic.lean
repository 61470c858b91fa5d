import ActionBoard.Json.Typed
import ActionBoard.Text.Numeral

/-!
# Diagnostics

What is found in a script is reported at one of three levels, with the line it was found in where
there is one.  Only errors keep a script from running.
-/

namespace ActionBoard

/-- How serious a diagnostic is. -/
inductive Severity where
  | info
  | warning
  | error
  deriving DecidableEq

namespace Severity

def all : List Severity := [info, warning, error]

def name : Severity → String
  | info => "info"
  | warning => "warning"
  | error => "error"

def ofName? (text : String) : Option Severity :=
  all.find? fun severity => severity.name == text

/-- The severity written as its name, or as an object with its name as the only key and null below
it. -/
def ofJson? : Json → Option Severity
  | .string text => ofName? text
  | .object [(text, .null)] => ofName? text
  | _ => none

end Severity

/-- Something found in a script. -/
structure Diagnostic where
  severity : Severity
  message : String
  /-- Zero, where it belongs to no line. -/
  line : Nat := 0
  deriving DecidableEq

namespace Diagnostic

def info (message : String) (line : Nat) : Diagnostic :=
  ⟨.info, message, line⟩

def warning (message : String) (line : Nat) : Diagnostic :=
  ⟨.warning, message, line⟩

def error (message : String) (line : Nat) : Diagnostic :=
  ⟨.error, message, line⟩

/-- The diagnostic on one line. -/
def text (d : Diagnostic) : String :=
  let place := if d.line > 0 then " (line " ++ Text.natText d.line ++ ")" else ""
  d.severity.name ++ place ++ ": " ++ d.message

def toJson (d : Diagnostic) : Json :=
  .object
    [("level", .string d.severity.name), ("message", .string d.message), ("line_no", .nat d.line)]

def ofJson? (json : Json) : Option Diagnostic := do
  let fields ← Fields.ofJson? ["level", "message", "line_no"] json
  some
    { severity := ← fields.required "level" Severity.ofJson?
      message := ← fields.required "message" Json.string?
      line := (← fields.withDefault "line_no" Json.word64? 0).toNat }

end Diagnostic

/-- What was found in a script as a whole. -/
structure Validation where
  diagnostics : List Diagnostic
  deriving DecidableEq

namespace Validation

/-- Whether there is no error. -/
def isValid (v : Validation) : Bool :=
  v.diagnostics.all fun d => d.severity != .error

def toJson (v : Validation) : Json :=
  .object
    [("is_valid", .bool v.isValid), ("diagnostics", .array (v.diagnostics.map Diagnostic.toJson))]

end Validation

end ActionBoard
