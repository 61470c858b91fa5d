import ActionBoard.Script.Basic
import ActionBoard.Script.Diagnostic

/-!
# Checking scripts

A script should require a version that begins with the supported one; to require none is only worth
a warning.  Commands that start processes or change system settings are warned about, and commands
that do nothing away from their native platform are pointed out where the platform is another one.
-/

namespace ActionBoard.Script

def supportedVersion : String := "2"

/-- Commands that start processes or write system settings. -/
def dangerousCommands : List String :=
  ["Run", "RunWait", "DllCall", "RegWrite", "RegDelete"]

/-- Commands that only do something on the native platform. -/
def platformCommands : List String :=
  ["ComObject", "WinExist", "WinActivate", "ControlSend", "ControlClick"]

/-- What there is to say about the required version. -/
def checkVersion : Option String → List Diagnostic
  | none => [.warning "Missing #Requires AutoHotkey v2.0 directive" 0]
  | some version =>
    if supportedVersion.toList.isPrefixOf version.toList then []
    else [.error ("Unsupported AHK version: " ++ version) 0]

/-- What there is to say about a command. -/
def checkCommand (native : Bool) (c : Command) : List Diagnostic :=
  (if dangerousCommands.contains c.name then
    [.warning ("Potentially dangerous command: " ++ c.name) c.line]
  else [])
  ++ (if !native && platformCommands.contains c.name then
    [.info ("Windows-specific command: " ++ c.name) c.line]
  else [])

/-- Checks a script for the native platform or for another one. -/
def validate (native : Bool) (script : Script) : Validation :=
  ⟨checkVersion script.requires ++ script.allCommands.flatMap (checkCommand native)⟩

end ActionBoard.Script
