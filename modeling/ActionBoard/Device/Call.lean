import ActionBoard.Geometry
import ActionBoard.Records.Table

/-!
# Calls of devices

A board acts on the world through four ports: the pointer, the keyboard, the screen and a store of
records.  Each of them may be absent.  A call of a port that is present can fail, either because the
device is not available or because it did not do what it was asked to do.

`DeviceCall` lists the calls and `DeviceCall.Answer` the type of what each of them gives back
when it does not fail.
-/

namespace ActionBoard

/-- Why a device did not do what it was asked to do. -/
inductive PortError where
  | unavailable (text : String)
  | failed (text : String)
  deriving DecidableEq

def PortError.message : PortError → String
  | .unavailable text => "device unavailable: " ++ text
  | .failed text => "device call failed: " ++ text

/-- The ports that are present. -/
structure PortSet where
  pointer : Bool
  keys : Bool
  screen : Bool
  records : Bool
  deriving DecidableEq

namespace PortSet

def everything : PortSet := ⟨true, true, true, true⟩

def nothing : PortSet := ⟨false, false, false, false⟩

/-- The ports on one line, for diagnosis. -/
def describe (ports : PortSet) : String :=
  let present (b : Bool) : String := (Json.bool b).text
  "Ports \x7b pointer: " ++ present ports.pointer ++ ", keys: " ++ present ports.keys
    ++ ", screen: " ++ present ports.screen ++ ", records: " ++ present ports.records ++ " \x7d"

end PortSet

/-- A call of one of the ports. -/
inductive DeviceCall where
  /-- Moves the pointer, taking `duration` milliseconds on the way. -/
  | moveTo (target : Coordinates) (duration : Nat)
  /-- Clicks a button where the pointer is. -/
  | click (button : String)
  | press (key : String)
  /-- Presses all keys together. -/
  | pressTogether (keys : List String)
  /-- Samples the color of a pixel; it may not be available. -/
  | samplePixel (point : Coordinates)
  /-- Captures the screen or a region of it, and gives the path of the picture. -/
  | capture (region : Option Region)
  /-- Looks for an image on the screen. -/
  | findImage (path : String) (confidence : Binary64)
  /-- Looks for the first record whose cell reads like a value. -/
  | searchRecord (store column value : String)
  | readTable (store : String)
  /-- Sets a cell of the first record whose cell reads like a value, and tells whether there was
  one. -/
  | updateRecord (store column value target : String) (new : Value)

namespace DeviceCall

/-- What a call gives back. -/
abbrev Answer : DeviceCall → Type
  | moveTo .. | click .. | press .. | pressTogether .. => Unit
  | samplePixel .. => Option Color
  | capture .. => Option String
  | findImage .. => Option Coordinates
  | searchRecord .. => Option Record
  | readTable .. => Option Table
  | updateRecord .. => Bool

/-- The name under which a call is known in records of a run. -/
def name : DeviceCall → String
  | moveTo .. => "move_to"
  | click .. => "click"
  | press .. => "press"
  | pressTogether .. => "press_hotkey"
  | samplePixel .. => "get_pixel_color"
  | capture .. => "take_screenshot"
  | findImage .. => "find_image"
  | searchRecord .. => "search"
  | readTable .. => "table"
  | updateRecord .. => "update_first"

/-- What a call gives back, or why it failed. -/
abbrev Result (call : DeviceCall) : Type := Except PortError call.Answer

end DeviceCall

/-- How devices with a state answer calls. -/
abbrev Devices (σ : Type) := (call : DeviceCall) → σ → call.Result × σ

end ActionBoard
