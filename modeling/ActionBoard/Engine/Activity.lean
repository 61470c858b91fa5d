import ActionBoard.Device.Call
import ActionBoard.Dialogue

/-!
# Activities

What a handler does between its start and its end is an activity: calls of devices, messages to the
log, and waits, in an order that may depend on the answers.  Waits are exact to the millisecond, and
nothing else takes time, so the duration of an activity is the sum of its waits.

A sum may outgrow the word that it is kept in.  That is an effect as well: where arithmetic is
checked nothing comes back from it, and where it is not the sum goes round.
-/

namespace ActionBoard

/-- How important a logged message is. -/
inductive LogLevel where
  | debug
  | info
  | warning
  | error
  deriving DecidableEq

def LogLevel.name : LogLevel → String
  | debug => "DEBUG"
  | info => "INFO"
  | warning => "WARN"
  | error => "ERROR"

/-- What an activity does to the world. -/
inductive Effect where
  | device (call : DeviceCall)
  | log (level : LogLevel) (message : String)
  /-- Waits for some milliseconds. -/
  | wait (duration : Nat)
  /-- A sum outgrows its word. -/
  | overflow

namespace Effect

/-- What comes back from an effect. -/
abbrev Answer : Effect → Type
  | device call => call.Result
  | log .. => Unit
  | wait _ => Unit
  | overflow => Unit

/-- How long an effect takes. -/
def duration : Effect → Nat
  | wait duration => duration
  | _ => 0

end Effect

/-- A program of effects. -/
abbrev Activity (α : Type) := Dialogue Effect.Answer α

end ActionBoard
