import ActionBoard.Handler.Waiting

/-!
# Conditions and loops

A condition decides about the actions that follow: the next one is executed, or skipped, or the run
is broken off.  It only leaves a request for that in the variables; the engine follows it between
two actions.  A loop has no body.  It is a pause of several rounds that counts them in a variable.
-/

namespace ActionBoard

/-- What becomes of the actions after a condition. -/
inductive Decision where
  | executeNext
  | skipNext
  | breakOff
  deriving DecidableEq

namespace Decision

def name : Decision → String
  | executeNext => "execute_next"
  | skipNext => "skip_next"
  | breakOff => "break"

/-- The decision of a name; any other name lets the run go on. -/
def ofName (text : String) : Decision :=
  let name := Text.trimmed text
  if name = skipNext.name then skipNext
  else if name = breakOff.name then breakOff
  else executeNext

theorem ofName_name (d : Decision) : ofName d.name = d := by
  cases d <;> decide

/-- Whether the request that a decision makes is one more than can be counted. -/
def overflows : Decision → Variables → Bool
  | skipNext, vars => Variables.skipsAreFull vars
  | _, _ => false

/-- The variables with the request that a decision makes. -/
def apply : Decision → Variables → Variables
  | executeNext, vars => vars
  | skipNext, vars => Variables.requestSkip vars
  | breakOff, vars => Variables.requestBreak vars

end Decision

namespace Handler

/-! ## Conditions -/

/-- Whether a variable has the text that the action expects; a missing one has the empty text. -/
def variableEquals (a : Action) : Handling Bool := do
  let current ← Handling.getVariable? (a.metaTextOr "variable_name" "")
  return (current.map Value.text).getD "" == (a.metaText? "condition_value").getD ""

/-- Whether an image is on the screen; it never is without a screen. -/
def imageExists (ports : PortSet) (a : Action) : Handling Bool := do
  if ports.screen then
    let place ← Handling.device (.findImage (a.metaTextOr "image_path" "") (confidence a))
    return place.isSome
  else
    return false

/-- Whether a pixel has the color of the action; it never has without a screen, a place or a
color. -/
def pixelHasColor (ports : PortSet) (a : Action) : Handling Bool :=
  match ports.screen, a.coordinates, a.color with
  | true, some place, some target => do
    let sample ← Handling.device (.samplePixel place)
    return sample.any target.accepts
  | _, _, _ => return false

/-- Whether the condition of the action holds; one of an unknown type never does. -/
def conditionHolds (ports : PortSet) (a : Action) : Handling Bool :=
  match a.metaTextOr "condition_type" "variable_equals" with
  | "variable_equals" => variableEquals a
  | "image_exists" => imageExists ports a
  | "pixel_color" => pixelHasColor ports a
  | _ => return false

/-- What the action decides when its condition holds or does not hold. -/
def decisionFor (a : Action) (holds : Bool) : Decision :=
  if holds then .ofName (a.metaTextOr "if_true" "execute_next")
  else .ofName (a.metaTextOr "if_false" "skip_next")

/-- Leaves the request that a decision makes in the variables, if it can be counted. -/
def follow (decision : Decision) : Handling Unit := do
  Handling.overflowIf decision.overflows
  Handling.modifyVariables decision.apply

/-- Evaluates the condition of the action and makes the request that follows from it. -/
def conditional (ports : PortSet) (a : Action) : Handling Outcome := do
  let holds ← conditionHolds ports a
  let decision := decisionFor a holds
  follow decision
  return .succeeded a
    ("condition=" ++ (Value.bool holds).text ++ "; decision=" ++ decision.name)

/-! ## Loops -/

/-- How often a loop turns: as its metadata or the action itself says, and at least once. -/
def iterations (a : Action) : Nat :=
  (max ((a.metaInt? "iterations").getD a.repeatCount.toNat) 1).toNat

/-- Counts from `first` on through `n` rounds of a duration. -/
def countRounds (duration : Nat) (first : Nat) : Nat → Handling Unit
  | 0 => pure ()
  | n + 1 => do
    Handling.setVariable "_loop_index" (.nat first)
    Handling.wait duration
    countRounds duration (first + 1) n

def loop (a : Action) : Handling Outcome := do
  let n := iterations a
  countRounds ((a.metaNat? "delay_ms").getD 0) 1 n
  Handling.setVariable "_loop_iterations" (.nat n)
  return .succeeded a ("loop completed: " ++ Text.natText n ++ " iterations")

end Handler

end ActionBoard
