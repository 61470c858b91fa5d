import ActionBoard.Handler.Basic

/-!
# Moving and clicking

Both handlers need a pointer and a place on the screen, and miss the pointer first.
-/

namespace ActionBoard.Handler

/-- The place that an action of the pointer is about. -/
def pointerTarget (ports : PortSet) (a : Action) : Handling Coordinates := do
  Handling.requirePort ports.pointer "pointer"
  Handling.require a.coordinates .coordinatesMissing

/-- Moves the pointer at once and clicks the button of the action. -/
def click (ports : PortSet) (a : Action) : Handling Outcome := do
  let target ← pointerTarget ports a
  Handling.device (.moveTo target 0)
  Handling.device (.click a.button)
  return .succeeded a ("clicked " ++ a.button ++ " at " ++ target.text)

/-- Moves the pointer, in the time that the action says. -/
def move (ports : PortSet) (a : Action) : Handling Outcome := do
  let target ← pointerTarget ports a
  Handling.device (.moveTo target ((a.metaNat? "move_duration_ms").getD 0))
  return .succeeded a ("moved to " ++ target.text)

end ActionBoard.Handler
