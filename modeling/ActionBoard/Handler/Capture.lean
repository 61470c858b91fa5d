import ActionBoard.Handler.Basic

/-!
# Capturing the screen

The whole screen is captured unless the action gives a region with a width and a height.  Places and
sizes are numbers of 64 bits in the metadata and of 32 bits on the screen; what is too
large wraps around.
-/

namespace ActionBoard.Handler

/-- The region that an action asks for; without a positive width and height there is none. -/
def region? (a : Action) : Option Region :=
  let number (key : String) : Int := (a.metaInt? key).getD 0
  let width := number "region_width"
  let height := number "region_height"
  if width ≤ 0 || height ≤ 0 then
    none
  else
    some
      { x := Int32.ofInt (number "region_x"), y := Int32.ofInt (number "region_y")
        width := UInt32.ofNat width.toNat, height := UInt32.ofNat height.toNat }

/-- Captures the screen and remembers the path of the picture. -/
def capture (ports : PortSet) (a : Action) : Handling Outcome := do
  Handling.requirePort ports.screen "screen"
  match ← Handling.device (.capture (region? a)) with
  | some path =>
    Handling.setVariable "last_screenshot" (.string path)
    return .succeeded a ("screenshot saved: " ++ path)
  | none => return .unmet a "screenshot could not be taken"

end ActionBoard.Handler
