/-!
# Settings of the engine

Durations are in milliseconds.  They are what an action takes when it does not say otherwise.
-/

namespace ActionBoard

/-- How long the engine waits, and how deep rows may call each other. -/
structure EngineSettings where
  /-- The wait of an action that waits without saying how long. -/
  defaultDelay : UInt64 := 1000
  /-- The time between two looks at the screen. -/
  checkInterval : UInt64 := 100
  /-- How long the screen is watched. -/
  waitTimeout : UInt64 := 5000
  /-- The time between two looks at the pause flag. -/
  pausePoll : UInt64 := 100
  /-- How many calls of rows may be open at once. -/
  callDepthLimit : UInt64 := 16
  deriving DecidableEq

end ActionBoard
