import ActionBoard.Engine.Settings
import ActionBoard.Handler.Basic
import ActionBoard.Text.Search

/-!
# Waiting

An action waits for some time, or for something to happen on the screen.  The screen is looked at
once at the start and then at a fixed interval for as long as the timeout has not passed
(`Handling.poll`).  Nothing but the waits between the looks takes time, so the time that has passed
is what was waited.  Running into the timeout is an unmet outcome and no error.

The interval is at least a millisecond.
-/

namespace ActionBoard

/-- How long and how often something is looked for, in milliseconds. -/
structure Polling where
  timeout : Nat
  interval : Nat
  interval_pos : 0 < interval

namespace Polling

/-- What the metadata of an action says, completed by the settings. -/
def ofAction (settings : EngineSettings) (a : Action) : Polling where
  timeout := (a.metaNat? "timeout_ms").getD settings.waitTimeout.toNat
  interval := max ((a.metaNat? "check_interval_ms").getD settings.checkInterval.toNat) 1
  interval_pos := by omega

end Polling

namespace Handling

variable {α : Type}

/-- Looks until something is found or the timeout has passed, where some time has passed already,
and waits after every look that finds nothing. -/
def pollFrom (p : Polling) (attempt : Handling (Option α)) (elapsed : Nat) : Handling (Option α) :=
  if elapsed ≤ p.timeout then do
    match ← attempt with
    | some a => pure (some a)
    | none =>
      wait p.interval
      pollFrom p attempt (elapsed + p.interval)
  else
    pure none
termination_by p.timeout + 1 - elapsed
decreasing_by
  have := p.interval_pos
  omega

/-- Looks until something is found or the timeout has passed. -/
def poll (p : Polling) (attempt : Handling (Option α)) : Handling (Option α) :=
  pollFrom p attempt 0

end Handling

namespace Handler

/-! ## Time -/

/-- How long an action waits: its delay, which the engine has waited before already, or what
its metadata says. -/
def pauseDuration (settings : EngineSettings) (a : Action) : Nat :=
  if a.delayBefore > 0 then a.delayBefore.toNat
  else (a.metaNat? "wait_ms").getD settings.defaultDelay.toNat

def pause (settings : EngineSettings) (a : Action) : Handling Outcome := do
  let duration := pauseDuration settings a
  Handling.wait duration
  return .succeeded a ("waited " ++ Text.natText duration ++ " ms")

/-! ## Pixels -/

/-- The color that an action waits for: its own, or else the one in its metadata, where every
missing channel is zero. -/
def targetColor (a : Action) : Color :=
  let channel? (key : String) : Option UInt8 :=
    (a.metaInt? key).map fun n => UInt8.ofNat (min n.toNat 255)
  let channel (key : String) : UInt8 := (channel? key).getD 0
  a.color.getD
    ⟨channel "color_r", channel "color_g", channel "color_b",
      (channel? "tolerance").getD Color.defaultTolerance⟩

/-- The place whose pixel an action watches. -/
def watchedPixel (ports : PortSet) (a : Action) : Handling Coordinates := do
  Handling.requirePort ports.screen "screen"
  Handling.require a.coordinates .coordinatesMissing

/-- Samples a pixel until its color is as wanted; whether it was. -/
def watchPixel (p : Polling) (place : Coordinates) (wanted : Color → Bool) : Handling Bool := do
  let seen ← Handling.poll p do
    let sample ← Handling.device (.samplePixel place)
    return sample.filter wanted
  return seen.isSome

def noInitialSample (a : Action) : Outcome :=
  .failed a "could not sample initial pixel color"

def pixelMessage (place : Coordinates) (what : String) : String :=
  "pixel at " ++ place.text ++ " " ++ what

/-- The outcome of having watched a pixel for a color. -/
def pixelOutcome (p : Polling) (place : Coordinates) (what : String) (a : Action) (met : Bool) :
    Outcome :=
  if met then .succeeded a (pixelMessage place what)
  else .unmet a ("timed out after " ++ Text.natText p.timeout ++ " ms waiting for pixel color")

/-- Waits for a pixel to have a color; or, where the action waits for any change, to have another
color than at first. -/
def awaitColor (ports : PortSet) (settings : EngineSettings) (a : Action) : Handling Outcome := do
  let place ← watchedPixel ports a
  let p := Polling.ofAction settings a
  if (a.metaBool? "any_change").getD false then
    match ← Handling.device (.samplePixel place) with
    | none => return noInitialSample a
    | some initial =>
      return pixelOutcome p place "changed" a (← watchPixel p place fun c => !initial.accepts c)
  else
    return pixelOutcome p place "matched" a (← watchPixel p place (targetColor a).accepts)

/-- Waits for a pixel to have another color than at first. -/
def awaitChange (ports : PortSet) (settings : EngineSettings) (a : Action) : Handling Outcome := do
  let place ← watchedPixel ports a
  let p := Polling.ofAction settings a
  match ← Handling.device (.samplePixel place) with
  | none => return noInitialSample a
  | some initial =>
    if ← watchPixel p place fun c => !initial.accepts c then
      return .succeeded a (pixelMessage place "changed")
    else
      return .unmet a ("no pixel change within " ++ Text.natText p.timeout ++ " ms")

/-! ## Images and texts -/

/-- The binary64 number nearest to nine tenths. -/
def defaultConfidence : Binary64 :=
  .ofRatio 9 10

/-- How similar an image on the screen has to be. -/
def confidence (a : Action) : Binary64 :=
  (a.metaBinary64? "confidence").getD defaultConfidence

/-- Waits for an image to appear and remembers where it is. -/
def awaitImage (ports : PortSet) (settings : EngineSettings) (a : Action) : Handling Outcome := do
  Handling.requirePort ports.screen "screen"
  let path ← Handling.require ((a.metaText? "image_path").filter (!Text.allBlank ·))
    (.parameterMissing "image_path")
  let p := Polling.ofAction settings a
  match ← Handling.poll p (Handling.device (.findImage path (confidence a))) with
  | some place =>
    Handling.setVariable "last_image_x" (.int (.ofInt32 place.x))
    Handling.setVariable "last_image_y" (.int (.ofInt32 place.y))
    return .succeeded a ("image found at " ++ place.text)
  | none =>
    return .unmet a
      ("image " ++ path ++ " not found within " ++ Text.natText p.timeout ++ " ms")

/-- The variable in which a text recognition leaves what it has read from the screen. -/
def recognizedVariable : String := "ocr_text"

/-- Looks once for a text among what has been read from the screen. -/
def awaitText (a : Action) : Handling Outcome := do
  let expected := a.metaTextOr "search_text" ""
  let recognized := ((← Handling.getVariable? recognizedVariable).map Value.text).getD ""
  if !expected.isEmpty && Text.contains expected.toList recognized.toList then
    return .succeeded a ("text '" ++ expected ++ "' found")
  else
    return .unmet a "text not found; WAIT_TEXT requires a text recognition provider"

end Handler

end ActionBoard
