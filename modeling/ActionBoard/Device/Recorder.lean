import ActionBoard.Device.Call
import ActionBoard.Records.Store

/-!
# Recording devices

Devices that touch nothing: they remember every call, and answer from a script.  The pointer knows
where it was moved to.  The screen has a list of colors, each sample takes the next one and the last
one repeats; without any color no sample is available.  Images are found where the script places
them.  The records are kept in memory.

With an empty script these are the devices of a dry run.
-/

namespace ActionBoard

/-- The state of recording devices: what they were asked to do, latest first, and what
they will answer. -/
structure Recorder where
  position : Coordinates := ⟨0, 0⟩
  moves : List (Coordinates × Nat) := []
  clicks : List (Coordinates × String) := []
  presses : List String := []
  combinations : List (List String) := []
  samples : Nat := 0
  colors : List Color := []
  lastColor : Option Color := none
  images : Dictionary Coordinates := ∅
  picture : Option String := none
  captures : List (Option Region) := []
  tables : RecordStore := ∅

namespace Recorder

/-- The next color of the screen. -/
def sample (r : Recorder) : Option Color × Recorder :=
  match r.colors with
  | [] => (r.lastColor, { r with samples := r.samples + 1 })
  | color :: colors =>
    (some color, { r with samples := r.samples + 1, colors, lastColor := some color })

/-- The answer to a call, which never fails. -/
def respond : (call : DeviceCall) → Recorder → call.Answer × Recorder
  | .moveTo target duration, r =>
    ((), { r with position := target, moves := (target, duration) :: r.moves })
  | .click button, r => ((), { r with clicks := (r.position, button) :: r.clicks })
  | .press key, r => ((), { r with presses := key :: r.presses })
  | .pressTogether keys, r => ((), { r with combinations := keys :: r.combinations })
  | .samplePixel _, r => r.sample
  | .capture region, r => (r.picture, { r with captures := region :: r.captures })
  | .findImage path _, r => (r.images.find? path, r)
  | .searchRecord store column value, r => (RecordStore.search r.tables store column value, r)
  | .readTable store, r => (r.tables.find? store, r)
  | .updateRecord store column value target new, r =>
    let (updated, tables) := RecordStore.updateFirst r.tables store column value target new
    (updated, { r with tables })

/-- Recording devices as devices. -/
def devices : Devices Recorder := fun call r =>
  let (answer, r) := r.respond call
  (.ok answer, r)

end Recorder

end ActionBoard
