import ActionBoard.Device.Recorder

/-!
# Devices with faults

Around recording devices stands a plan of faults: from its n-th call on a call of some name fails,
samples of certain numbers are not available, and an image is not found before it has been looked
for a few times.  Calls are counted by name, whether or not they fail.  A call that fails, or that
the plan answers, does not reach the recording devices.
-/

namespace ActionBoard

/-- From which call on the calls of a name fail, and how. -/
structure Fault where
  call : String
  first : Nat
  error : PortError

/-- Which calls do not get their ordinary answer. -/
structure FaultPlan where
  faults : List Fault := []
  /-- The numbers of the samples that are not available. -/
  blankSamples : List Nat := []
  /-- How many searches for an image find nothing before one can. -/
  blindSearches : Nat := 0

/-- Recording devices behind a plan of faults, with the calls counted so far. -/
structure FaultyRecorder where
  recorder : Recorder := {}
  plan : FaultPlan := {}
  /-- How many calls of a name there were. -/
  counts : Dictionary Nat := ∅

namespace FaultyRecorder

/-- How many calls of that name there were. -/
def count (f : FaultyRecorder) (name : String) : Nat :=
  (f.counts.find? name).getD 0

/-- The error of the `n`-th call of a name, if it fails. -/
def faultOf? (plan : FaultPlan) (name : String) (n : Nat) : Option PortError :=
  (plan.faults.find? fun fault => fault.call == name && fault.first ≤ n).map Fault.error

/-- The answer that the plan has for the `n`-th call of a kind, if it has one. -/
def plannedAnswer? (plan : FaultPlan) (n : Nat) : (call : DeviceCall) → Option call.Answer
  | .samplePixel _ => if plan.blankSamples.contains n then some none else none
  | .findImage .. => if n < plan.blindSearches then some none else none
  | _ => none

/-- Recording devices behind a plan of faults as devices. -/
def devices : Devices FaultyRecorder := fun call f =>
  let n := f.count call.name
  let f := { f with counts := f.counts.insert call.name (n + 1) }
  match faultOf? f.plan call.name n with
  | some error => (.error error, f)
  | none =>
    match plannedAnswer? f.plan n call with
    | some answer => (.ok answer, f)
    | none =>
      let (answer, recorder) := f.recorder.respond call
      (.ok answer, { f with recorder })

end FaultyRecorder

end ActionBoard
