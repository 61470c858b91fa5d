import ActionBoard.Device.Recorder
import ActionBoard.Proofs.Engine.Handling

/-!
# The region that is captured

The region of a capture is given by four numbers of 64 bits, and the screen is told numbers of 32
bits.  Whether there is a region is decided by the sizes before they are cut down: both have to be
positive.  So a region that is too large reaches the screen with other numbers than were given, and
a size may even have become zero.

* `RegionNumbers`, `Action.regionNumbers`: the numbers as they are read from the metadata.
* `RegionNumbers.wrapped`: the region that has these numbers, each wrapped around.
* `Region.IsOf`, `isOf_wrapped_iff_fits`: when it has them exactly, and a positive size.
* `captures_exactly_what_fits`: the one call that the dispatch of a capture makes.
-/

namespace ActionBoard

variable {σ : Type} {devices : Devices σ} {enumeration : Enumeration} {ports : PortSet}
  {settings : EngineSettings} {a : Action} {ctx : Context} {stage : Stage σ}

/-- Place and size of a region as they are given. -/
structure RegionNumbers where
  x : Int
  y : Int
  width : Int
  height : Int
  deriving DecidableEq

variable {n : RegionNumbers}

/-- What the metadata of an action says about a region; what is missing is zero. -/
def Action.regionNumbers (a : Action) : RegionNumbers where
  x := (a.metaInt? "region_x").getD 0
  y := (a.metaInt? "region_y").getD 0
  width := (a.metaInt? "region_width").getD 0
  height := (a.metaInt? "region_height").getD 0

namespace RegionNumbers

/-- Neither size is zero or negative. -/
def HasSize (n : RegionNumbers) : Prop :=
  0 < n.width ∧ 0 < n.height

instance (n : RegionNumbers) : Decidable n.HasSize :=
  inferInstanceAs (Decidable (0 < n.width ∧ 0 < n.height))

/-- The screen can be told these numbers: those of the place have a sign, those of the size do
not. -/
structure Fits (n : RegionNumbers) : Prop where
  x : -2 ^ 31 ≤ n.x ∧ n.x < 2 ^ 31
  y : -2 ^ 31 ≤ n.y ∧ n.y < 2 ^ 31
  width : n.width < 2 ^ 32
  height : n.height < 2 ^ 32

/-- The region that the screen is told: all numbers modulo the size of a word. -/
def wrapped (n : RegionNumbers) : Region where
  x := Int32.ofInt n.x
  y := Int32.ofInt n.y
  width := UInt32.ofNat n.width.toNat
  height := UInt32.ofNat n.height.toNat

end RegionNumbers

/-- A region with a positive size that has exactly these numbers. -/
structure Region.IsOf (r : Region) (n : RegionNumbers) : Prop where
  x : r.x.toInt = n.x
  y : r.y.toInt = n.y
  width : (r.width.toNat : Int) = n.width
  height : (r.height.toNat : Int) = n.height
  width_pos : 0 < r.width.toNat
  height_pos : 0 < r.height.toNat

/-! ## Words -/

/-- A size comes back from a word exactly if it fits in there. -/
theorem toNat_ofNat_eq_self_iff {size : Int} (h : 0 < size) :
    ((UInt32.ofNat size.toNat).toNat : Int) = size ↔ size < 2 ^ 32 := by
  rw [UInt32.toNat_ofNat']
  omega

/-! ## Regions -/

/-- The sizes decide whether there is a region, and nothing else is looked at before it is made. -/
theorem region?_eq (a : Action) :
    Handler.region? a = if a.regionNumbers.HasSize then some a.regionNumbers.wrapped else none := by
  have hsizes : (decide (a.regionNumbers.width ≤ 0) || decide (a.regionNumbers.height ≤ 0)) = true ↔
      ¬ a.regionNumbers.HasSize := by
    rw [Bool.or_eq_true, decide_eq_true_eq, decide_eq_true_eq, RegionNumbers.HasSize]
    omega
  by_cases h : a.regionNumbers.HasSize
  · rw [if_pos h]
    exact if_neg (mt hsizes.mp (not_not.mpr h))
  · rw [if_neg h]
    exact if_pos (hsizes.mpr h)

/-- **A region is exact if and only if its numbers fit.** -/
theorem isOf_wrapped_iff_fits (h : n.HasSize) : n.wrapped.IsOf n ↔ n.Fits := by
  obtain ⟨hwidth, hheight⟩ := h
  constructor
  · intro hexact
    exact ⟨(toInt_ofInt_eq_self_iff n.x).mp hexact.x, (toInt_ofInt_eq_self_iff n.y).mp hexact.y,
      (toNat_ofNat_eq_self_iff hwidth).mp hexact.width,
        (toNat_ofNat_eq_self_iff hheight).mp hexact.height⟩
  · intro hfits
    have hw := (toNat_ofNat_eq_self_iff hwidth).mpr hfits.width
    have hh := (toNat_ofNat_eq_self_iff hheight).mpr hfits.height
    exact ⟨(toInt_ofInt_eq_self_iff n.x).mpr hfits.x,
      (toInt_ofInt_eq_self_iff n.y).mpr hfits.y, hw, hh,
      Int.natCast_pos.mp (hw ▸ hwidth), Int.natCast_pos.mp (hh ▸ hheight)⟩

/-! ## Captures -/

/-- A capture makes one call, if there is a screen. -/
theorem handle_capture (hscreen : ports.screen = true) :
    (stage.handle devices (Handler.capture ports a) a ctx).2 =
      (stage.call devices (.capture (Handler.region? a))).2 := by
  rw [Handler.capture, hscreen]
  refine stage.handle_device devices (.capture (Handler.region? a)) (fun answer vars => ?_) a ctx
  cases answer with
  | none => exact ⟨_, rfl⟩
  | some path => exact ⟨_, rfl⟩

theorem handle_capture_of_no_screen (hscreen : ports.screen = false) :
    (stage.handle devices (Handler.capture ports a) a ctx).2 = stage := by
  rw [Handler.capture, hscreen]
  rfl

/-- **A capture passes on what fits, and wraps what does not.**  Let a capture be dispatched on a
stage with the standard handlers.  It makes one call if there is a screen, and no other.  The call
has a region exactly if both sizes that the metadata gives are positive.  The region has the numbers
that the metadata gives, each modulo the size of a word; it has exactly these numbers, and a
positive size, if and only if they fit in their words. -/
theorem captures_exactly_what_fits (hkind : a.kind = .screenshot)
    (hregistry : stage.registry = .standard enumeration ports settings) (limit : Nat) :
    let ran := (dispatch limit a ctx).run (Stage.answer devices) stage
    let n := a.regionNumbers
    ran.2 = (if ports.screen
      then (stage.call devices (.capture (Handler.region? a))).2 else stage) ∧
      (¬ n.HasSize → Handler.region? a = none) ∧
      (n.HasSize → ∃ region, Handler.region? a = some region ∧ region = n.wrapped ∧
        (region.IsOf n ↔ n.Fits)) := by
  intro ran n
  have hhandler : Handler.standard enumeration ports settings a.kind =
      .simple (Handler.capture ports) := by
    rw [hkind]
    rfl
  have hran : ran = stage.handle devices (Handler.capture ports a) a ctx :=
    run_dispatch_of_simple hregistry hhandler limit
  have hregion := region?_eq a
  refine ⟨?_, fun hnone => ?_, fun hsize => ?_⟩
  · rw [hran]
    cases hscreen : ports.screen with
    | true => exact handle_capture hscreen
    | false => exact handle_capture_of_no_screen hscreen
  · rw [hregion, if_neg hnone]
  · exact ⟨n.wrapped, by rw [hregion, if_pos hsize], rfl, isOf_wrapped_iff_fits hsize⟩

/-- A capture of a strip along the left side of the screen, given in words as far as it fits. -/
def stripCapture : Action :=
  (((Action.new "1" .screenshot "").withMeta "region_y" (.string " -7 ")).withMeta "region_width"
    (.word 4294967295)).withMeta "region_height" (.bool true)

/-- The strip is captured as it is given. -/
theorem captures_exactly_what_fits_of_strip :
    let stage : Stage Recorder := { devices := {}, registry := .standard .byName .everything {} }
    stripCapture.kind = .screenshot ∧ stage.registry = .standard .byName .everything {} ∧
      stripCapture.regionNumbers = ⟨0, -7, 4294967295, 1⟩ ∧
      ∃ region, ((dispatch 16 stripCapture {}).run (Stage.answer Recorder.devices)
        stage).2.devices.captures =
        [some region] ∧ region.IsOf stripCapture.regionNumbers := by
  intro stage
  have hnumbers : stripCapture.regionNumbers = ⟨0, -7, 4294967295, 1⟩ := by decide
  have hsize : stripCapture.regionNumbers.HasSize := by
    rw [hnumbers]
    exact ⟨by decide, by decide⟩
  have hfits : stripCapture.regionNumbers.Fits := by
    rw [hnumbers]
    exact ⟨by decide, by decide, by decide, by decide⟩
  obtain ⟨hcall, -, hregion⟩ :=
    @captures_exactly_what_fits Recorder Recorder.devices .byName .everything {} stripCapture {}
      stage rfl rfl 16
  obtain ⟨region, hsome, -, hexact⟩ := hregion hsize
  refine ⟨rfl, rfl, hnumbers, region, ?_, hexact.mpr hfits⟩
  rw [hcall, hsome]
  rfl

/-- A capture that is one pixel too wide for a word. -/
def oversizedCapture : Action :=
  ((Action.new "1" .screenshot "").withMeta "region_width" (.word 4294967296)).withMeta
    "region_height" (.word 1)

/-- **A size that does not fit reaches the screen wrapped around**: the width of this
region is zero there. -/
theorem oversized_capture_wraps :
    let stage : Stage Recorder := { devices := {}, registry := .standard .byName .everything {} }
    let ran := (dispatch 16 oversizedCapture {}).run (Stage.answer Recorder.devices) stage
    oversizedCapture.regionNumbers = ⟨0, 0, 4294967296, 1⟩ ∧ ran.2.devices.captures =
      [some ⟨0, 0, 0, 1⟩] ∧
      ¬ (Region.mk 0 0 0 1).IsOf oversizedCapture.regionNumbers := by
  refine ⟨by decide, by decide, fun hexact => ?_⟩
  exact absurd hexact.width_pos (by decide)

end ActionBoard
