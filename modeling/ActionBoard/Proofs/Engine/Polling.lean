import ActionBoard.Proofs.Engine.Handling

/-!
# Polling the screen

The handlers that wait for something on the screen look until a deadline has passed.  How often that
is, and when, is not written down in them: it comes out of a loop that compares the time that has
passed with the timeout.  Here it is worked out for devices that answer whatever they like.

* `Stage.answerAt`: what a call is answered that comes after so many calls like it.
* `Stage.queried`: the stage after so many queries at the multiples of an interval.
* `PollsTo`: what polling comes to.  The queries are made at the multiples of the interval up to the
  timeout, and the first that finds something or fails is the last.
* `play_poll`: the loop comes to that.  The induction is on the multiples that are left; each round
  of the loop is one query and one wait (`Seeks`, `play_pollFrom`).
* `polling_is_exact`: what the dispatch of a wait comes to, for each of the kinds that poll.

A query takes no time, so a wait that has not found anything ends one interval after its last query,
and not at the timeout.
-/

namespace ActionBoard

variable {σ α β : Type} {devices : Devices σ} {call : DeviceCall}

/-! ## Queries -/

namespace Stage

/-- The state of the devices after so many calls of one kind. -/
def devicesAfter (devices : Devices σ) (call : DeviceCall) (stage : Stage σ) : Nat → σ
  | 0 => stage.devices
  | n + 1 => (devices call (devicesAfter devices call stage n)).2

/-- What the call is answered that comes after so many calls like it. -/
def answerAt (devices : Devices σ) (call : DeviceCall) (stage : Stage σ) (n : Nat) : call.Result :=
  (devices call (stage.devicesAfter devices call n)).1

/-- So many calls, the first of them now and one more at every interval. -/
def queries (stage : Stage σ) (call : DeviceCall) (interval n : Nat) : List Event :=
  (List.range n).map fun k => ⟨stage.clock + k * interval, .device call⟩

/-- The stage when so many queries have been made and some time has passed. -/
def queried (devices : Devices σ) (call : DeviceCall) (interval : Nat) (stage : Stage σ)
    (n offset : Nat) : Stage σ :=
  { stage with
    clock := stage.clock + offset
    devices := stage.devicesAfter devices call n
    events := (stage.queries call interval n).reverse ++ stage.events }

variable (stage : Stage σ) (interval : Nat)

theorem queried_zero : stage.queried devices call interval 0 0 = stage := rfl

/-- A query is answered as the calls before it have left the devices. -/
theorem call_queried (n : Nat) :
    (stage.queried devices call interval n (n * interval)).call devices call =
      (stage.answerAt devices call n,
        stage.queried devices call interval (n + 1) (n * interval)) := by
  have hevents : ⟨stage.clock + n * interval, .device call⟩ ::
      (stage.queries call interval n).reverse =
      (stage.queries call interval (n + 1)).reverse := by
    rw [queries, queries, List.range_succ, List.map_append, List.reverse_append]
    rfl
  show (stage.answerAt devices call n, _) = _
  rw [queried, queried, ← hevents]
  rfl

theorem atTime_queried (n offset duration : Nat) :
    (stage.queried devices call interval n offset).atTime
        ((stage.queried devices call interval n offset).clock + duration) =
      stage.queried devices call interval n (offset + duration) := by
  simp [queried, atTime, Nat.add_assoc]

end Stage

/-- What polling comes to.  A query that is answered without anything found is followed
by the next one. -/
inductive PollsTo (devices : Devices σ) (call : DeviceCall) (found? : call.Answer → Option α)
    (timeout interval : Nat) (stage : Stage σ) : Except PortError (Option α) → Stage σ → Prop
  /-- A query finds something. -/
  | met {k : Nat} {answer : call.Answer} {result : α} (within : k ≤ timeout / interval)
      (before : ∀ j < k, ∃ other, stage.answerAt devices call j = .ok other ∧ found? other = none)
      (now : stage.answerAt devices call k = .ok answer) (found : found? answer = some result) :
      PollsTo devices call found? timeout interval stage (.ok (some result))
        (stage.queried devices call interval (k + 1) (k * interval))
  /-- A query fails. -/
  | failed {k : Nat} {e : PortError} (within : k ≤ timeout / interval)
      (before : ∀ j < k, ∃ other, stage.answerAt devices call j = .ok other ∧ found? other = none)
      (now : stage.answerAt devices call k = .error e) :
      PollsTo devices call found? timeout interval stage (.error e)
        (stage.queried devices call interval (k + 1) (k * interval))
  /-- All queries up to the timeout have been made. -/
  | unmet
      (all : ∀ j ≤ timeout / interval, ∃ other, stage.answerAt devices call j = .ok other ∧
        found? other = none) :
      PollsTo devices call found? timeout interval stage (.ok none)
        (stage.queried devices call interval (timeout / interval + 1)
          ((timeout / interval + 1) * interval))

/-! ## The loop -/

/-- An attempt that makes one call and looks for something in the answer. -/
def Seeks (devices : Devices σ) (call : DeviceCall) (found? : call.Answer → Option α)
    (attempt : Handling (Option α)) : Prop :=
  ∀ (vars : Variables) (stage : Stage σ), Stage.play devices (attempt.run vars) stage =
    (((stage.call devices call).1.mapError HandlerError.port |>.map found?, vars),
      (stage.call devices call).2)

theorem seeks_device (devices : Devices σ) (path : String) (confidence : Binary64) :
    Seeks devices (.findImage path confidence) id
      (Handling.device (.findImage path confidence)) := by
  intro vars stage
  rw [Stage.play_device]
  cases (stage.call devices (.findImage path confidence)).1 <;> rfl

theorem seeks_samplePixel (devices : Devices σ) (place : Coordinates) (wanted : Color → Bool) :
    Seeks devices (.samplePixel place) (Option.filter wanted) do
      let sample ← Handling.device (.samplePixel place)
      return sample.filter wanted := by
  intro vars stage
  have hdevice := Stage.play_device devices (.samplePixel place) vars stage
  cases h : (stage.call devices (.samplePixel place)).1 with
  | error e =>
    rw [h] at hdevice
    exact Stage.play_bind_of_error hdevice
  | ok sample =>
    rw [h] at hdevice
    exact Stage.play_bind_of_ok hdevice

section

variable {found? : call.Answer → Option α} {attempt : Handling (Option α)}

/-- From any of its rounds on, if no query before it found anything, the loop comes to what
polling comes to. -/
theorem play_pollFrom (h : Seeks devices call found? attempt) (p : Polling) (vars : Variables)
    (stage : Stage σ) (n k : Nat) (hrounds : k + n = p.timeout / p.interval + 1)
    (hbefore : ∀ j < k, ∃ other, stage.answerAt devices call j = .ok other ∧ found? other = none) :
    ∃ ending after, PollsTo devices call found? p.timeout p.interval stage ending after ∧
      Stage.play devices ((Handling.pollFrom p attempt (k * p.interval)).run vars)
        (stage.queried devices call p.interval k (k * p.interval)) =
        ((ending.mapError HandlerError.port, vars), after) := by
  induction n generalizing k with
  | zero =>
    obtain rfl : k = p.timeout / p.interval + 1 := hrounds
    have hpast : ¬ (p.timeout / p.interval + 1) * p.interval ≤ p.timeout := by
      rw [← Nat.le_div_iff_mul_le p.interval_pos]
      omega
    refine ⟨_, _, .unmet fun j hj => hbefore j (Nat.lt_succ_of_le hj), ?_⟩
    rw [Handling.pollFrom, if_neg hpast]
    rfl
  | succ n ih =>
    have hwithin : k ≤ p.timeout / p.interval := by omega
    rw [Handling.pollFrom, if_pos ((Nat.le_div_iff_mul_le p.interval_pos).mp hwithin)]
    have hattempt := h vars (stage.queried devices call p.interval k (k * p.interval))
    rw [Stage.call_queried] at hattempt
    cases hnow : stage.answerAt devices call k with
    | error e =>
      rw [hnow] at hattempt
      exact ⟨_, _, .failed hwithin hbefore hnow, Stage.play_bind_of_error hattempt⟩
    | ok answer =>
      rw [hnow] at hattempt
      cases hfound : found? answer with
      | some result =>
        refine ⟨_, _, .met hwithin hbefore hnow hfound, ?_⟩
        rw [Stage.play_bind_of_ok hattempt, hfound]
        rfl
      | none =>
        have hmissed : ∀ j < k + 1, ∃ other, stage.answerAt devices call j = .ok other ∧
            found? other = none := by
          intro j hj
          rcases Nat.lt_succ_iff_lt_or_eq.mp hj with hj | rfl
          · exact hbefore j hj
          · exact ⟨answer, hnow, hfound⟩
        obtain ⟨ending, after, hpolls, hplay⟩ := ih (k + 1) (by omega) hmissed
        refine ⟨ending, after, hpolls, ?_⟩
        rw [Stage.play_bind_of_ok hattempt, hfound]
        -- the wait is what brings the loop to its next round
        have hwait : Stage.play devices ((Handling.wait p.interval).run vars)
            (stage.queried devices call p.interval (k + 1) (k * p.interval)) =
            ((.ok (), vars),
              stage.queried devices call p.interval (k + 1) ((k + 1) * p.interval)) := by
          rw [Nat.succ_mul, ← Stage.atTime_queried]
          rfl
        show Stage.play devices ((Handling.wait p.interval >>= fun _ =>
          Handling.pollFrom p attempt (k * p.interval + p.interval)).run vars) _ = _
        rw [Stage.play_bind_of_ok hwait, ← Nat.succ_mul]
        exact hplay

/-- **The loop comes to what polling comes to.** -/
theorem play_poll (h : Seeks devices call found? attempt) (p : Polling) (vars : Variables)
    (stage : Stage σ) :
    ∃ ending after, PollsTo devices call found? p.timeout p.interval stage ending after ∧
      Stage.play devices ((Handling.poll p attempt).run vars) stage =
        ((ending.mapError HandlerError.port, vars), after) := by
  have hrun :=
    play_pollFrom h p vars stage (p.timeout / p.interval + 1) 0 (Nat.zero_add _) fun j hj =>
    absurd hj (Nat.not_lt_zero j)
  rw [Nat.zero_mul, Stage.queried_zero] at hrun
  exact hrun

end

/-! ## Waits -/

/-- The outcome of a wait, as its polling has ended. -/
def pollOutcome (a : Action) (found : α → String) (timedOut : String) :
    Except PortError (Option α) → Outcome
  | .ok (some result) => .succeeded a (found result)
  | .ok none => .unmet a timedOut
  | .error e => .failed a e.message

/-- The variables after the wait for an image: where the image is, in both coordinates,
or nothing new. -/
def rememberPlace (vars : Variables) : Except PortError (Option Coordinates) → Variables
  | .ok (some place) =>
    (vars.insert "last_image_x" (.int (.ofInt32 place.x))).insert "last_image_y"
      (.int (.ofInt32 place.y))
  | _ => vars

/-- The message of a wait for a pixel that has timed out. -/
def pixelTimedOut (kind : ActionKind) (timeout : Nat) : String :=
  if kind = .waitPixelColor then "timed out after " ++ Text.natText timeout ++
    " ms waiting for pixel color"
  else "no pixel change within " ++ Text.natText timeout ++ " ms"

variable (devices) in
/-- A pixel is polled from the stage on for a color as wanted, and the variables stay as they
are. -/
def WaitsForColor (place : Coordinates) (wanted : Color → Bool) (what : String)
    (timeout interval : Nat) (a : Action)
    (ctx : Context) (stage : Stage σ) (ran : (Outcome × Context) × Stage σ) : Prop :=
  ∃ ending after, PollsTo devices (.samplePixel place) (Option.filter wanted) timeout interval stage
    ending after ∧
    ran = ((pollOutcome a (fun _ => Handler.pixelMessage place what)
      (pixelTimedOut a.kind timeout) ending,
      ctx.markDispatched), after)

variable (devices) in
/-- A pixel is sampled, and polled for a color that this sample does not accept. -/
inductive WaitsForChange (place : Coordinates) (timeout interval : Nat) (a : Action) (ctx : Context)
    (stage : Stage σ) : (Outcome × Context) × Stage σ → Prop
  | sampleFailed {e : PortError} {after : Stage σ}
      (sampled : stage.call devices (.samplePixel place) = (.error e, after)) :
      WaitsForChange place timeout interval a ctx stage
        ((.failed a e.message, ctx.markDispatched), after)
  | sampleMissing {after : Stage σ} (sampled : stage.call devices (.samplePixel place) =
      (.ok none, after)) :
      WaitsForChange place timeout interval a ctx stage
        ((Handler.noInitialSample a, ctx.markDispatched), after)
  | watched {initial : Color} {after : Stage σ} {ran : (Outcome × Context) × Stage σ}
      (sampled : stage.call devices (.samplePixel place) = (.ok (some initial), after))
      (polled : WaitsForColor devices place (fun c => !initial.accepts c) "changed" timeout interval
        a ctx after ran) :
      WaitsForChange place timeout interval a ctx stage ran

variable (devices) in
/-- The screen is polled for an image, and where it is found is remembered. -/
def WaitsForImage (path : String) (timeout interval : Nat) (a : Action) (ctx : Context)
    (stage : Stage σ) (ran : (Outcome × Context) × Stage σ) : Prop :=
  ∃ ending after, PollsTo devices (.findImage path (Handler.confidence a)) id timeout interval stage
    ending after ∧
    ran = ((pollOutcome a (fun place => "image found at " ++ place.text)
        ("image " ++ path ++ " not found within " ++ Text.natText timeout ++ " ms") ending,
      ctx.markDispatched.withVariables (rememberPlace ctx.vars ending)), after)

section

variable {enumeration : Enumeration} {ports : PortSet} {settings : EngineSettings} {a : Action}
  {ctx : Context} {stage : Stage σ} {place : Coordinates}

theorem play_watchPixel (p : Polling) (place : Coordinates) (wanted : Color → Bool)
    (vars : Variables) (stage : Stage σ) :
    ∃ ending after,
      PollsTo devices (.samplePixel place) (Option.filter wanted) p.timeout p.interval stage
        ending after ∧
      Stage.play devices ((Handler.watchPixel p place wanted).run vars) stage =
        (((ending.mapError HandlerError.port).map Option.isSome, vars), after) := by
  obtain ⟨ending, after, hpolls, hplay⟩ :=
    play_poll (seeks_samplePixel devices place wanted) p vars stage
  refine ⟨ending, after, hpolls, ?_⟩
  cases ending with
  | error e => exact Stage.play_bind_of_error hplay
  | ok seen => exact Stage.play_bind_of_ok hplay

theorem watchedPixel_eq (hscreen : ports.screen = true) (hplace : a.coordinates = some place) :
    Handler.watchedPixel ports a = pure place := by
  rw [Handler.watchedPixel, hscreen, hplace]
  rfl

/-! ### Pixels -/

/-- A pixel is watched, and an outcome made of whether its color was as wanted. -/
def watching (p : Polling) (place : Coordinates) (wanted : Color → Bool) (finish : Bool → Outcome) :
    Handling Outcome := do
  return finish (← Handler.watchPixel p place wanted)

/-- A pixel is sampled and then watched for another color. -/
def comparing (p : Polling) (place : Coordinates) (a : Action) (finish : Bool → Outcome) :
    Handling Outcome := do
  match ← Handling.device (.samplePixel place) with
  | none => return Handler.noInitialSample a
  | some initial => watching p place (fun c => !initial.accepts c) finish

theorem awaitColor_eq (hscreen : ports.screen = true) (hplace : a.coordinates = some place) :
    Handler.awaitColor ports settings a =
      if (a.metaBool? "any_change").getD false then
        comparing (.ofAction settings a) place a
          (Handler.pixelOutcome (.ofAction settings a) place "changed" a)
      else
        watching (.ofAction settings a) place (Handler.targetColor a).accepts
          (Handler.pixelOutcome (.ofAction settings a) place "matched" a) := by
  rw [Handler.awaitColor, watchedPixel_eq hscreen hplace]
  rfl

theorem awaitChange_eq (hscreen : ports.screen = true) (hplace : a.coordinates = some place) :
    Handler.awaitChange ports settings a =
      comparing (.ofAction settings a) place a fun met =>
        if met then .succeeded a (Handler.pixelMessage place "changed")
        else .unmet a ("no pixel change within " ++
          Text.natText (Polling.ofAction settings a).timeout ++ " ms") := by
  rw [Handler.awaitChange, watchedPixel_eq hscreen hplace]
  show (Handling.device (.samplePixel place) >>= _) = (Handling.device (.samplePixel place) >>= _)
  congr 1
  funext sampled
  cases sampled with
  | none => rfl
  | some initial =>
    show (Handler.watchPixel _ place _ >>= _) = (Handler.watchPixel _ place _ >>= _)
    congr 1
    funext met
    cases met <;> rfl

variable {p : Polling} {wanted : Color → Bool} {what : String} {finish : Bool → Outcome}

theorem waitsForColor_watching (hmet : finish true = .succeeded a (Handler.pixelMessage place what))
    (hunmet : finish false = .unmet a (pixelTimedOut a.kind p.timeout)) :
    WaitsForColor devices place wanted what p.timeout p.interval a ctx stage
      (stage.handle devices (watching p place wanted finish) a ctx) := by
  obtain ⟨ending, after, hpolls, hplay⟩ := play_watchPixel p place wanted ctx.vars stage
  refine ⟨ending, after, hpolls, ?_⟩
  cases ending with
  | error e =>
    rw [Stage.handle, watching, Stage.play_bind_of_error hplay]
    rfl
  | ok seen =>
    rw [Stage.handle, watching, Stage.play_bind_of_ok hplay]
    cases seen with
    | none => simp only [Option.isSome_none, hunmet]; rfl
    | some c => simp only [Option.isSome_some, hmet]; rfl

theorem waitsForChange_comparing
    (hmet : finish true = .succeeded a (Handler.pixelMessage place "changed"))
    (hunmet : finish false = .unmet a (pixelTimedOut a.kind p.timeout)) :
    WaitsForChange devices place p.timeout p.interval a ctx stage
      (stage.handle devices (comparing p place a finish) a ctx) := by
  have hdevice := Stage.play_device devices (.samplePixel place) ctx.vars stage
  cases hsampled : stage.call devices (.samplePixel place) with
  | mk sampled after =>
    rw [hsampled] at hdevice
    cases sampled with
    | error e =>
      rw [Stage.handle, comparing, Stage.play_bind_of_error hdevice]
      exact .sampleFailed hsampled
    | ok sample =>
      rw [Stage.handle, comparing, Stage.play_bind_of_ok hdevice]
      cases sample with
      | none => exact .sampleMissing hsampled
      | some initial => exact .watched hsampled (waitsForColor_watching hmet hunmet)

/-! ### Images -/

/-- What is made of an image that was found or not. -/
def reporting (path : String) (timeout : Nat) (a : Action) : Option Coordinates → Handling Outcome
  | some place => do
    Handling.setVariable "last_image_x" (.int (.ofInt32 place.x))
    Handling.setVariable "last_image_y" (.int (.ofInt32 place.y))
    return .succeeded a ("image found at " ++ place.text)
  | none =>
    return .unmet a ("image " ++ path ++ " not found within " ++ Text.natText timeout ++ " ms")

theorem awaitImage_eq {path : String} (hscreen : ports.screen = true)
    (hpath : a.metaText? "image_path" = some path) (hblank : Text.allBlank path = false) :
    Handler.awaitImage ports settings a =
      Handling.poll (.ofAction settings a)
        (Handling.device (.findImage path (Handler.confidence a))) >>=
        reporting path (Polling.ofAction settings a).timeout a := by
  have hfilter : (a.metaText? "image_path").filter (!Text.allBlank ·) = some path := by
    rw [hpath, Option.filter_some_pos (by rw [hblank]; rfl)]
  rw [Handler.awaitImage, hscreen, hfilter]
  rfl

theorem waitsForImage_awaitImage {path : String} (hscreen : ports.screen = true)
    (hpath : a.metaText? "image_path" = some path) (hblank : Text.allBlank path = false) :
    WaitsForImage devices path (Polling.ofAction settings a).timeout (Polling.ofAction settings
      a).interval a ctx stage
      (stage.handle devices (Handler.awaitImage ports settings a) a ctx) := by
  obtain ⟨ending, after, hpolls, hplay⟩ :=
    play_poll (seeks_device devices path (Handler.confidence a)) (.ofAction settings a)
      ctx.vars stage
  refine ⟨ending, after, hpolls, ?_⟩
  rw [Stage.handle, awaitImage_eq hscreen hpath hblank]
  cases ending with
  | error e =>
    rw [Stage.play_bind_of_error hplay]
    rfl
  | ok found =>
    rw [Stage.play_bind_of_ok hplay]
    cases found <;> rfl

/-! ## Dispatches -/

/-- **Polling is exact.**  Let an action that waits for something on the screen be dispatched on a
stage with the standard handlers, with a screen whose answers are arbitrary, and let it have what
its kind requires.  Then it queries the screen at the multiples of its interval up to its timeout,
after a sample of its own if it waits for a change, and ends as `PollsTo` says: at the first query
that finds what it waits for, or that fails, or else one interval after the last.  No variable is
changed but the two that tell where an image was found. -/
theorem polling_is_exact (hscreen : ports.screen = true)
    (hregistry : stage.registry = .standard enumeration ports settings) (limit : Nat) :
    let timeout := (a.metaNat? "timeout_ms").getD settings.waitTimeout.toNat
    let interval := max ((a.metaNat? "check_interval_ms").getD settings.checkInterval.toNat) 1
    let anyChange := (a.metaBool? "any_change").getD false
    let ran := (dispatch limit a ctx).run (Stage.answer devices) stage
    (∀ place, a.coordinates = some place →
      (a.kind = .waitPixelColor → anyChange = false →
        WaitsForColor devices place (Handler.targetColor a).accepts "matched" timeout interval a
          ctx stage ran) ∧
      (a.kind = .waitPixelColor ∧ anyChange = true ∨ a.kind = .waitPixelChange →
        WaitsForChange devices place timeout interval a ctx stage ran)) ∧
      (a.kind = .waitImage → ∀ path, a.metaText? "image_path" = some path →
        Text.allBlank path = false →
        WaitsForImage devices path timeout interval a ctx stage ran) := by
  intro timeout interval anyChange ran
  refine ⟨fun place hplace => ⟨fun hkind hplain => ?_, ?_⟩, fun hkind path hpath hblank => ?_⟩
  · have hhandler : Handler.standard enumeration ports settings a.kind =
        .simple (Handler.awaitColor ports settings) := by
      rw [hkind]
      rfl
    have hran : ran = _ := run_dispatch_of_simple hregistry hhandler limit
    rw [hran, awaitColor_eq hscreen hplace, if_neg (ne_true_of_eq_false hplain)]
    refine waitsForColor_watching (p := .ofAction settings a) rfl ?_
    rw [hkind]
    rfl
  · rintro (⟨hkind, hchange⟩ | hkind)
    · have hhandler : Handler.standard enumeration ports settings a.kind =
          .simple (Handler.awaitColor ports settings) := by
        rw [hkind]
        rfl
      have hran : ran = _ := run_dispatch_of_simple hregistry hhandler limit
      rw [hran, awaitColor_eq hscreen hplace, if_pos hchange]
      refine waitsForChange_comparing (p := .ofAction settings a) rfl ?_
      rw [hkind]
      rfl
    · have hhandler : Handler.standard enumeration ports settings a.kind =
          .simple (Handler.awaitChange ports settings) := by
        rw [hkind]
        rfl
      have hran : ran = _ := run_dispatch_of_simple hregistry hhandler limit
      rw [hran, awaitChange_eq hscreen hplace]
      refine waitsForChange_comparing (p := .ofAction settings a) rfl ?_
      rw [hkind]
      rfl
  · have hhandler : Handler.standard enumeration ports settings a.kind =
        .simple (Handler.awaitImage ports settings) := by
      rw [hkind]
      rfl
    have hran : ran = _ := run_dispatch_of_simple hregistry hhandler limit
    rw [hran]
    exact waitsForImage_awaitImage hscreen hpath hblank

end

/-- A screen that has these samples of a pixel to give, one after the other, and then fails. -/
def sampledScreen : Devices (List (Option Color))
  | .samplePixel _, sample :: rest => (.ok sample, rest)
  | _, rest => (.error (.unavailable ""), rest)

/-- A pixel that is red at first, then cannot be sampled, is red again, and is blue when the
timeout is reached. -/
def lateChange : Stage (List (Option Color)) where
  devices := [some (.rgb 255 0 0), none, some (.rgb 255 0 0), some (.rgb 0 0 255)]
  registry := .standard .byName .everything {}

/-- The wait for a change of this pixel. -/
def patientWait : Action :=
  (((Action.new "1" .waitPixelChange "").withCoordinates ⟨3, 4⟩).withMeta "timeout_ms"
    (.string "200")).withMeta
    "check_interval_ms" (.string "100")

/-- The last query is made when the timeout is reached. -/
theorem polling_is_exact_of_late_change :
    PortSet.everything.screen = true ∧ lateChange.registry = .standard .byName .everything {} ∧
      let ran := (dispatch 16 patientWait {}).run (Stage.answer sampledScreen) lateChange
      ran.1.1 = .succeeded patientWait (Handler.pixelMessage ⟨3, 4⟩ "changed") ∧ ran.2.clock = 200 ∧
        ran.2.events.length = 4 := by
  refine ⟨rfl, rfl, ?_⟩
  intro ran
  obtain ⟨hpixels, -⟩ :=
    @polling_is_exact _ sampledScreen .byName .everything {} patientWait {} lateChange rfl rfl 16
  have htimeout : patientWait.metaNat? "timeout_ms" = some 200 := by decide
  have hinterval : patientWait.metaNat? "check_interval_ms" = some 100 := by decide
  rw [htimeout, hinterval] at hpixels
  have hchange : WaitsForChange sampledScreen ⟨3, 4⟩ 200 100 patientWait {} lateChange ran :=
    (hpixels ⟨3, 4⟩ rfl).2 (.inr rfl)
  clear_value ran
  rcases hchange with hfailed | hmissing | ⟨hsampled, ending, after, hpolls, hran⟩
  · cases hfailed
  · cases hmissing
  · cases hsampled
    rw [hran]
    cases hpolls with
    | @met k answer result within before now found =>
      rcases k with _ | _ | _ | k
      · cases now
        cases found
      · cases now
        cases found
      · cases now
        cases found
        exact ⟨rfl, rfl, rfl⟩
      · omega
    | @failed k e within before now =>
      rcases k with _ | _ | _ | k
      · cases now
      · cases now
      · cases now
      · omega
    | unmet all =>
      obtain ⟨other, now, hmissed⟩ := all 2 (by decide)
      cases now
      cases hmissed

end ActionBoard
