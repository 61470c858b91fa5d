import ActionBoard.Engine.Control
import ActionBoard.Engine.Run
import Mathlib.Logic.Relation
import Mathlib.Tactic.SplitIfs

/-!
# Runs between requests

A run is not alone with its engine.  Before it looks at the flags for the first time, while it waits
at the gate, while an action is performed, while an outcome is handed over, and at its end, requests
to stop, pause or resume may reach the engine, in any number and order.  What the requests can do to
a run depends on its course only (`Course.through`), so an action is performed here by being given
any outcome and any context whatever; the handlers of any registry, those that dispatch further
actions among them, are a special case.

* `Moment`, `Step`: a run at some moment, with the actions that it has started and the outcomes that
  it has got so far, and what happens next.
* `Place`, `Sound`: where a run is in its course, and the invariant that goes with it.
* `Sound.step`: every step leads from a sound moment to a sound moment.
* `orderly_of_reachable`: what holds at every moment of a run.

The order in which the course looks at the flags carries the invariant.  A stop is looked for twice,
and behind the gate there is nothing between the second look and the start; this is why an action
starts with both flags down (`Place.Fits`, at `before`).
-/

namespace ActionBoard
namespace Interleaving

/-! ## Requests and moments -/

/-- A request to the engine from outside of the run. -/
inductive Request where
  | stop
  | pause
  | resume
  | setVariable (name : String) (value : Value)

/-- The control state after a request. -/
def Request.apply : Request → Control → Control
  | stop, c => c.stop
  | pause, c => c.pause
  | resume, c => c.resume
  | setVariable name value, c => c.setVariable name value

/-- The control state after some requests, the first of them first. -/
def Request.applyAll (requests : List Request) (c : Control) : Control :=
  requests.foldl (fun c r => r.apply c) c

theorem Request.results_apply (r : Request) (c : Control) : (r.apply c).results = c.results := by
  cases r <;> rfl

theorem Request.results_applyAll (requests : List Request) (c : Control) :
    (Request.applyAll requests c).results = c.results := by
  induction requests generalizing c with
  | nil => rfl
  | cons r rest ih => exact (ih (r.apply c)).trans (r.results_apply c)

/-- No request takes a stop back. -/
theorem Request.isStopRequested_apply {r : Request} {c : Control} (h : c.isStopRequested = true) :
    (r.apply c).isStopRequested = true := by
  cases r <;> first | rfl | exact h

/-- The start of an action: its context, and the control state of the engine at that time. -/
structure Start where
  action : Action
  context : Context
  control : Control

/-- Both flags are down, and nothing asks for the action to be left out. -/
structure Start.IsClear (s : Start) : Prop where
  notStopped : s.control.isStopRequested = false
  notPaused : s.control.isPaused = false
  notBroken : s.context.vars.breakRequested = false
  noSkip : s.context.vars.skipCount = 0

/-- A run at some moment. -/
structure Moment where
  /-- What remains of the course. -/
  rest : Course (List Outcome × Context)
  control : Control
  /-- Whether the action that the course asks for has been started. -/
  performing : Bool
  /-- The actions started so far, earliest first. -/
  starts : List Start
  /-- The actions that are through with what came of them, earliest first. -/
  finished : List (Action × Outcome)

/-- The moment in which a board has begun to run, before the first look for a stop.  Some requests
may have reached the engine already. -/
def Moment.initial (c : Control) (board : Board) (seed : Variables)
    (requests : List Request) : Moment where
  rest := Course.through board.flattened (c.startingContext board seed)
  control := Request.applyAll requests c.started
  performing := false
  starts := []
  finished := []

/-- Where requests can reach the engine: at the gate, where a run that finds it closed looks at it
again and again, while an action is performed, while an outcome is handed over, and at the end. -/
inductive Moment.IsSuspended (m : Moment) : Prop
  | atGate {next : Unit → Course (List Outcome × Context)} (h : m.rest = .ask .gate next)
  | performing (h : m.performing = true)
  | publishing {outcome : Outcome} {next : Unit → Course (List Outcome × Context)}
      (h : m.rest = .ask (.publish outcome) next)
  | ended {result : List Outcome × Context} (h : m.rest = .done result)

/-- What may happen next. -/
inductive Step : Moment → Moment → Prop
  | look {m : Moment} {next : Bool → Course (List Outcome × Context)}
      (h : m.rest = .ask .stopRequested next) :
      Step m { m with rest := next m.control.isStopRequested }
  | pass {m : Moment} {next : Unit → Course (List Outcome × Context)}
      (h : m.rest = .ask .gate next) (isOpen : m.control.gateOpen = true) :
      Step m { m with rest := next () }
  | start {m : Moment} {a : Action} {ctx : Context}
      {next : Outcome × Context → Course (List Outcome × Context)}
      (h : m.rest = .ask (.perform a ctx) next) (idle : m.performing = false) :
      Step m { m with performing := true, starts := m.starts ++ [⟨a, ctx, m.control⟩] }
  | finish {m : Moment} {a : Action} {ctx : Context}
      {next : Outcome × Context → Course (List Outcome × Context)}
      (h : m.rest = .ask (.perform a ctx) next) (busy : m.performing = true)
      (outcome : Outcome) (after : Context) :
      Step m
        { m with
          rest := next (outcome, after), performing := false
          finished := m.finished ++ [(a, outcome)] }
  | publish {m : Moment} {outcome : Outcome} {next : Unit → Course (List Outcome × Context)}
      (h : m.rest = .ask (.publish outcome) next) :
      Step m { m with rest := next (), control := m.control.publish outcome }
  | request {m : Moment} (suspended : m.IsSuspended) (r : Request) :
      Step m { m with control := r.apply m.control }

/-- One moment comes some steps after another. -/
abbrev Reachable : Moment → Moment → Prop :=
  Relation.ReflTransGen Step

/-- The action that is being performed. -/
def Moment.underWay (m : Moment) : List Action :=
  match m.performing, m.rest with
  | true, .ask (.perform a _) _ => [a]
  | _, _ => []

/-- The outcome of an action that is through but not yet published. -/
def Moment.inHand (m : Moment) : List Outcome :=
  match m.rest with
  | .ask (.publish outcome) _ => [outcome]
  | _ => []

/-! ## The course after some outcomes -/

/-- What remains of a course when its first outcomes are known. -/
def courseAfter (outcomes : List Outcome) (course : Course (List Outcome × Context)) :
    Course (List Outcome × Context) :=
  course.bind fun result => .done (outcomes ++ result.1, result.2)

/-- The course from the start of an action on. -/
def fromStart (outcomes : List Outcome) (a : Action) (pending : List Action) (ctx : Context) :
    Course (List Outcome × Context) :=
  .ask (.perform a ctx) fun result =>
    .ask (.publish result.1) fun _ =>
      courseAfter (outcomes ++ [result.1]) (Course.through pending result.2)

/-- The course from the second look for a stop on. -/
def fromLook (outcomes : List Outcome) (a : Action) (pending : List Action) (ctx : Context) :
    Course (List Outcome × Context) :=
  .ask .stopRequested fun stop =>
    if stop then .done (outcomes, ctx) else fromStart outcomes a pending ctx

theorem courseAfter_nil (course : Course (List Outcome × Context)) :
    courseAfter [] course = course := by
  exact Dialogue.bind_id course

/-! ## Places in the course -/

/-- Where a run is in its course. -/
inductive Place where
  /-- Between two actions, before the first look for a stop. -/
  | between (pending : List Action) (ctx : Context)
  | atGate (a : Action) (pending : List Action) (ctx : Context)
  /-- Behind the gate, before the second look for a stop. -/
  | behindGate (a : Action) (pending : List Action) (ctx : Context)
  | before (a : Action) (pending : List Action) (ctx : Context)
  | performing (a : Action) (pending : List Action) (ctx : Context)
  | publishing (outcome : Outcome) (pending : List Action) (ctx : Context)
  | ended (ctx : Context)

namespace Place

/-- What remains of the course, where some outcomes are published. -/
def course (outcomes : List Outcome) : Place → Course (List Outcome × Context)
  | between pending ctx => courseAfter outcomes (Course.through pending ctx)
  | atGate a pending ctx => .ask .gate fun _ => fromLook outcomes a pending ctx
  | behindGate a pending ctx => fromLook outcomes a pending ctx
  | before a pending ctx => fromStart outcomes a pending ctx
  | performing a pending ctx => fromStart outcomes a pending ctx
  | publishing outcome pending ctx =>
    .ask (.publish outcome) fun _ =>
      courseAfter (outcomes ++ [outcome]) (Course.through pending ctx)
  | ended ctx => .done (outcomes, ctx)

/-- The actions that may still be started. -/
def pending : Place → List Action
  | between pending _ => pending
  | atGate a pending _ | behindGate a pending _ | before a pending _ => a :: pending
  | performing _ pending _ | publishing _ pending _ => pending
  | ended _ => []

/-- The outcome of an action that is through but not yet published. -/
def inHand : Place → List Outcome
  | publishing outcome _ _ => [outcome]
  | _ => []

/-- The action that is being performed. -/
def underWay : Place → List Action
  | performing a _ _ => [a]
  | _ => []

def isPerforming (place : Place) : Bool :=
  !place.underWay.isEmpty

/-- What the course asks next. -/
def question? : Place → Option CourseRequest
  | between (_ :: _) _ | behindGate .. => some .stopRequested
  | atGate .. => some .gate
  | before a _ ctx | performing a _ ctx => some (.perform a ctx)
  | publishing outcome _ _ => some (.publish outcome)
  | between [] _ | ended _ => none

/-- What is known at a place of the control state and the context. -/
def Fits (c : Control) : Place → Prop
  | atGate _ _ ctx => ctx.vars.breakRequested = false ∧ ctx.vars.skipCount = 0
  | behindGate _ _ ctx =>
    (ctx.vars.breakRequested = false ∧ ctx.vars.skipCount = 0) ∧ c.gateOpen = true
  | before a _ ctx => (Start.mk a ctx c).IsClear
  | _ => True

/-- Where the first look for a stop leads. -/
def found (stop : Bool) (a : Action) (pending : List Action) (ctx : Context) : Place :=
  if stop then ended ctx
  else if ctx.vars.breakRequested then ended ctx
  else
    match ctx.vars.takeSkip? with
    | some vars => between pending (ctx.withVariables vars)
    | none => atGate a pending ctx

theorem fits_found (c : Control) (stop : Bool) (a : Action) (pending : List Action)
    (ctx : Context) : (found stop a pending ctx).Fits c := by
  unfold found
  split_ifs with hs hb
  · trivial
  · trivial
  · cases hk : ctx.vars.takeSkip? with
    | some vars => trivial
    | none => exact ⟨by simpa using hb, Variables.takeSkip?_eq_none.1 hk⟩

theorem pending_found_sublist (stop : Bool) (a : Action) (pending : List Action) (ctx : Context) :
    (found stop a pending ctx).pending.Sublist (a :: pending) := by
  unfold found
  split_ifs
  · exact List.nil_sublist _
  · exact List.nil_sublist _
  · cases ctx.vars.takeSkip? with
    | some vars => exact List.sublist_cons_self a pending
    | none => exact List.Sublist.refl _

theorem inHand_found (stop : Bool) (a : Action) (pending : List Action) (ctx : Context) :
    (found stop a pending ctx).inHand = [] := by
  unfold found
  split_ifs
  · rfl
  · rfl
  · cases ctx.vars.takeSkip? <;> rfl

theorem underWay_found (stop : Bool) (a : Action) (pending : List Action) (ctx : Context) :
    (found stop a pending ctx).underWay = [] := by
  unfold found
  split_ifs
  · rfl
  · rfl
  · cases ctx.vars.takeSkip? <;> rfl

theorem course_between_nil (outcomes : List Outcome) (ctx : Context) :
    (between [] ctx).course outcomes = .done (outcomes, ctx) := by
  simp [course, courseAfter, Course.through]

theorem course_between_cons (outcomes : List Outcome) (a : Action) (pending : List Action)
    (ctx : Context) :
    (between (a :: pending) ctx).course outcomes =
      .ask .stopRequested fun stop => (found stop a pending ctx).course outcomes := by
  show courseAfter outcomes (Course.through (a :: pending) ctx) = _
  rw [Course.through]
  show Dialogue.ask _ _ = _
  congr 1
  funext stop
  cases stop with
  | true => simp [found, course]
  | false =>
    cases hb : ctx.vars.breakRequested with
    | true => simp [found, hb, course]
    | false =>
      cases hs : ctx.vars.takeSkip? with
      | some vars => simp [found, hb, hs, course, courseAfter]
      | none =>
        simp only [found, hb, hs, course, fromLook, fromStart, courseAfter, Dialogue.question,
          Dialogue.bind_eq, Dialogue.bind_ask, Dialogue.bind_done, Dialogue.pure_eq,
          Bool.false_eq_true, if_false]
        congr 1
        funext _
        congr 1
        funext stop
        cases stop <;> simp [Dialogue.bind_assoc]

/-- Where the second look for a stop leads. -/
theorem course_behindGate (outcomes : List Outcome) (a : Action) (pending : List Action)
    (ctx : Context) :
    (behindGate a pending ctx).course outcomes =
      .ask .stopRequested fun stop =>
        (if stop then ended ctx else before a pending ctx).course outcomes := by
  show fromLook outcomes a pending ctx = _
  unfold fromLook
  congr 1
  funext stop
  cases stop <;> rfl

theorem question?_of_course_eq {place : Place} {outcomes : List Outcome} {q : CourseRequest}
    {next : q.Answer → Course (List Outcome × Context)} (h : place.course outcomes = .ask q next) :
    place.question? = some q := by
  cases place with
  | between pending ctx =>
    cases pending with
    | nil =>
      rw [course_between_nil] at h
      cases h
    | cons a pending =>
      rw [course_between_cons] at h
      cases h
      rfl
  | ended ctx => cases h
  | atGate | behindGate | before | performing | publishing =>
    cases h
    rfl

theorem of_stopRequested {place : Place} (h : place.question? = some .stopRequested) :
    (∃ a pending ctx, place = between (a :: pending) ctx) ∨
      ∃ a pending ctx, place = behindGate a pending ctx := by
  cases place with
  | between pending ctx =>
    cases pending with
    | nil => cases h
    | cons a pending => exact .inl ⟨a, pending, ctx, rfl⟩
  | behindGate a pending ctx => exact .inr ⟨a, pending, ctx, rfl⟩
  | atGate | before | performing | publishing | ended => cases h

theorem of_gate {place : Place} (h : place.question? = some .gate) :
    ∃ a pending ctx, place = atGate a pending ctx := by
  cases place with
  | between pending ctx => cases pending <;> cases h
  | atGate a pending ctx => exact ⟨a, pending, ctx, rfl⟩
  | behindGate | before | performing | publishing | ended => cases h

theorem of_perform {place : Place} {a : Action} {ctx : Context}
    (h : place.question? = some (.perform a ctx)) :
    ∃ pending, place = before a pending ctx ∨ place = performing a pending ctx := by
  cases place with
  | between pending ctx => cases pending <;> cases h
  | before b pending ctx' =>
    cases h
    exact ⟨pending, .inl rfl⟩
  | performing b pending ctx' =>
    cases h
    exact ⟨pending, .inr rfl⟩
  | atGate | behindGate | publishing | ended => cases h

theorem of_publish {place : Place} {outcome : Outcome}
    (h : place.question? = some (.publish outcome)) :
    ∃ pending ctx, place = publishing outcome pending ctx := by
  cases place with
  | between pending ctx => cases pending <;> cases h
  | publishing o pending ctx =>
    cases h
    exact ⟨pending, ctx, rfl⟩
  | atGate | behindGate | before | performing | ended => cases h

theorem of_isPerforming {place : Place} (h : place.isPerforming = true) :
    ∃ a pending ctx, place = performing a pending ctx := by
  cases place with
  | performing a pending ctx => exact ⟨a, pending, ctx, rfl⟩
  | between | atGate | behindGate | before | publishing | ended => cases h

/-- The only places at which nothing remains of the course. -/
theorem of_done {place : Place} {outcomes : List Outcome} {result : List Outcome × Context}
    (h : place.course outcomes = .done result) :
    ∃ ctx, (place = between [] ctx ∨ place = ended ctx) ∧ result = (outcomes, ctx) := by
  cases place with
  | between pending ctx =>
    cases pending with
    | nil =>
      rw [course_between_nil] at h
      cases h
      exact ⟨ctx, .inl rfl, rfl⟩
    | cons a pending =>
      rw [course_between_cons] at h
      cases h
  | ended ctx =>
    cases h
    exact ⟨ctx, .inr rfl, rfl⟩
  | performing | atGate | behindGate | before | publishing => cases h

end Place

/-! ## The invariant -/

/-- What holds of a moment in which the run through some actions is at a place. -/
structure Sound (actions : List Action) (m : Moment) (place : Place) : Prop where
  rest_eq : m.rest = place.course m.control.results
  performing_eq : m.performing = place.isPerforming
  order : (m.starts.map Start.action ++ place.pending).Sublist actions
  clear : ∀ s ∈ m.starts, s.IsClear
  started_eq : m.starts.map Start.action = m.finished.map Prod.fst ++ place.underWay
  finished_eq : m.finished.map Prod.snd = m.control.results ++ place.inHand
  fits : place.Fits m.control

namespace Sound

variable {actions : List Action} {m : Moment} {place : Place}

theorem initial (c : Control) (board : Board) (seed : Variables) (requests : List Request) :
    Sound board.flattened (Moment.initial c board seed requests)
      (.between board.flattened (c.startingContext board seed)) := by
  have hresults : (Request.applyAll requests c.started).results = [] :=
    Request.results_applyAll requests c.started
  refine ⟨?_, rfl, List.Sublist.refl _, (fun s hs => nomatch hs), rfl, ?_, trivial⟩
  · show _ = courseAfter (Request.applyAll requests c.started).results _
    rw [hresults]
    exact (courseAfter_nil _).symm
  · show [] = (Request.applyAll requests c.started).results ++ []
    rw [hresults]
    rfl

/-- The place of a run tells what its course asks. -/
theorem question? (hm : Sound actions m place) {q : CourseRequest}
    {next : q.Answer → Course (List Outcome × Context)} (h : m.rest = .ask q next) :
    place.question? = some q :=
  Place.question?_of_course_eq (hm.rest_eq.symm.trans h)

theorem look (hm : Sound actions m place) {next : Bool → Course (List Outcome × Context)}
    (h : m.rest = .ask .stopRequested next) :
    ∃ place', Sound actions { m with rest := next m.control.isStopRequested } place' := by
  have hr := h.symm.trans hm.rest_eq
  obtain ⟨a, pending, ctx, rfl⟩ | ⟨a, pending, ctx, rfl⟩ := Place.of_stopRequested (hm.question? h)
  · rw [Place.course_between_cons] at hr
    cases hr
    refine ⟨.found m.control.isStopRequested a pending ctx, rfl, ?_, ?_, hm.clear, ?_, ?_,
      Place.fits_found _ _ _ _ _⟩
    · rw [Place.isPerforming, Place.underWay_found]
      exact hm.performing_eq
    · exact (List.Sublist.append_left (Place.pending_found_sublist _ a pending ctx) _).trans
        hm.order
    · rw [Place.underWay_found]
      exact hm.started_eq
    · rw [Place.inHand_found]
      exact hm.finished_eq
  · rw [Place.course_behindGate] at hr
    cases hr
    obtain ⟨⟨hb, hk⟩, ho⟩ := hm.fits
    cases hs : m.control.isStopRequested with
    | true =>
      exact ⟨.ended ctx, rfl, hm.performing_eq,
        (List.Sublist.append_left (List.nil_sublist _) _).trans hm.order, hm.clear,
        hm.started_eq, hm.finished_eq, trivial⟩
    | false =>
      have hp : m.control.isPaused = false := by simpa [Control.gateOpen, hs] using ho
      exact ⟨.before a pending ctx, rfl, hm.performing_eq, hm.order, hm.clear, hm.started_eq,
        hm.finished_eq, ⟨hs, hp, hb, hk⟩⟩

theorem pass (hm : Sound actions m place) {next : Unit → Course (List Outcome × Context)}
    (h : m.rest = .ask .gate next) (isOpen : m.control.gateOpen = true) :
    ∃ place', Sound actions { m with rest := next () } place' := by
  have hr := h.symm.trans hm.rest_eq
  obtain ⟨a, pending, ctx, rfl⟩ := Place.of_gate (hm.question? h)
  cases hr
  exact ⟨.behindGate a pending ctx, rfl, hm.performing_eq, hm.order, hm.clear, hm.started_eq,
    hm.finished_eq, ⟨hm.fits, isOpen⟩⟩

theorem start (hm : Sound actions m place) {a : Action} {ctx : Context}
    {next : Outcome × Context → Course (List Outcome × Context)}
    (h : m.rest = .ask (.perform a ctx) next) (idle : m.performing = false) :
    ∃ place', Sound actions
      { m with performing := true, starts := m.starts ++ [⟨a, ctx, m.control⟩] } place' := by
  obtain ⟨pending, rfl | rfl⟩ := Place.of_perform (hm.question? h)
  · refine ⟨.performing a pending ctx, hm.rest_eq, rfl, ?_, ?_, ?_, hm.finished_eq, trivial⟩
    · have ho := hm.order
      simpa [Place.pending] using ho
    · intro s hs
      rcases List.mem_append.1 hs with hs | hs
      · exact hm.clear s hs
      · rw [List.mem_singleton.1 hs]
        exact hm.fits
    · have hs := hm.started_eq
      rw [List.map_append, hs]
      simp [Place.underWay]
  · have hp := hm.performing_eq.symm.trans idle
    cases hp

theorem finish (hm : Sound actions m place) {a : Action} {ctx : Context}
    {next : Outcome × Context → Course (List Outcome × Context)}
    (h : m.rest = .ask (.perform a ctx) next) (busy : m.performing = true)
    (outcome : Outcome) (after : Context) :
    ∃ place', Sound actions
      { m with
        rest := next (outcome, after), performing := false
        finished := m.finished ++ [(a, outcome)] } place' := by
  have hr := h.symm.trans hm.rest_eq
  obtain ⟨pending, rfl | rfl⟩ := Place.of_perform (hm.question? h)
  · have hp := hm.performing_eq.symm.trans busy
    cases hp
  · cases hr
    refine ⟨.publishing outcome pending after, rfl, rfl, hm.order, hm.clear, ?_, ?_, trivial⟩
    · rw [hm.started_eq, List.map_append]
      exact (List.append_nil _).symm
    · rw [List.map_append, hm.finished_eq]
      simp [Place.inHand]

theorem publish (hm : Sound actions m place) {outcome : Outcome}
    {next : Unit → Course (List Outcome × Context)} (h : m.rest = .ask (.publish outcome) next) :
    ∃ place', Sound actions
      { m with rest := next (), control := m.control.publish outcome } place' := by
  have hr := h.symm.trans hm.rest_eq
  obtain ⟨pending, ctx, rfl⟩ := Place.of_publish (hm.question? h)
  cases hr
  refine ⟨.between pending ctx, rfl, hm.performing_eq, hm.order, hm.clear, hm.started_eq, ?_,
    trivial⟩
  rw [hm.finished_eq]
  exact (List.append_nil _).symm

/-- A request changes nothing but the flags and the variables of the next run, which count for
nothing where a run is suspended. -/
theorem request (hm : Sound actions m place) (h : m.IsSuspended) (r : Request) :
    Sound actions { m with control := r.apply m.control } place := by
  have hfits : place.Fits (r.apply m.control) := by
    cases h with
    | atGate h =>
      obtain ⟨a, pending, ctx, rfl⟩ := Place.of_gate (hm.question? h)
      exact hm.fits
    | performing h =>
      obtain ⟨a, pending, ctx, rfl⟩ := Place.of_isPerforming (hm.performing_eq.symm.trans h)
      trivial
    | publishing h =>
      obtain ⟨pending, ctx, rfl⟩ := Place.of_publish (hm.question? h)
      trivial
    | ended h =>
      obtain ⟨ctx, rfl | rfl, -⟩ := Place.of_done (hm.rest_eq.symm.trans h)
      · trivial
      · trivial
  refine ⟨?_, hm.performing_eq, hm.order, hm.clear, hm.started_eq, ?_, hfits⟩
  · rw [Request.results_apply]
    exact hm.rest_eq
  · rw [Request.results_apply]
    exact hm.finished_eq

/-- **Every step leads from a sound moment to a sound moment.** -/
theorem step (hm : Sound actions m place) {m' : Moment} (h : Step m m') :
    ∃ place', Sound actions m' place' := by
  cases h with
  | look h => exact hm.look h
  | pass h isOpen => exact hm.pass h isOpen
  | start h idle => exact hm.start h idle
  | finish h busy outcome after => exact hm.finish h busy outcome after
  | publish h => exact hm.publish h
  | request h r => exact ⟨place, hm.request h r⟩

theorem of_reachable (hm : Sound actions m place) {m' : Moment} (h : Reachable m m') :
    ∃ place', Sound actions m' place' := by
  induction h with
  | refl => exact ⟨place, hm⟩
  | tail _ hstep ih =>
    obtain ⟨_, hs⟩ := ih
    exact hs.step hstep

theorem underWay_eq (hm : Sound actions m place) : m.underWay = place.underWay := by
  unfold Moment.underWay
  rw [hm.performing_eq, hm.rest_eq]
  cases place with
  | performing | between | atGate | behindGate | before | publishing | ended => rfl

theorem inHand_eq (hm : Sound actions m place) : m.inHand = place.inHand := by
  unfold Moment.inHand
  rw [hm.rest_eq]
  cases place with
  | between pending ctx =>
    cases pending with
    | nil => rw [Place.course_between_nil]; rfl
    | cons a pending => rw [Place.course_between_cons]; rfl
  | performing | atGate | behindGate | before | publishing | ended => rfl

theorem eq_of_rest_eq_done (hm : Sound actions m place) {outcomes : List Outcome} {ctx : Context}
    (h : m.rest = .done (outcomes, ctx)) :
    m.control.results = outcomes ∧ place.underWay = [] ∧ place.inHand = [] := by
  obtain ⟨ctx', hplace, hresult⟩ := Place.of_done (hm.rest_eq.symm.trans h)
  cases hresult
  obtain rfl | rfl := hplace
  · exact ⟨rfl, rfl, rfl⟩
  · exact ⟨rfl, rfl, rfl⟩

/-- Once a stop is requested, no step starts an action. -/
theorem starts_eq_of_step (hm : Sound actions m place) (hs : m.control.isStopRequested = true)
    {m' : Moment} (h : Step m m') : m'.starts = m.starts ∧ m'.control.isStopRequested = true := by
  cases h with
  | start h idle =>
    obtain ⟨pending, rfl | rfl⟩ := Place.of_perform (hm.question? h)
    · have hn : m.control.isStopRequested = false := hm.fits.notStopped
      rw [hn] at hs
      cases hs
    · have hp := hm.performing_eq.symm.trans idle
      cases hp
  | look | pass | finish => exact ⟨rfl, hs⟩
  | publish => exact ⟨rfl, hs⟩
  | request _ r => exact ⟨rfl, Request.isStopRequested_apply hs⟩

theorem starts_eq_of_reachable (hm : Sound actions m place)
    (hs : m.control.isStopRequested = true) {m' : Moment} (h : Reachable m m') :
    m'.starts = m.starts ∧ m'.control.isStopRequested = true := by
  induction h with
  | refl => exact ⟨rfl, hs⟩
  | tail hreach hstep ih =>
    obtain ⟨_, hsound⟩ := hm.of_reachable hreach
    obtain ⟨hstarts, hstop⟩ := ih
    obtain ⟨hstarts', hstop'⟩ := hsound.starts_eq_of_step hstop hstep
    exact ⟨hstarts'.trans hstarts, hstop'⟩

end Sound

/-! ## Every moment of a run -/

/-- What holds at a moment of a run through some actions. -/
structure Moment.Orderly (actions : List Action) (m : Moment) : Prop where
  /-- The started actions are some of the given ones, in their order. -/
  order : (m.starts.map Start.action).Sublist actions
  /-- Each of them started with both flags down and with nothing to break or to skip. -/
  clear : ∀ s ∈ m.starts, s.IsClear
  /-- When a stop was requested, the ones that have started are all that will. -/
  stopped : m.control.isStopRequested = true → ∀ m', Reachable m m' → m'.starts = m.starts
  /-- All of them are through but for the one under way. -/
  through : m.starts.map Start.action = m.finished.map Prod.fst ++ m.underWay
  /-- The results are the outcomes of those that are through, but for the one in hand. -/
  results : m.finished.map Prod.snd = m.control.results ++ m.inHand
  /-- At the end nothing is under way or in hand, and the results are what the run gives. -/
  returned : ∀ outcomes ctx, m.rest = .done (outcomes, ctx) →
    m.control.results = outcomes ∧ m.underWay = [] ∧ m.inHand = []

/-- **Every moment of a run is orderly**, whatever the actions do and whichever requests reach the
engine in between. -/
theorem orderly_of_reachable (c : Control) (board : Board) (seed : Variables)
    (requests : List Request) {m : Moment} (h : Reachable (.initial c board seed requests) m) :
    m.Orderly board.flattened := by
  obtain ⟨place, hm⟩ := (Sound.initial c board seed requests).of_reachable h
  refine ⟨(List.sublist_append_left _ _).trans hm.order, hm.clear, ?_, ?_, ?_, ?_⟩
  · intro hs m' hr
    exact (hm.starts_eq_of_reachable hs hr).1
  · rw [hm.underWay_eq]
    exact hm.started_eq
  · rw [hm.inHand_eq]
    exact hm.finished_eq
  · intro outcomes ctx hd
    rw [hm.underWay_eq, hm.inHand_eq]
    exact hm.eq_of_rest_eq_done hd

/-- A row of two actions. -/
def twoActions : Board :=
  { id := "", name := "", createdAt := .epoch, modifiedAt := .epoch
    rows := [((Row.new "" "").addAction (.new "1" .log "")).addAction (.new "2" .log "")] }

/-- A run that is stopped during its first action. -/
theorem orderly_of_stop_while_performing :
    ∃ m, Reachable (.initial {} twoActions ∅ []) m ∧ m.starts.length = 1 ∧
      m.control.isStopRequested = true ∧ m.Orderly twoActions.flattened := by
  have h := (((((Relation.ReflTransGen.refl (r := Step) (a := .initial {} twoActions ∅ [])).tail
    (.look rfl)).tail (.pass rfl rfl)).tail (.look rfl)).tail (.start rfl rfl)).tail
    (.request (.performing rfl) .stop)
  exact ⟨_, h, rfl, rfl, orderly_of_reachable {} twoActions ∅ [] h⟩

end Interleaving
end ActionBoard
