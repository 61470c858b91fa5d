import ActionBoard.Simulation.Shell.Builtin

/-!
# The clock of a shell

A shell is given some time.  It takes time only by waiting, and a wait that would go beyond the
limit ends the shell at the limit instead.  So at every moment the clock has not gone back and
has not passed the limit, and a shell that was stopped for its time was stopped exactly when
that was over (`InTime`).

Here this is shown of what a state can be made into directly, of the commands of the shell
(`Builtin.keepsTime_of_named?`) and of the programs on texts and files
(`Utility.keepsTime_of_named?`).  None of them executes other commands; those that do are
in the next module.
-/

namespace ActionBoard.Shell

/-- A state of a shell that has had some time since a start, no more than its limit, and all of it
if it was stopped for that. -/
structure InTime (start limit : Nat) (s : State) : Prop where
  limit_eq : s.limit = limit
  start_le : start ≤ s.clock
  clock_le : s.clock ≤ limit
  clock_eq : s.flow = .ended .timedOut → s.clock = limit

/-- Something that a shell does without leaving the time that it is given. -/
def KeepsTime (work : State → State) : Prop :=
  ∀ ⦃start limit s⦄, InTime start limit s → InTime start limit (work s)

variable {start limit : Nat} {s t : State} {α : Type}

/-- Nothing but the limit, the clock and the course matters. -/
theorem inTime_congr (hlimit : t.limit = s.limit) (hclock : t.clock = s.clock)
    (hflow : t.flow = s.flow) : InTime start limit t ↔ InTime start limit s := by
  constructor
  · rintro ⟨h₁, h₂, h₃, h₄⟩
    rw [hlimit] at h₁
    rw [hclock] at h₂ h₃ h₄
    rw [hflow] at h₄
    exact ⟨h₁, h₂, h₃, h₄⟩
  · rintro ⟨h₁, h₂, h₃, h₄⟩
    rw [← hlimit] at h₁
    rw [← hclock] at h₂ h₃ h₄
    rw [← hflow] at h₄
    exact ⟨h₁, h₂, h₃, h₄⟩

theorem InTime.congr (h : InTime start limit s) (hlimit : t.limit = s.limit)
    (hclock : t.clock = s.clock) (hflow : t.flow = s.flow) : InTime start limit t :=
  (inTime_congr hlimit hclock hflow).mpr h

/-- A course that was not stopped may be changed to another such course. -/
theorem InTime.withFlow (h : InTime start limit s) (hlimit : t.limit = s.limit)
    (hclock : t.clock = s.clock) (hflow : t.flow ≠ .ended .timedOut) :
    InTime start limit t := by
  refine ⟨hlimit.trans h.limit_eq, ?_, ?_, fun hstopped => absurd hstopped hflow⟩
  · rw [hclock]
    exact h.start_le
  · rw [hclock]
    exact h.clock_le

theorem KeepsTime.id : KeepsTime fun s => s :=
  fun _ _ _ h => h

theorem KeepsTime.comp {first second : State → State} (hsecond : KeepsTime second)
    (hfirst : KeepsTime first) : KeepsTime fun s => second (first s) :=
  fun _ _ _ h => hsecond (hfirst h)

theorem KeepsTime.ite {first second : State → State} (hfirst : KeepsTime first)
    (hsecond : KeepsTime second) (p : State → Prop) [DecidablePred p] :
    KeepsTime fun s => if p s then first s else second s := by
  intro start limit s h
  dsimp only
  split
  · exact hfirst h
  · exact hsecond h

/-- What is done for one thing after the other stays in time if each part does. -/
theorem KeepsTime.foldl {work : State → α → State} (h : ∀ a, KeepsTime fun s => work s a)
    (l : List α) : KeepsTime fun s => l.foldl work s := by
  intro start limit s hs
  induction l generalizing s with
  | nil => exact hs
  | cons a rest ih => exact ih (h a hs)

/-- A computation that comes to its end has done so at every step. -/
theorem exists_of_bind_eq_ok {ε β : Type} {x : Except ε α} {f : α → Except ε β} {b : β}
    (h : x >>= f = .ok b) : ∃ a, x = .ok a ∧ f a = .ok b := by
  cases x with
  | error e => cases h
  | ok a => exact ⟨a, rfl, h⟩

/-! ## What takes no time -/

namespace State

@[simp]
theorem inTime_withStatus (status : Nat) :
    InTime start limit (s.withStatus status) ↔ InTime start limit s :=
  inTime_congr rfl rfl rfl

@[simp]
theorem inTime_ofTruth (truth : Bool) :
    InTime start limit (s.ofTruth truth) ↔ InTime start limit s :=
  inTime_congr rfl rfl rfl

@[simp]
theorem inTime_redirect (descriptor : Nat) (outlet : Outlet) :
    InTime start limit (s.redirect descriptor outlet) ↔ InTime start limit s :=
  inTime_congr rfl rfl rfl

@[simp]
theorem inTime_store (location : Location) (content : ByteArray) :
    InTime start limit (s.store location content) ↔ InTime start limit s :=
  inTime_congr rfl rfl rfl

@[simp]
theorem inTime_write (outlet : Outlet) (bytes : List UInt8) :
    InTime start limit (s.write outlet bytes) ↔ InTime start limit s := by
  cases outlet <;> exact inTime_congr rfl rfl rfl

@[simp]
theorem inTime_putBytes (bytes : List UInt8) :
    InTime start limit (s.putBytes bytes) ↔ InTime start limit s :=
  inTime_write _ _

@[simp]
theorem inTime_put (text : String) : InTime start limit (s.put text) ↔ InTime start limit s :=
  inTime_write _ _

@[simp]
theorem inTime_putLine (text : String) :
    InTime start limit (s.putLine text) ↔ InTime start limit s :=
  inTime_write _ _

@[simp]
theorem inTime_report (text : String) : InTime start limit (s.report text) ↔ InTime start limit s :=
  inTime_write _ _

@[simp]
theorem inTime_complain (text : String) :
    InTime start limit (s.complain text) ↔ InTime start limit s :=
  inTime_write _ _

@[simp]
theorem inTime_unset (name : String) : InTime start limit (s.unset name) ↔ InTime start limit s :=
  inTime_congr rfl rfl rfl

@[simp]
theorem inTime_assign (name value : String) :
    InTime start limit (s.assign name value) ↔ InTime start limit s :=
  inTime_congr rfl rfl rfl

@[simp]
theorem inTime_restore (entry : String × Option String) :
    InTime start limit (s.restore entry) ↔ InTime start limit s := by
  obtain ⟨name, value⟩ := entry
  cases value <;> exact inTime_congr rfl rfl rfl

@[simp]
theorem inTime_withExport (name : String) :
    InTime start limit (s.withExport name) ↔ InTime start limit s := by
  rw [withExport]
  split
  · rfl
  · exact inTime_congr rfl rfl rfl

@[simp]
theorem inTime_mention (status : Nat) :
    InTime start limit (s.mention status) ↔ InTime start limit s := by
  unfold mention
  extract_lets message
  split
  · rfl
  · exact inTime_report message

theorem keepsTime_stop (number : Nat) (signal : String) :
    KeepsTime fun s => s.stop number signal := by
  intro start limit s h
  show InTime start limit (s.stop number signal)
  rw [stop]
  split
  · exact h
  · exact h.congr rfl rfl rfl

/-! ## What ends a shell -/

theorem keepsTime_finish {ending : Ending} (hending : ending ≠ .timedOut) :
    KeepsTime fun s => s.finish ending := by
  intro start limit s h
  refine h.withFlow rfl rfl fun hflow => hending ?_
  injection hflow

theorem keepsTime_exit (code : Nat) : KeepsTime fun s => s.exit code :=
  fun _ _ _ h => h.withFlow rfl rfl (by simp [exit])

theorem keepsTime_abort (text : String) : KeepsTime fun s => s.abort text :=
  (keepsTime_exit 2).comp fun _ _ _ h => (inTime_complain text).mpr h

/-! ## What takes time -/

/-- **A wait ends at the limit at the latest**, and it stops the shell if it ends there. -/
theorem keepsTime_waitUntil (time : Nat) : KeepsTime fun s => s.waitUntil time := by
  intro start limit s h
  have hlimit := h.limit_eq
  have hstart := h.start_le
  have hle := h.clock_le
  show InTime start limit (s.waitUntil time)
  rw [waitUntil]
  split
  · exact h
  · split
    · refine ⟨hlimit, ?_, ?_, fun _ => hlimit⟩
      · show start ≤ s.limit
        omega
      · show s.limit ≤ limit
        omega
    · refine ⟨hlimit, ?_, ?_, fun hstopped => ?_⟩
      · show start ≤ time
        omega
      · show time ≤ limit
        omega
      · -- A shell that was stopped stands at its limit; there is no later moment before that.
        have hclock := h.clock_eq hstopped
        omega

theorem keepsTime_hang : KeepsTime State.hang :=
  fun _ _ _ h => keepsTime_waitUntil _ h

theorem keepsTime_takeInput : KeepsTime fun s => s.takeInput.2 :=
  fun _ _ s h => (keepsTime_waitUntil s.inputTime h).congr rfl rfl rfl

theorem keepsTime_receive (signal : String) : KeepsTime fun s => s.receive signal := by
  have hkilled (n : Nat) : KeepsTime fun s => { s with status := n }.finish .killed :=
    (keepsTime_finish (by decide)).comp fun _ _ _ h => h.congr rfl rfl rfl
  intro start limit s h
  show InTime start limit (s.receive signal)
  rw [receive]
  repeat' split
  · exact hkilled _ h
  · exact keepsTime_hang h
  · exact h
  · exact h.congr rfl rfl rfl
  · exact h
  · exact keepsTime_hang h
  · exact hkilled _ h

theorem keepsTime_send (signal target : String) : KeepsTime fun s => s.send signal target := by
  intro start limit s h
  show InTime start limit (s.send signal target)
  rw [send]
  split
  · exact keepsTime_receive signal ((inTime_withStatus 0).mpr h)
  · split
    · exact keepsTime_stop _ signal ((inTime_withStatus 0).mpr h)
    · split <;> simpa using h

end State

/-! ## Programs on texts and files -/

namespace Utility

theorem keepsTime_fail (name text : String) : KeepsTime (fail name text) :=
  fun _ _ _ h => by simpa [fail] using h

theorem keepsTime_failOn (name path : String) (e : FileError) : KeepsTime (failOn name path e) :=
  keepsTime_fail name _

/-- The input may have to be waited for. -/
theorem inTime_of_content {path : String} {bytes : List UInt8} (h : content path s = .ok (bytes, t))
    (hs : InTime start limit s) : InTime start limit t := by
  rw [content] at h
  split at h
  · cases h
    exact State.keepsTime_takeInput hs
  · cases hread : s.readFile path with
    | error e =>
      rw [hread] at h
      cases h
    | ok content =>
      rw [hread] at h
      cases h
      exact hs

theorem keepsTime_eachFile (name : String) {work : String → List UInt8 → State → State}
    (h : ∀ path bytes, KeepsTime (work path bytes)) (paths : List String) :
    KeepsTime (eachFile name work paths) := by
  intro start limit s hs
  refine KeepsTime.foldl (fun path start limit s hs => ?_) _ ((State.inTime_withStatus 0).mpr hs)
  dsimp only
  split
  · rename_i bytes t hcontent
    exact h path bytes (inTime_of_content hcontent hs)
  · exact keepsTime_failOn name path _ hs

theorem keepsTime_eachOpened (name : String) {work : List UInt8 → State → State}
    (h : ∀ bytes, KeepsTime (work bytes)) (paths : List String) :
    KeepsTime (head.eachOpened name work paths) := by
  intro start limit s hs
  refine KeepsTime.foldl (fun path start limit s hs => ?_) _ ((State.inTime_withStatus 0).mpr hs)
  dsimp only
  split
  · rename_i bytes t hcontent
    exact h bytes (inTime_of_content hcontent hs)
  · exact keepsTime_fail name _ hs

theorem keepsTime_putBytes (f : List UInt8 → List UInt8) (bytes : List UInt8) :
    KeepsTime fun s => s.putBytes (f bytes) :=
  fun _ _ _ h => (State.inTime_putBytes _).mpr h

theorem keepsTime_expression (arguments : List String) : KeepsTime (expression arguments) := by
  intro start limit s h
  unfold expression
  extract_lets truth compare calculated value
  have hvalue : ∀ text, InTime start limit (value text) := fun text => by simpa [value] using h
  have hfail : ∀ text, InTime start limit ((fail "expr" text s).withStatus 2) := fun text =>
    (State.inTime_withStatus 2).mpr (keepsTime_fail "expr" text h)
  repeat' split
  all_goals first | exact hvalue _ | exact hfail _

theorem keepsTime_translate (arguments : List String) : KeepsTime (translate arguments) := by
  intro start limit s h
  unfold translate
  simpa using State.keepsTime_takeInput h

theorem keepsTime_baseName (arguments : List String) : KeepsTime (baseName arguments) := by
  intro start limit s h
  cases arguments with
  | nil => exact keepsTime_fail _ _ h
  | cons path rest => simpa [baseName] using h

theorem keepsTime_directoryName (arguments : List String) :
    KeepsTime (directoryName arguments) := by
  intro start limit s h
  refine (State.inTime_withStatus 0).mpr ?_
  exact KeepsTime.foldl (fun path _ _ _ h => (State.inTime_putLine _).mpr h) arguments h

theorem keepsTime_list (arguments : List String) : KeepsTime (list arguments) := by
  intro start limit s h
  unfold list
  extract_lets named paths putOut
  have hputOut : ∀ path, KeepsTime (putOut path) := by
    intro path start limit s h
    dsimp only [putOut]
    split
    · simpa using h
    · split
      · refine KeepsTime.foldl (fun name _ _ _ h => (State.inTime_putLine name).mpr h) _ ?_
        split
        · exact h
        · simpa using h
      · simpa using h
  exact KeepsTime.foldl hputOut paths ((State.inTime_withStatus 0).mpr h)

theorem keepsTime_makeDirectory (arguments : List String) :
    KeepsTime (makeDirectory arguments) := by
  intro start limit s h
  refine KeepsTime.foldl (fun path start limit s h => ?_) _ ((State.inTime_withStatus 0).mpr h)
  dsimp only
  split
  · exact h.congr rfl rfl rfl
  · exact keepsTime_fail _ _ h

theorem keepsTime_remove (arguments : List String) : KeepsTime (remove arguments) := by
  intro start limit s h
  refine KeepsTime.foldl (fun path start limit s h => ?_) _ ((State.inTime_withStatus 0).mpr h)
  dsimp only
  repeat' split
  · exact h
  · exact keepsTime_fail _ _ h
  · exact keepsTime_fail _ _ h
  · exact h.congr rfl rfl rfl

theorem keepsTime_touch (arguments : List String) : KeepsTime (touch arguments) := by
  intro start limit s h
  refine KeepsTime.foldl (fun path start limit s h => ?_) _ ((State.inTime_withStatus 0).mpr h)
  dsimp only
  repeat' split
  · exact h
  · simpa using h
  · exact keepsTime_fail _ _ h

theorem keepsTime_changeMode (arguments : List String) : KeepsTime (changeMode arguments) := by
  intro start limit s h
  cases arguments with
  | nil => exact keepsTime_fail _ _ h
  | cons mode paths =>
    refine KeepsTime.foldl (fun path start limit s h => ?_) _ ((State.inTime_withStatus 0).mpr h)
    dsimp only
    repeat' split
    · exact keepsTime_fail _ _ h
    · exact h.congr rfl rfl rfl
    · exact h

theorem keepsTime_sleep (arguments : List String) : KeepsTime (sleep arguments) := by
  intro start limit s h
  unfold sleep
  extract_lets advice
  have hadvice (text : String) :
      InTime start limit ((advice (fail "sleep" text s)).withStatus 1) := by
    simpa [advice] using keepsTime_fail "sleep" text h
  split
  · exact hadvice _
  · split
    · exact hadvice _
    · exact (State.inTime_withStatus 0).mpr (State.keepsTime_waitUntil _ h)

/-- **A program on texts and files stays in time.** -/
theorem keepsTime_of_named? {name : String} {work : Utility} (h : named? name = some work)
    (arguments : List String) : KeepsTime (work arguments) := by
  unfold named? at h
  split at h
  all_goals cases h
  · exact keepsTime_eachFile _ (fun _ => keepsTime_putBytes id) _
  · exact keepsTime_eachOpened _ (keepsTime_putBytes _) _
  · exact keepsTime_eachOpened _ (keepsTime_putBytes _) _
  · exact fun _ _ _ h => by simpa [yes] using h
  · exact fun _ _ _ h => by simpa [sequence] using h
  · exact keepsTime_expression arguments
  · exact keepsTime_eachFile _ (fun _ _ _ _ _ h => (State.inTime_putLine _).mpr h) _
  · exact keepsTime_translate arguments
  · exact keepsTime_baseName arguments
  · exact keepsTime_directoryName arguments
  · exact keepsTime_list arguments
  · exact keepsTime_makeDirectory arguments
  · exact keepsTime_remove arguments
  · exact keepsTime_touch arguments
  · exact keepsTime_changeMode arguments
  · exact keepsTime_sleep arguments
  · exact fun _ _ _ h => (State.inTime_withStatus 0).mpr h
  · exact fun _ _ _ h => (State.inTime_withStatus 1).mpr h
  · exact fun _ _ _ h => by simpa using h

end Utility

/-! ## Commands of the shell -/

namespace Builtin

theorem keepsTime_fail (text : String) : KeepsTime (fail text) := by
  intro start limit s h
  rw [fail]
  split
  · exact State.keepsTime_abort text h
  · simpa using h

theorem keepsTime_withNumber (least standard : Nat) (arguments : List String)
    {work : Nat → State → State} (h : ∀ n, KeepsTime (work n)) :
    KeepsTime (withNumber least standard arguments work) := by
  intro start limit s hs
  unfold withNumber
  split
  · exact h standard hs
  · split
    · exact h _ hs
    · exact State.keepsTime_abort _ hs

theorem keepsTime_assign (name value : String) : KeepsTime (assign name value) := by
  intro start limit s h
  rw [assign]
  split
  · exact State.keepsTime_abort _ h
  · simpa using h

/-- A variable that is given a value, or is not. -/
theorem inTime_elim_assign (name : String) (value : Option String) (h : InTime start limit s) :
    InTime start limit (value.elim s fun value => assign name value s) := by
  cases value with
  | none => exact h
  | some value => exact keepsTime_assign name value h

theorem keepsTime_eachVariable {work : String → Option String → State → State}
    (h : ∀ name value, KeepsTime (work name value)) (arguments : List String) :
    KeepsTime (eachVariable work arguments) := by
  intro start limit s hs
  refine KeepsTime.foldl (fun text start limit s hs => ?_) _ ((State.inTime_withStatus 0).mpr hs)
  dsimp only
  repeat' split
  · exact hs
  · exact h _ _ hs
  · exact State.keepsTime_abort _ hs

theorem keepsTime_listVariables (text : String) (names : List String) :
    KeepsTime (listVariables text names) := by
  intro start limit s h
  refine (State.inTime_withStatus 0).mpr ?_
  exact KeepsTime.foldl (fun name _ _ _ h => (State.inTime_putLine _).mpr h) _ h

/-- A course that is no end is none at the limit. -/
theorem keepsTime_leaveLoops {toFlow : Nat → Flow} (h : ∀ n, toFlow n ≠ .ended .timedOut)
    (arguments : List String) : KeepsTime (leaveLoops toFlow arguments) := by
  refine keepsTime_withNumber 1 1 arguments fun n start limit s hs => ?_
  split
  · simpa using hs
  · exact hs.withFlow rfl rfl (h _)

theorem keepsTime_exit (arguments : List String) : KeepsTime (exit arguments) :=
  fun _ _ s h => keepsTime_withNumber 0 s.status arguments State.keepsTime_exit h

theorem keepsTime_back (arguments : List String) : KeepsTime (back arguments) := by
  have hback (n : Nat) : KeepsTime fun s => { s with status := n, flow := .back } :=
    fun _ _ _ h => h.withFlow rfl rfl (by simp)
  exact fun _ _ s h => keepsTime_withNumber 0 s.status arguments hback h

theorem keepsTime_exportVariables (arguments : List String) :
    KeepsTime (exportVariables arguments) := by
  intro start limit s h
  unfold exportVariables
  extract_lets names
  split
  · exact keepsTime_listVariables _ _ h
  · refine keepsTime_eachVariable (fun name value start limit s h => ?_) names h
    exact (State.inTime_withExport name).mpr (inTime_elim_assign name value h)

theorem keepsTime_makeConstant (arguments : List String) : KeepsTime (makeConstant arguments) := by
  intro start limit s h
  unfold makeConstant
  extract_lets names
  split
  · exact keepsTime_listVariables _ _ h
  · refine keepsTime_eachVariable (fun name value start limit s h => ?_) names h
    exact (inTime_elim_assign name value h).congr rfl rfl rfl

theorem keepsTime_makeLocal (arguments : List String) : KeepsTime (makeLocal arguments) := by
  intro start limit s h
  rw [makeLocal]
  split
  · exact State.keepsTime_abort _ h
  · refine keepsTime_eachVariable (fun name value start limit s h => ?_) arguments h
    refine inTime_elim_assign name value ?_
    split
    · exact h
    · exact h.congr rfl rfl rfl

theorem keepsTime_unset (arguments : List String) : KeepsTime (unset arguments) := by
  intro start limit s h
  unfold unset
  split
  · exact h.congr rfl rfl rfl
  · refine keepsTime_eachVariable (fun name value start limit s h => ?_) _ h
    split
    · exact State.keepsTime_abort _ h
    · simpa using h

theorem keepsTime_shift (arguments : List String) : KeepsTime (shift arguments) := by
  refine keepsTime_withNumber 0 1 arguments fun n start limit s h => ?_
  split
  · exact State.keepsTime_abort _ h
  · exact h.congr rfl rfl rfl

/-! ### Options -/

/-- An option has nothing to do with time or with the course. -/
theorem eq_of_setOption {isSet : Bool} {letter : Char} (h : setOption isSet letter s = some t) :
    t.limit = s.limit ∧ t.clock = s.clock ∧ t.flow = s.flow := by
  unfold setOption at h
  split at h
  iterate 3
    cases h
    exact ⟨rfl, rfl, rfl⟩
  split at h
  · cases h
    exact ⟨rfl, rfl, rfl⟩
  · cases h

theorem inTime_of_setOption {isSet : Bool} {letter : Char} (h : setOption isSet letter s = some t)
    (hs : InTime start limit s) : InTime start limit t := by
  obtain ⟨hlimit, hclock, hflow⟩ := eq_of_setOption h
  exact hs.congr hlimit hclock hflow

theorem inTime_of_named {isSet : Bool} {sign name : String}
    (h : takeOptions.named isSet sign name s = .ok t) (hs : InTime start limit s) :
    InTime start limit t := by
  unfold takeOptions.named at h
  split at h
  · rename_i u hset
    cases h
    obtain ⟨letter, -, hset⟩ := Option.bind_eq_some_iff.mp hset
    exact inTime_of_setOption hset hs
  · cases h

theorem inTime_of_all {isSet : Bool} {letters : List Char} {text : String}
    (h : takeOptions.all isSet letters text s = .ok t) (hs : InTime start limit s) :
    InTime start limit t := by
  have hfold : ∀ (letters : List Char) (s? : Option State) (u : State),
      letters.foldl (fun s letter => s.bind (setOption isSet letter)) s? = some u →
        (∀ s, s? = some s → InTime start limit s) → InTime start limit u := by
    intro letters
    induction letters with
    | nil => exact fun s? u hu hs => hs u hu
    | cons letter rest ih =>
      refine fun s? u hu hs => ih _ u hu fun s' hs' => ?_
      obtain ⟨s, hsome, hset⟩ := Option.bind_eq_some_iff.mp hs'
      exact inTime_of_setOption hset (hs s hsome)
  unfold takeOptions.all at h
  split at h
  · rename_i u hset
    cases h
    exact hfold letters (some s) t hset fun s' hs' => Option.some.inj hs' ▸ hs
  · cases h

theorem inTime_of_takeOptions {arguments : List String} {rest : Option (List String)}
    (h : takeOptions arguments s = .ok (t, rest)) (hs : InTime start limit s) :
    InTime start limit t := by
  fun_induction takeOptions arguments s with
  | case1 | case2 | case3 =>
    cases h
    exact hs
  | case4 name others s ih | case5 name others s ih =>
    obtain ⟨u, hu, hrest⟩ := exists_of_bind_eq_ok h
    exact ih u hrest (inTime_of_named hu hs)
  | case6 text others s _ _ _ _ letters _ ih | case7 text others s _ _ _ _ letters _ ih =>
    obtain ⟨u, hu, hrest⟩ := exists_of_bind_eq_ok h
    exact ih u hrest (inTime_of_all hu hs)
  | case8 =>
    cases h
    exact hs

theorem keepsTime_set (arguments : List String) : KeepsTime (set arguments) := by
  intro start limit s h
  rw [set]
  split
  · exact keepsTime_listVariables _ _ h
  · split
    · rename_i htake
      exact (inTime_of_takeOptions htake h).congr rfl rfl rfl
    · rename_i htake
      exact (inTime_of_takeOptions htake h).congr rfl rfl rfl
    · exact State.keepsTime_abort _ h

/-! ### Input, directories and processes -/

theorem keepsTime_assignFields (separators : List Char) (names : List String)
    (text : List (Char × Bool)) : KeepsTime (assignFields separators names text) := by
  induction names generalizing text with
  | nil => exact KeepsTime.id
  | cons name names ih =>
    intro start limit s h
    rw [assignFields]
    extract_lets
    split
    · exact keepsTime_assign _ _ h
    · exact ih _ (keepsTime_assign _ _ h)

theorem keepsTime_read (arguments : List String) : KeepsTime (read arguments) := by
  intro start limit s h
  unfold read
  extract_lets isRaw names
  split
  · exact keepsTime_fail _ h
  · split
    · exact keepsTime_fail _ h
    · refine (State.inTime_withStatus _).mpr (keepsTime_assignFields _ _ _ ?_)
      exact (State.keepsTime_waitUntil s.inputTime h).congr rfl rfl rfl

theorem keepsTime_changeDirectory (arguments : List String) :
    KeepsTime (changeDirectory arguments) := by
  intro start limit s h
  unfold changeDirectory
  extract_lets arguments path
  split
  · simpa using h
  · split
    · rename_i directory hlocate
      have hdirectory : InTime start limit { s with directory } := h.congr rfl rfl rfl
      split
      · dsimp only
        split <;> simpa using hdirectory
      · exact keepsTime_fail _ h
    · exact keepsTime_fail _ h

theorem keepsTime_kill (arguments : List String) : KeepsTime (kill arguments) := by
  have hsend (signal : String) (targets : List String) :
      KeepsTime (kill.sendAll signal targets) := by
    intro start limit s h
    unfold kill.sendAll
    split
    · exact keepsTime_fail _ h
    · split
      · exact keepsTime_fail _ h
      · exact KeepsTime.foldl (State.keepsTime_send _) targets h
  intro start limit s h
  unfold kill
  split
  · simpa using h
  · exact hsend _ _ h
  · exact hsend _ _ h
  · split
    · exact hsend _ _ h
    · exact hsend _ _ h
  · exact keepsTime_fail _ h

theorem keepsTime_trap (arguments : List String) : KeepsTime (trap arguments) := by
  intro start limit s h
  unfold trap
  extract_lets arguments change
  have hchange (action : Option String) (signal : String) :
      KeepsTime fun s => change action s signal := by
    intro start limit s h
    dsimp only [change]
    split
    · exact h.congr rfl rfl rfl
    · simpa using h
  have hstatus := (State.inTime_withStatus 0).mpr h
  clear_value arguments
  split
  · refine (State.inTime_withStatus 0).mpr ?_
    exact KeepsTime.foldl (fun entry _ _ _ h => (State.inTime_putLine _).mpr h) _ h
  · exact hchange _ _ hstatus
  · exact KeepsTime.foldl (hchange _) _ hstatus

theorem keepsTime_wait (arguments : List String) : KeepsTime (wait arguments) := by
  intro start limit s h
  unfold wait
  extract_lets waitFor
  have hwaitFor (target : String) : KeepsTime fun s => waitFor s target := by
    intro start limit s h
    dsimp only [waitFor]
    split
    · simpa using State.keepsTime_waitUntil _ h
    · split
      · simpa using h
      · exact keepsTime_fail _ h
  split
  · exact (State.inTime_withStatus 0).mpr (State.keepsTime_waitUntil _ h)
  · exact KeepsTime.foldl hwaitFor arguments h

/-! ### Texts and names -/

theorem keepsTime_printFormat (arguments : List String) : KeepsTime (printFormat arguments) := by
  intro start limit s h
  unfold printFormat
  split
  · exact keepsTime_fail _ h
  · extract_lets result complained put
    have hcomplained : InTime start limit complained :=
      KeepsTime.foldl (fun text _ _ _ h => (State.inTime_complain text).mpr h) result.problems h
    have hput : InTime start limit put := by
      dsimp only [put]
      split
      · exact hcomplained
      · simpa using hcomplained
    split
    · exact keepsTime_fail _ hput
    · simpa using hput

theorem keepsTime_test (arguments : List String) : KeepsTime (test arguments) := by
  intro start limit s h
  rw [test]
  split
  · simpa using h
  · exact keepsTime_fail _ h

theorem keepsTime_bracket (arguments : List String) : KeepsTime (bracket arguments) := by
  intro start limit s h
  rw [bracket]
  split
  · exact keepsTime_test _ h
  · exact keepsTime_fail _ h

theorem keepsTime_describe (arguments : List String) : KeepsTime (describe arguments) := by
  intro start limit s h
  refine KeepsTime.foldl (fun name start limit s h => ?_) _ ((State.inTime_withStatus 0).mpr h)
  dsimp only
  split <;> simpa using h

theorem keepsTime_locate (arguments : List String) : KeepsTime (locate arguments) := by
  intro start limit s h
  unfold locate
  split
  · simpa using h
  · split <;> simpa using h

/-- **A command of the shell stays in time.** -/
theorem keepsTime_of_named? {name : String} {work : Utility} (h : named? name = some work)
    (arguments : List String) : KeepsTime (work arguments) := by
  unfold named? at h
  split at h
  all_goals cases h
  all_goals try exact fun _ _ _ h => (State.inTime_withStatus _).mpr h
  · intro start limit s h
    refine (State.inTime_withStatus 0).mpr ?_
    split
    · simpa using h
    · exact h
  · exact keepsTime_leaveLoops (fun _ => by simp) arguments
  · exact keepsTime_leaveLoops (fun _ => by simp) arguments
  · exact keepsTime_exit arguments
  · exact keepsTime_back arguments
  · exact keepsTime_exportVariables arguments
  · exact keepsTime_makeConstant arguments
  · exact keepsTime_makeLocal arguments
  · exact keepsTime_unset arguments
  · exact keepsTime_shift arguments
  · exact keepsTime_set arguments
  · exact keepsTime_read arguments
  · exact keepsTime_changeDirectory arguments
  · exact fun _ _ _ h => by simpa using h
  · exact keepsTime_kill arguments
  · exact keepsTime_trap arguments
  · exact keepsTime_wait arguments
  · exact fun _ _ _ h => by simpa using h
  · exact keepsTime_printFormat arguments
  · exact keepsTime_test arguments
  · exact keepsTime_bracket arguments
  · exact keepsTime_describe arguments

end Builtin

end ActionBoard.Shell
