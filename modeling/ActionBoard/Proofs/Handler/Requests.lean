import ActionBoard.Proofs.Handler.Invariant

/-!
# What handlers ask of the engine

Two variables ask the engine for something: to skip following actions, and to break off the run.
They are variables like all others, and most handlers set variables, some of them under names that
the metadata of an action gives.  As long as no such name is one of the two, only a condition asks
for anything, and it asks for what it decides.

* `Action.SparesRequests`: the metadata names neither of the two variables as one to be set.
* `Variables.Requested`: what some decisions make of the two variables.
* `Handler.meets_program`: every action but a condition keeps what setting variables keeps, under
  names other than the two and under those that its metadata gives (`Action.Admits`).
* `Handler.meets_program_of_spares`, `Handler.asks_program`: so it leaves the two variables as they
  are if its metadata does not name them, and in any case no sum overflows in it.
* `Handler.conditional_run`, `Handler.meets_conditionHolds`: a condition only looks at the
  variables, and then the request of its decision is made.
-/

namespace ActionBoard

/-! ## Names of variables in actions -/

namespace Action

/-- The metadata entries that name a variable to be set. -/
def targetKeys : List String :=
  ["result_variable", "row_variable", "value_variable"]

/-- The metadata names neither of the two request variables as one to be set. -/
def SparesRequests (a : Action) : Prop :=
  ∀ key ∈ targetKeys, a.metaTextOr key "" ≠ skipVariable ∧ a.metaTextOr key "" ≠ breakVariable

instance (a : Action) : Decidable a.SparesRequests :=
  inferInstanceAs (Decidable (∀ key ∈ targetKeys, _ ∧ _))

/-- A name that is not in the metadata is read only where it is the default. -/
theorem metaTextOr_ne {a : Action} {key default name : String} (h : a.metaTextOr key "" ≠ name)
    (hdefault : default ≠ name) : a.metaTextOr key default ≠ name := by
  unfold metaTextOr at h ⊢
  cases htext : a.metaText? key with
  | none => exact hdefault
  | some text =>
    rw [htext] at h
    dsimp only at h ⊢
    split
    · exact hdefault
    · rename_i hblank
      rwa [if_neg hblank] at h

end Action

/-- No action of the board names a request variable as one to be set. -/
def Board.SparesRequests (board : Board) : Prop :=
  ∀ row ∈ board.rows, ∀ a ∈ row.actions, a.SparesRequests

instance (board : Board) : Decidable board.SparesRequests :=
  inferInstanceAs (Decidable (∀ row ∈ board.rows, ∀ a ∈ row.actions, a.SparesRequests))

/-! ## Requests in variables -/

namespace Variables

/-- Variables that ask for the same. -/
structure SameRequests (before after : Variables) : Prop where
  skips : after.find? skipVariable = before.find? skipVariable
  breaks : after.find? breakVariable = before.find? breakVariable

variable {before mid after vars : Variables}

theorem SameRequests.refl (vars : Variables) : SameRequests vars vars := ⟨rfl, rfl⟩

theorem SameRequests.insert {name : String} (h : SameRequests before after) (value : Value)
    (hskip : name ≠ skipVariable) (hbreak : name ≠ breakVariable) :
    SameRequests before (after.insert name value) :=
  ⟨(Dictionary.find?_insert_of_ne after value hskip.symm).trans h.skips,
    (Dictionary.find?_insert_of_ne after value hbreak.symm).trans h.breaks⟩

/-- What some decisions ask for in addition, from some variables to others. -/
structure Requested (decisions : List Decision) (before after : Variables) : Prop where
  skips : after.skipCount = before.skipCount + UInt64.ofNat (decisions.count .skipNext)
  breaks : after.breakRequested = true ↔ before.breakRequested = true ∨ .breakOff ∈ decisions

theorem SameRequests.requested (h : SameRequests before after) : Requested [] before after := by
  refine ⟨?_, ?_⟩
  · rw [skipCount, h.skips, List.count_nil]
    exact (UInt64.add_zero _).symm
  · rw [breakRequested, h.breaks]
    exact ⟨.inl, fun h => h.resolve_right List.not_mem_nil⟩

/-- Decisions one after the other ask for both what the earlier and what the later ones do. -/
theorem Requested.append {decisions more : List Decision} (h : Requested decisions before mid)
    (h' : Requested more mid after) : Requested (decisions ++ more) before after := by
  refine ⟨?_, ?_⟩
  · rw [h'.skips, h.skips, List.count_append, UInt64.ofNat_add, UInt64.add_assoc]
  · rw [h'.breaks, h.breaks, List.mem_append, or_assoc]

theorem skipCountOf_word (n : UInt64) : skipCountOf (.word n) = some n := by
  have hnonneg : (0 : Int) ≤ (WideInt.ofWord n).val := Int.natCast_nonneg n.toNat
  show (if 0 ≤ (WideInt.ofWord n).val then some (UInt64.ofNat (WideInt.ofWord n).val.toNat)
      else none) = some n
  rw [if_pos hnonneg]
  exact congrArg some (UInt64.ofNat_toNat ..)

theorem skipCount_insert_word (vars : Variables) (n : UInt64) :
    skipCount (vars.insert skipVariable (.word n)) = n := by
  rw [skipCount, Dictionary.find?_insert_self, Option.bind_some, skipCountOf_word]
  rfl

/-- The request of a decision is one for what it is called. -/
theorem requested_apply (d : Decision) (vars : Variables) : Requested [d] vars (d.apply vars) := by
  cases d with
  | executeNext =>
    refine ⟨(UInt64.add_zero _).symm, ?_⟩
    simp [Decision.apply]
  | skipNext =>
    refine ⟨skipCount_insert_word vars _, ?_⟩
    have hother : (vars.insert skipVariable (.word (vars.skipCount + 1))).find? breakVariable =
        vars.find? breakVariable := Dictionary.find?_insert_of_ne vars _ (by decide)
    simp [Decision.apply, requestSkip, breakRequested, hother]
  | breakOff =>
    have hother : (vars.insert breakVariable (.bool true)).find? skipVariable =
        vars.find? skipVariable :=
      Dictionary.find?_insert_of_ne vars _ (by decide)
    refine ⟨?_, ?_⟩
    · show skipCount (vars.insert breakVariable (.bool true)) = _
      rw [skipCount, hother]
      exact (UInt64.add_zero _).symm
    · have hbreak : breakRequested (vars.insert breakVariable (.bool true)) = true := by
        rw [breakRequested, Dictionary.find?_insert_self]
        rfl
      simp [Decision.apply, requestBreak, hbreak]

end Variables

/-! ## Handlers that ask for nothing -/

namespace Handling

variable {I : Variables → Prop} {α : Type}

theorem meets_getVariables : Meets I I getVariables := by
  refine fun vars hv => ⟨trivial, hv, ?_⟩
  rintro _ ⟨⟩
  exact hv

theorem meets_getVariable? (name : String) : Meets I (fun _ => True) (getVariable? name) :=
  meets_getVariables.bind fun _ _ => meets_pure trivial

theorem meets_modifyVariables {change : Variables → Variables}
    (h : ∀ vars, I vars → I (change vars)) : Meets I (fun _ => True) (modifyVariables change) :=
  fun vars hv => ⟨trivial, h vars hv, fun _ _ => trivial⟩

end Handling

/-- Setting variables keeps an invariant, if they are other than the two, or named by the
metadata. -/
structure Action.Admits (a : Action) (I : Variables → Prop) : Prop where
  other {name : String} : name ≠ skipVariable → name ≠ breakVariable →
    ∀ vars value, I vars → I (vars.insert name value)
  target {key default : String} : key ∈ targetKeys → default ≠ skipVariable →
    default ≠ breakVariable →
    ∀ vars value, I vars → I (vars.insert (a.metaTextOr key default) value)

theorem Action.admits_true (a : Action) : a.Admits fun _ => True :=
  ⟨fun _ _ _ _ _ => trivial, fun _ _ _ _ _ _ => trivial⟩

theorem Action.SparesRequests.admits {a : Action} (h : a.SparesRequests) (before : Variables) :
    a.Admits (Variables.SameRequests before) where
  other hskip hbreak _ value hv := hv.insert value hskip hbreak
  target {key _} hkey hskip hbreak _ value hv :=
    hv.insert value (metaTextOr_ne (h key hkey).1 hskip) (metaTextOr_ne (h key hkey).2 hbreak)

namespace Handler

open Handling Variables

variable {I : Variables → Prop} (enumeration : Enumeration) (ports : PortSet)
  (settings : EngineSettings) {a : Action}

/-- Setting a variable that is none of the two. -/
theorem meets_setOther (h : a.Admits I) {name : String} (value : Value)
    (hskip : name ≠ skipVariable)
    (hbreak : name ≠ breakVariable) : Meets I (fun _ => True) (setVariable name value) :=
  meets_setVariable fun vars hv => h.other hskip hbreak vars value hv

theorem isOf_pixelOutcome (p : Polling) (place : Coordinates) (what : String) (a : Action)
    (met : Bool) : (pixelOutcome p place what a met).IsOf a := by
  cases met with
  | false => exact Outcome.isOf_unmet a _
  | true => exact Outcome.isOf_succeeded a _

theorem meets_awaitColor (a : Action) :
    Meets I (Outcome.IsOf a) (awaitColor ports settings a) := by
  refine (meets_watchedPixel ports a).bind fun place _ => ?_
  dsimp only
  split
  · refine (meets_device (.samplePixel place)).bind fun sample _ => ?_
    cases sample with
    | none => exact meets_pure (Outcome.isOf_failed a _)
    | some initial =>
      exact (meets_watchPixel _ _ _).bind fun met _ => meets_pure (isOf_pixelOutcome _ _ _ a met)
  · exact (meets_watchPixel _ _ _).bind fun met _ => meets_pure (isOf_pixelOutcome _ _ _ a met)

theorem meets_awaitImage (h : a.Admits I) :
    Meets I (Outcome.IsOf a) (awaitImage ports settings a) := by
  refine (meets_requirePort _ _).bind fun _ _ => (meets_require _ _).bind fun path _ => ?_
  refine (meets_pollFrom (meets_device (.findImage path _)) _ 0).bind fun found _ => ?_
  cases found with
  | none => exact meets_pure (Outcome.isOf_unmet a _)
  | some place =>
    exact (meets_setOther h _ (by decide) (by decide)).bind fun _ _ =>
      (meets_setOther h _ (by decide) (by decide)).bind fun _ _ =>
        meets_pure (Outcome.isOf_succeeded a _)

theorem meets_awaitText (a : Action) : Meets I (Outcome.IsOf a) (awaitText a) := by
  refine (meets_getVariable? _).bind fun recognized _ => ?_
  dsimp only
  split
  · exact meets_pure (Outcome.isOf_succeeded a _)
  · exact meets_pure (Outcome.isOf_unmet a _)

theorem meets_countRounds (h : a.Admits I) (duration first n : Nat) :
    Meets I (fun _ => True) (countRounds duration first n) := by
  induction n generalizing first with
  | zero => exact meets_pure trivial
  | succ n ih =>
    exact (meets_setOther h _ (by decide) (by decide)).bind fun _ _ =>
      (meets_wait duration).bind fun _ _ => ih (first + 1)

theorem meets_loop (h : a.Admits I) : Meets I (Outcome.IsOf a) (loop a) :=
  (meets_countRounds h _ _ _).bind fun _ _ =>
    (meets_setOther h _ (by decide) (by decide)).bind fun _ _ =>
    meets_pure (Outcome.isOf_succeeded a _)

theorem meets_capture (h : a.Admits I) : Meets I (Outcome.IsOf a) (capture ports a) := by
  refine (meets_requirePort _ _).bind fun _ _ =>
    (meets_device (.capture (region? a))).bind fun path _ => ?_
  cases path with
  | none => exact meets_pure (Outcome.isOf_unmet a _)
  | some path =>
    exact (meets_setOther h _ (by decide) (by decide)).bind fun _ _ =>
      meets_pure (Outcome.isOf_succeeded a _)

/-! ## Handlers of records -/

theorem meets_requireTable (name : String) :
    Meets I (fun _ => True) (requireTable ports name) :=
  (meets_requirePort _ _).bind fun _ _ => (meets_device (.readTable name)).bind fun _ _ =>
    meets_require _ _

/-- Setting the variable that an entry of the metadata names. -/
theorem meets_setTarget (h : a.Admits I) {key default : String} (hkey : key ∈ Action.targetKeys)
    (hskip : default ≠ skipVariable) (hbreak : default ≠ breakVariable) (value : Value) :
    Meets I (fun _ => True) (setVariable (a.metaTextOr key default) value) :=
  meets_setVariable fun vars hv => h.target hkey hskip hbreak vars value hv

theorem meets_dbSearch (h : a.Admits I) : Meets I (Outcome.IsOf a) (dbSearch ports a) := by
  refine (meets_requirePort _ _).bind fun _ _ =>
    (meets_device (.searchRecord _ _ _)).bind fun found _ => ?_
  cases found with
  | none =>
    exact (meets_setTarget h (by decide) (by decide) (by decide) _).bind fun _ _ =>
      meets_pure (Outcome.isOf_unmet a _)
  | some record =>
    exact (meets_setTarget h (by decide) (by decide) (by decide) _).bind fun _ _ =>
      meets_pure (Outcome.isOf_succeeded a _)

theorem meets_dbGetValue (h : a.Admits I) : Meets I (Outcome.IsOf a) (dbGetValue a) := by
  refine (meets_getVariable? _).bind fun holder _ => ?_
  split
  · exact (meets_setTarget h (by decide) (by decide) (by decide) _).bind fun _ _ =>
      meets_pure (Outcome.isOf_succeeded a _)
  · exact meets_pure (Outcome.isOf_failed a _)

/-- Going through records sets two variables, again and again. -/
theorem visitRecords_keeps {rowVariable valueVariable valueColumn : String} {vars : Variables}
    (hrow : ∀ vars value, I vars → I (vars.insert rowVariable value))
    (hvalue : ∀ vars value, I vars → I (vars.insert valueVariable value)) (records : List Record)
    (position : Nat) (hv : I vars) :
    I (visitRecords rowVariable valueVariable valueColumn position records vars).2 := by
  induction records generalizing position vars with
  | nil => exact hv
  | cons record records ih =>
    have hpublished := hrow vars (.nat position) hv
    rw [visitRecords]
    split
    · cases record.find? valueColumn with
      | none => exact ih (position + 1) hpublished
      | some value => exact ih (position + 1) (hvalue _ value hpublished)
    · exact hv

theorem meets_dbIterate (h : a.Admits I) : Meets I (Outcome.IsOf a) (dbIterate ports a) := by
  refine (meets_requireTable ports _).bind fun table _ => meets_getVariables.bind fun vars hv => ?_
  refine (meets_modifyVariables fun _ _ => ?_).bind fun _ _ =>
    meets_pure (Outcome.isOf_succeeded a _)
  exact visitRecords_keeps (h.target (by decide) (by decide) (by decide))
    (h.target (by decide) (by decide) (by decide)) _ 1 hv

theorem meets_dbSave (h : a.Admits I) : Meets I (Outcome.IsOf a) (dbSave enumeration ports a) := by
  refine (meets_requirePort _ _).bind fun _ _ => meets_getVariables.bind fun vars _ => ?_
  refine (meets_requireTable ports _).bind fun _ _ =>
    (meets_device (.updateRecord _ _ _ _ _)).bind fun updated _ => ?_
  cases updated with
  | false => exact meets_pure (Outcome.isOf_unmet a _)
  | true =>
    exact (meets_setOther h _ (by decide) (by decide)).bind fun _ _ =>
      meets_pure (Outcome.isOf_succeeded a _)

theorem meets_checkValue (h : a.Admits I) : Meets I (Outcome.IsOf a) (checkValue ports a) := by
  refine (meets_requireTable ports _).bind fun table _ =>
    (meets_getVariable? _).bind fun current _ => ?_
  dsimp only
  split
  · exact (meets_setTarget h (by decide) (by decide) (by decide) _).bind fun _ _ =>
      meets_pure (Outcome.isOf_succeeded a _)
  · exact (meets_setTarget h (by decide) (by decide) (by decide) _).bind fun _ _ =>
      meets_pure (Outcome.isOf_unmet a _)

/-- **Every action but a condition keeps what setting its variables keeps.** -/
theorem meets_program (hkind : a.kind ≠ .conditional) (h : a.Admits I) :
    Meets I (Outcome.IsOf a) (program enumeration ports settings a) := by
  unfold program
  cases hcase : a.kind with
  | conditional => exact absurd hcase hkind
  | mouseClick => exact meets_click ports a
  | mouseMove => exact meets_move ports a
  | keyPress => exact meets_press ports a
  | waitTime => exact meets_pause settings a
  | waitPixelColor => exact meets_awaitColor ports settings a
  | waitPixelChange => exact meets_awaitChange ports settings a
  | waitImage => exact meets_awaitImage ports settings h
  | waitText => exact meets_awaitText a
  | loop => exact meets_loop h
  | screenshot => exact meets_capture ports h
  | log =>
    exact meets_journal a (h.other (by decide) (by decide)) (h.other (by decide) (by decide))
  | dbSearch => exact meets_dbSearch ports h
  | dbGetValue => exact meets_dbGetValue h
  | dbIterate => exact meets_dbIterate ports h
  | dbSave => exact meets_dbSave enumeration ports h
  | checkValue => exact meets_checkValue ports h
  | runRow => exact meets_pure (Outcome.isOf_succeeded a _)

/-- It asks for nothing if its metadata does not name what asks. -/
theorem meets_program_of_spares {before : Variables} (hkind : a.kind ≠ .conditional)
    (h : a.SparesRequests) :
    Meets (SameRequests before) (Outcome.IsOf a) (program enumeration ports settings a) :=
  meets_program enumeration ports settings hkind (h.admits before)

/-- No sum overflows in an action that is not a condition. -/
theorem asks_program (hkind : a.kind ≠ .conditional) (vars : Variables) :
    ((program enumeration ports settings a).run vars).Asks Effect.Fits :=
  (meets_program enumeration ports settings hkind a.admits_true vars trivial).1

/-! ## Conditions -/

/-- A condition is found out without a change of the variables. -/
theorem meets_conditionHolds (a : Action) :
    Meets I (fun _ => True) (conditionHolds ports a) := by
  unfold conditionHolds
  split
  · exact (meets_getVariable? _).bind fun _ _ => meets_pure trivial
  · unfold imageExists
    split
    · exact (meets_device _).bind fun _ _ => meets_pure trivial
    · exact meets_pure trivial
  · unfold pixelHasColor
    split
    · exact (meets_device _).bind fun _ _ => meets_pure trivial
    · exact meets_pure trivial
  · exact meets_pure trivial

theorem program_of_conditional (hkind : a.kind = .conditional) :
    program enumeration ports settings a = conditional ports a := by
  unfold program
  rw [hkind]
  rfl

/-- The outcome of a condition. -/
def conditionOutcome (a : Action) (holds : Bool) : Outcome :=
  .succeeded a ("condition=" ++ (Value.bool holds).text ++ "; decision=" ++
    (decisionFor a holds).name)

/-- Following a decision makes its request, if need be behind an overflow. -/
theorem follow_run (d : Decision) (vars : Variables) :
    (follow d).run vars =
      if d.overflows vars then .ask .overflow fun _ => .done (.ok (), d.apply vars)
      else .done (.ok (), d.apply vars) := by
  show Dialogue.bind ((Handling.overflowIf d.overflows).run vars) _ = _
  rw [Handling.run, Handling.overflowIf]
  split <;> rfl

/-- A decision that is followed has made its request. -/
theorem follow_ensures (d : Decision) (vars : Variables) :
    ((follow d).run vars).Ensures fun followed => followed = (.ok (), d.apply vars) := by
  rw [follow_run]
  split
  · exact fun _ => rfl
  · exact rfl

/-- A condition is found out, and then its decision is followed. -/
theorem conditional_run (a : Action) (vars : Variables) :
    (conditional ports a).run vars =
      ((conditionHolds ports a).run vars).bind fun
        | (.ok holds, vars) => ((follow (decisionFor a holds)).run vars).bind fun followed =>
            .done (.ok (conditionOutcome a holds), followed.2)
        | (.error e, vars) => .done (.error e, vars) := by
  show Dialogue.bind _ _ = Dialogue.bind _ _
  congr 1
  funext ending
  obtain ⟨e | holds, vars⟩ := ending
  · rfl
  · show Dialogue.bind ((follow (decisionFor a holds)).run vars) _ =
      Dialogue.bind ((follow (decisionFor a holds)).run vars) _
    rw [follow_run]
    split <;> rfl

end Handler

end ActionBoard
