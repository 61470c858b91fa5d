import ActionBoard.Engine.Run
import ActionBoard.Proofs.Dialogue

/-!
# Checked arithmetic

A program whose arithmetic is checked goes as far as its first overflow.  It asks what the program
asks, up to there, so what is known of the questions of a program holds of the checked one as well;
and where no sum outgrows its word the two are the same.

* `RunProgram.checked_bind`: programs one after the other, checked.  An overflow in the first of
  them leaves nothing to do of the second.
* `Dialogue.Asks.checked`, `Dialogue.Agree.checked`: questions and agreement carried over.
* `RunProgram.Overflows`: whether a program comes to an overflow against given answers.
* `RunProgram.run_checked`, `RunProgram.run_checked_of_overflows`: what a checked program ends with.
-/

namespace ActionBoard

variable {σ α β : Type}

theorem RunRequest.eq_of_isOverflow {request : RunRequest} (h : request.isOverflow = true) :
    request = .effect .overflow := by
  cases request with
  | effect e =>
    cases e with
    | overflow => rfl
    | device | log | wait => cases h
  | handlerFor | stopRequested | gate | publish => cases h

namespace RunProgram

/-! ## Checked programs -/

/-- What is left to do behind a checked program. -/
def behind (next : α → RunProgram β) : Completion α → RunProgram (Completion β)
  | .result a => checked (next a)
  | .overflow => .done .overflow

theorem checked_ask (request : RunRequest) (rest : request.Answer → RunProgram α) :
    checked (.ask request rest) =
      if request.isOverflow then .done .overflow
      else .ask request fun answer => checked (rest answer) := rfl

/-- The second of two programs begins where the first comes to its end. -/
theorem checked_bind (program : RunProgram α) (next : α → RunProgram β) :
    checked (program.bind next) = (checked program).bind (behind next) := by
  induction program with
  | done a => rfl
  | ask request rest ih =>
    rw [Dialogue.bind_ask, checked_ask, checked_ask]
    split
    · rfl
    · rw [Dialogue.bind_ask]
      exact congrArg _ (funext ih)

end RunProgram

/-- Both programs have come to their ends, with related results, or both to an overflow. -/
inductive Completion.Both (R : α → β → Prop) : Completion α → Completion β → Prop
  | result {a : α} {b : β} (h : R a b) : Both R (.result a) (.result b)
  | overflow : Both R .overflow .overflow

namespace Dialogue

open RunProgram (checked checked_ask)

/-- A checked program asks nothing that the program does not ask. -/
theorem Asks.checked {P : RunRequest → Prop} {program : RunProgram α} (h : program.Asks P) :
    (checked program).Asks P := by
  induction program with
  | done a => trivial
  | ask request rest ih =>
    rw [checked_ask]
    split
    · trivial
    · exact ⟨h.1, fun answer => ih answer (h.2 answer)⟩

/-- Programs that agree do so as well where arithmetic is checked. -/
theorem Agree.checked {expected : (q : RunRequest) → q.Answer → Prop} {R : α → β → Prop}
    {first : RunProgram α} {second : RunProgram β} (h : Agree expected R first second) :
    Agree expected (Completion.Both R) (checked first) (checked second) := by
  induction h with
  | done hresult => exact .done (.result hresult)
  | @ask q rest rest' _ ih =>
    rw [checked_ask, checked_ask]
    split
    · exact .done .overflow
    · exact .ask ih

end Dialogue

/-- Anything but an overflow. -/
def Effect.Fits : Effect → Prop
  | overflow => False
  | device _ | log .. | wait _ => True

namespace RunProgram

/-! ## Coming to an overflow -/

/-- The program comes to an overflow when it is run against answers. -/
def Overflows (answer : (q : RunRequest) → σ → q.Answer × σ) (program : RunProgram α) (s : σ) :
    Prop :=
  RunRequest.effect .overflow ∈ program.asked answer s

variable {answer : (q : RunRequest) → σ → q.Answer × σ} {program : RunProgram α} {s : σ}

theorem overflows_ask {request : RunRequest} {rest : request.Answer → RunProgram α} :
    Overflows answer (.ask request rest) s ↔ request = .effect .overflow ∨
      Overflows answer (rest (answer request s).1) (answer request s).2 := by
  rw [Overflows, Dialogue.asked_ask, List.mem_cons, eq_comm]
  rfl

theorem overflows_bind {next : α → RunProgram β} :
    Overflows answer (program.bind next) s ↔ Overflows answer program s ∨
      Overflows answer (next (program.run answer s).1) (program.run answer s).2 := by
  rw [Overflows, Dialogue.asked_bind, List.mem_append]
  rfl

theorem not_overflows_bind {next : α → RunProgram β} (h : ¬Overflows answer program s)
    (hnext : ¬Overflows answer (next (program.run answer s).1) (program.run answer s).2) :
    ¬Overflows answer (program.bind next) s := by
  rw [overflows_bind, not_or]
  exact ⟨h, hnext⟩

/-- No sum overflows in a program that does not ask for that, whatever the answers are. -/
theorem not_overflows_of_asks (h : program.Asks fun q => q.isOverflow = false) (s : σ) :
    ¬Overflows answer program s := by
  intro hover
  cases h.asked s _ hover

theorem not_overflows_question {request : RunRequest} (h : request.isOverflow = false) (s : σ) :
    ¬Overflows answer (.question request) s :=
  @not_overflows_of_asks _ _ _ (.question request) ⟨h, fun _ => trivial⟩ s

/-- No sum overflows in an activity that does not ask for that. -/
theorem not_overflows_ofActivity {activity : Activity α} (h : activity.Asks Effect.Fits) (s : σ) :
    ¬Overflows answer (ofActivity activity) s := by
  induction activity generalizing s with
  | done a => exact List.not_mem_nil
  | ask e rest ih =>
    have hne : RunRequest.effect e ≠ .effect .overflow := by
      rintro ⟨⟩
      exact h.1
    rw [ofActivity, Dialogue.translate_ask, overflows_ask, not_or]
    exact ⟨hne, ih _ (h.2 _) _⟩

/-- **Without an overflow a checked program is the program.** -/
theorem run_checked (h : ¬Overflows answer program s) :
    (checked program).run answer s =
      (.result (program.run answer s).1, (program.run answer s).2) := by
  induction program generalizing s with
  | done a => rfl
  | ask request rest ih =>
    rw [overflows_ask, not_or] at h
    have hnot : ¬request.isOverflow = true := fun hover => h.1 (RunRequest.eq_of_isOverflow hover)
    rw [checked_ask, if_neg hnot, Dialogue.run_ask, ih _ h.2, Dialogue.run_ask]

/-- **An overflow ends a checked program**, whatever the answer to it would be. -/
theorem run_checked_of_overflows (h : Overflows answer program s) :
    ((checked program).run answer s).1 = .overflow := by
  induction program generalizing s with
  | done a => exact absurd h List.not_mem_nil
  | ask request rest ih =>
    rw [checked_ask]
    split
    · rfl
    · rename_i hnot
      rw [overflows_ask] at h
      have hlater := h.resolve_left fun hover => hnot (by rw [hover]; rfl)
      exact ih _ hlater

end RunProgram

end ActionBoard
