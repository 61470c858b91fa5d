import ActionBoard.Engine.Session
import ActionBoard.Runner.Program
import ActionBoard.Simulation.Machine

/-!
# Scenes

A scene is what a script runner acts on: an engine in use, and a described machine.  The engine's
clock stands still while the machine is asked for something.

An emulation that does not come to an end has no outcomes.  That only happens on an engine that is
paused from the beginning, with nobody left to resume it.
-/

namespace ActionBoard

/-- An engine in use and a described machine. -/
structure Scene (σ : Type) where
  setting : Setting σ
  session : Session σ
  machine : Machine

namespace Scene

variable {σ : Type}

/-- How a scene answers a script runner, and how it is afterwards. -/
def answer : (request : RunnerRequest) → Scene σ → request.Answer × Scene σ
  | .host request, scene =>
    let (answer, machine) := Machine.answer request scene.machine
    (answer, { scene with machine })
  | .emulate board, scene =>
    let (result, session) := scene.session.run scene.setting board ∅
    (result.getD (.ok []), { scene with session })

/-- The execution of a script, and the scene after it. -/
def execute (scene : Scene σ) (runner : Runner) (path : String) (options : RunOptions) :
    Execution × Scene σ :=
  (runner.execute path options).run answer scene

end Scene

end ActionBoard
