import ActionBoard.CommandLine.Program
import ActionBoard.Device.Recorder
import ActionBoard.Engine.Session
import ActionBoard.Simulation.Machine

/-!
# Dry runs

The command line runs boards on devices that record what they are asked to do and do nothing else.
A pointer, a keyboard and a screen are always there, a store of records only if one was given.

On a described machine the whole program can be computed (`runOnMachine`).
-/

namespace ActionBoard.CommandLine

/-- How recording devices are used under settings. -/
def EngineSetup.setting (setup : EngineSetup) : Setting Recorder :=
  { devices := Recorder.devices, settings := setup.settings }

/-- The stage of a dry run. -/
def EngineSetup.stage (setup : EngineSetup) : Stage Recorder :=
  let ports := { PortSet.everything with records := setup.records.isSome }
  { devices := { tables := setup.records.getD ∅ }
    registry := Registry.standard .byName ports setup.settings }

/-- The dry run of a board, computed. -/
def EngineSetup.run (setup : EngineSetup) (board : Board) : RunResult :=
  let session : Session Recorder := { stage := setup.stage }
  (session.run setup.setting board ∅).1.getD (.ok [])

/-- How a described machine answers the program. -/
def answerOnMachine : (request : Request) → Machine → request.Answer × Machine
  | .host request, m => Machine.answer request m
  | .runBoard setup board, m => (setup.run board, m)

/-- The result of the program on a described machine, and the machine after it. -/
def runOnMachine (stamp : Stamp) (words : List String) (m : Machine) : Result × Machine :=
  (commandLine stamp words).run answerOnMachine m

end ActionBoard.CommandLine
