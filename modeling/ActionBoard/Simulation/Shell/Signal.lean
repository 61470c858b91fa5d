import ActionBoard.Simulation.Shell.State

/-!
# Shell scripts: signals

Signals are sent to the shell itself or to its processes in the background.  A shell does
what it was told to do on a signal as soon as the current command is done; without that,
most signals end it.
-/

namespace ActionBoard.Shell

/-- The signals, and what has no number but is treated like them. -/
def signals : List (String × Nat) :=
  [("EXIT", 0), ("HUP", 1), ("INT", 2), ("QUIT", 3), ("ILL", 4), ("TRAP", 5),
    ("ABRT", 6), ("BUS", 7),
    ("FPE", 8), ("KILL", 9), ("USR1", 10), ("SEGV", 11), ("USR2", 12), ("PIPE", 13), ("ALRM", 14),
    ("TERM", 15), ("STKFLT", 16), ("CHLD", 17), ("CONT", 18), ("STOP", 19),
      ("TSTP", 20), ("TTIN", 21),
    ("TTOU", 22), ("URG", 23), ("XCPU", 24), ("XFSZ", 25), ("VTALRM", 26), ("PROF", 27),
      ("WINCH", 28),
    ("IO", 29), ("PWR", 30), ("SYS", 31)]

/-- The name of a signal that is given by its name or its number. -/
def signalName? (text : String) : Option String :=
  match Text.natOf? text.toList with
  | some n => (signals.find? fun entry => entry.2 == n).map Prod.fst
  | none => if (signals.lookup text).isSome then some text else none

/-- What is said about a process that a signal has ended; nothing about those ended on purpose. -/
def signalMessage (n : Nat) : String :=
  match n with
  | 1 => "Hangup"
  | 3 => "Quit"
  | 4 => "Illegal instruction"
  | 6 => "Aborted"
  | 8 => "Floating point exception"
  | 9 => "Killed"
  | 10 => "User defined signal 1"
  | 11 => "Segmentation fault"
  | 12 => "User defined signal 2"
  | 14 => "Alarm clock"
  | 15 => "Terminated"
  | _ => ""

namespace State

/-- Says that a process was ended by a signal, if its status tells so. -/
def mention (s : State) (status : Nat) : State :=
  let message := if status ≤ 128 then "" else signalMessage (status - 128)
  if message.isEmpty then s else s.report message

/-- The signals that nobody has to care about. -/
def harmless : List String := ["EXIT", "CHLD", "CONT", "URG", "WINCH"]

/-- The shell gets a signal. -/
def receive (s : State) (signal : String) : State :=
  let n := (signals.lookup signal).getD 0
  let killed := { s with status := 128 + n }.finish .killed
  if signal == "KILL" then killed
  else if signal == "STOP" then s.hang
  else
    match s.traps.lookup signal with
    | some action => if action.isEmpty || signal == "EXIT" then s
        else { s with pending := some action }
    | none =>
      if harmless.contains signal then s
      else if signal == "TSTP" || signal == "TTIN" || signal == "TTOU" then s.hang
      else killed

/-- A process in the background gets a signal, so what it would have done later does not happen. -/
def stop (s : State) (number : Nat) (signal : String) : State :=
  let status := 128 + (signals.lookup signal).getD 0
  if harmless.contains signal then s
  else
    { s with
      written := s.written.filter fun w => w.time ≤ s.clock
      held := s.held.filter fun entry => entry.2 ≤ s.clock
      jobs := s.jobs.map fun job =>
        if job.number == number && s.clock < job.finish
          then { job with finish := s.clock, status } else job }

/-- Sends a signal to a process, which is told by its number or as a job. -/
def send (s : State) (signal target : String) : State :=
  let own := Text.natText s.process
  let job? := s.jobs.find? fun job =>
    target == Text.natText job.number || target == "%" ++ Text.natText (job.number - firstJob + 1)
  if target == own then (s.withStatus 0).receive signal
  else
    match job? with
    | some job => (s.withStatus 0).stop job.number signal
    | none =>
      if (Text.int64Of? target.toList).isSome then (s.complain "No such process\n").withStatus 1
      else (s.complain ("Illegal number: " ++ target)).withStatus 2

end State

end ActionBoard.Shell
