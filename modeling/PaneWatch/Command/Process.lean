/-
Questions to the process table.
-/
import PaneWatch.Command
import PaneWatch.Failure
import PaneWatch.Number.Reading
import PaneWatch.Text.Blank

namespace PaneWatch.Process

open Number (Amount)

/-- The command that shows the state of a process. -/
def stateCommand (pid : Int) (timeout : Amount) : Command :=
  ⟨["ps", "-p", toString pid, "-o", "state="], timeout⟩

/-- The state that a response gives. -/
def stateOf (pid : Int) : Command.Response → Except Failure String
  | .timedOut => .error (.command (.probeTimedOut pid))
  | .missing => .error (.command .probeMissing)
  | .done status output _ =>
    let state := Text.trim (Command.written output)
    if status ≠ 0 ∨ state.isEmpty then .error (.command (.noProcess pid)) else .ok state

/-- The state of a process. Its number is written out, in the command or in the refusal of it, and
one that is too long for that is an accident. -/
def readState {m : Type → Type} [Monad m] (run : Command → m Command.Response) (pid : Int)
    (timeout : Amount) : m (Except Failure String) := do
  if !Number.hasText pid then return .error (.accident .noSuchValue)
  if pid ≤ 0 then return .error (.command (.invalidPid pid))
  return stateOf pid (← run (stateCommand pid timeout))

end PaneWatch.Process
