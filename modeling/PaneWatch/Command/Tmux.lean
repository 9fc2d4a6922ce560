/-
Questions to tmux.

A command that ends with another status than zero is a failure, never an
answer; only the question whether a session exists is answered by a status of
one as well. A command that never ended counts as one with a status of its
own.
-/
import PaneWatch.Command
import PaneWatch.Failure
import PaneWatch.Number.Reading
import PaneWatch.Text.Blank

namespace PaneWatch

open Number (Amount)

/-- How tmux is run. -/
structure Tmux where
  timeout : Amount := .real (Number.Double.ofRatio false 2 1)
  executable : String := "tmux"

namespace Tmux

/-- The status of a command that took too long. -/
def timedOutStatus : Int := 124

/-- The status of a command whose program is missing. -/
def missingStatus : Int := 127

/-- Status, output and errors of a response. -/
def parts : Command.Response → Int × String × String
  | .done status output errors => (status, Command.written output, Command.written errors)
  | .timedOut => (timedOutStatus, "", "Command timed out")
  | .missing => (missingStatus, "", "tmux not found")

/-- The output of a response to a command that was to do something. -/
def outputOf (action : String) (response : Command.Response) : Except Failure String :=
  let (status, output, errors) := parts response
  if status = 0 then .ok output
  else
    let told := Text.trim errors
    .error (.command (.failed action
      (if told.isEmpty then "exit status " ++ toString status else told)))

/-- The lines of a listing that are not empty. -/
def lines (output : String) : List String :=
  ((Text.trim output).splitOn "\n").filter (!·.isEmpty)

/-- The number of a process that an output gives. -/
def pidOf (output : String) : Except Failure Int :=
  let text := Text.trim output
  (Number.readInt? text).elim (.error (.command (.noPid text))) .ok

/-- Whether a session exists, by the response to the question. -/
def existence (response : Command.Response) : Except Failure Bool :=
  let (status, _, errors) := parts response
  if status = 0 then .ok true
  else if status = 1 then .ok false
  else .error (.command (.existenceUnknown (Text.trim errors)))

variable {m : Type → Type} [Monad m]

/-- Runs a command that is to do something and gives its output. -/
def ask (t : Tmux) (run : Command → m Command.Response) (action : String)
    (arguments : List String) : ExceptT Failure m String := do
  ExceptT.mk (outputOf action <$> run ⟨t.executable :: arguments, t.timeout⟩)

/-- The panes of a session. -/
def panes (t : Tmux) (run : Command → m Command.Response) (id : String) :
    ExceptT Failure m (List String) :=
  lines <$> t.ask run "list panes" ["list-panes", "-t", id, "-F", "#\x7bpane_id\x7d"]

/-- The first pane of a session. -/
def firstPane (t : Tmux) (run : Command → m Command.Response) (id : String) :
    ExceptT Failure m String := do
  match ← t.panes run id with
  | [] => throw (.noPanes id)
  | pane :: _ => return pane

/-- The visible content of the first pane of a session. -/
def capture (t : Tmux) (run : Command → m Command.Response) (id : String) :
    ExceptT Failure m String := do
  let pane ← t.firstPane run id
  t.ask run "capture pane" ["capture-pane", "-t", id ++ ":" ++ pane, "-p"]

/-- The process in the first pane of a session. -/
def resolvePid (t : Tmux) (run : Command → m Command.Response) (id : String) :
    ExceptT Failure m Int := do
  let pane ← t.firstPane run id
  let output ← t.ask run "get pane PID"
    ["display-message", "-t", id ++ ":" ++ pane, "-p", "#\x7bpane_pid\x7d"]
  ExceptT.mk (pure (pidOf output))

/-- Whether a session exists. -/
def hasSession (t : Tmux) (run : Command → m Command.Response) (id : String) :
    ExceptT Failure m Bool :=
  ExceptT.mk (existence <$> run ⟨[t.executable, "has-session", "-t", id], t.timeout⟩)

end Tmux

end PaneWatch
