/-
The world of a rehearsal, and what is noted of it.

Registries and monitors that are replaced stay in the world, since a worker or
a service may still have them. What a step does besides answering is noted
until the step is over.
-/
import PaneWatch.Command.Process
import PaneWatch.Command.Tmux
import PaneWatch.Machine
import PaneWatch.Monitor
import PaneWatch.Registry
import PaneWatch.Rehearsal.Step
import PaneWatch.Settings.Keeper

namespace PaneWatch.Rehearsal

open Number (Amount)
open Time (Stamp)

/-- What plays the panes of one session. -/
structure Pane where
  output : Option String := none
  pid : Option Int := none
  present : Bool := false
  failures : List (Question × Failure) := []
  plans : List (Question × List Step) := []

/-- Something that is called on every change. -/
structure Hook where
  name : String
  /-- How it fails in the end. -/
  failure : Option Failure
  /-- What happens in it before. -/
  steps : List Step

/-- Where panes are asked about. -/
inductive Backend where
  | played
  | tmux (t : Tmux)

/-- A registry, and where it asks about panes. -/
structure Shelf where
  registry : Registry
  backend : Option Backend

/-- A monitor, and what it was made with. -/
structure Post where
  monitor : Monitor Hook := {}
  backend : Backend := .played
  /-- The number of the registry it stores to. -/
  shelf : Option Nat := none
  interval : Amount
  timeout : Amount

/-- A worker: the monitor it works for, and the watch it was made for. -/
structure Worker where
  post : Nat
  id : String
  number : Nat

/-- A service: the registry and the monitor that it has. -/
structure Running where
  /-- The settings, unless they have been dropped. -/
  settings : Option Settings
  shelf : Nat
  post : Nat

/-- What a step did besides answering. -/
structure Trace where
  calls : List Command := []
  hooks : List (String × String × Activity × Activity) := []
  /-- The answers to the steps that ran meanwhile. -/
  inner : List (Except Failure Json) := []

/-- All there is. -/
structure World where
  machine : Machine
  keeper : Option Settings.Keeper := none
  shelves : List Shelf := []
  posts : List Post := []
  /-- The number of the registry that steps are about. -/
  shelf : Option Nat := none
  /-- The number of the monitor that steps are about. -/
  post : Option Nat := none
  workers : List Worker := []
  tmux : Option Tmux := none
  responses : List Command.Response := []
  /-- The process table, once it has been played. -/
  processes : Option (List (String × Command.Response)) := none
  panes : List (String × Pane) := []
  running : Option Running := none
  trace : Trace := {}

/-- Something that happens in the world. -/
abbrev Play (α : Type) := StateM World α

namespace World

/-- The panes of a session. -/
def pane (w : World) (id : String) : Pane := (w.panes.lookup id).getD {}

/-- Changes the panes of a session. -/
def editPane (id : String) (f : Pane → Pane) : Play Unit :=
  modify fun w => { w with panes := Json.insert id (f (w.pane id)) w.panes }

/-- Does something on the machine. -/
def onMachine {α : Type} (act : StateM Machine α) : Play α :=
  modifyGet fun w => let (a, machine) := act w.machine; (a, { w with machine })

/-- Logs a message. -/
def note (level : LogLevel) (message : String) : Play Unit := onMachine (Machine.note level message)

/-- Changes the trace. -/
def trail (f : Trace → Trace) : Play Unit := modify fun w => { w with trace := f w.trace }

-- ===================================================== commands

/-- Whether a command asks the process table, and about which process. -/
def asksTable? (c : Command) : Option String :=
  match c.argv with
  | "ps" :: "-p" :: pid :: _ => some pid
  | _ => none

/-- The response to a process that is not in the table. -/
def noSuchProcess : Command.Response := .done 1 (some "") (some "")

/-- Takes the next response from the queue. An empty queue has no programs to run. -/
def nextResponse (w : World) : Command.Response × World :=
  match w.responses with
  | [] => (.missing, w)
  | r :: rest => (r, { w with responses := rest })

/-- The response to a command: from the process table if it has been played, otherwise
from the queue. -/
def respond (c : Command) (w : World) : Command.Response × World :=
  match w.processes, asksTable? c with
  | some table, some pid => ((table.lookup pid).getD noSuchProcess, w)
  | _, _ => w.nextResponse

/-- Runs a command. -/
def run (c : Command) : Play Command.Response := do
  trail fun t => { t with calls := t.calls ++ [c] }
  modifyGet (respond c)

end World

end PaneWatch.Rehearsal
