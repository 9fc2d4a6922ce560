/-
The steps of a rehearsal.

A rehearsal runs the parts of the program in surroundings that are played: a
disk, a clock, panes, and the responses to commands. Some steps carry steps of
their own, which run while the program waits for its surroundings: when a pane
is asked about, when a hook is called, between two rounds of a worker.
-/
import PaneWatch.Http.Message
import PaneWatch.Monitor.Watch
import PaneWatch.Command
import PaneWatch.Disk
import PaneWatch.Failure
import PaneWatch.Value

namespace PaneWatch.Rehearsal

open Number (Amount Double)
open Time (Stamp)

/-- What panes can be asked. -/
inductive Question where
  | output
  | pid
  | existence
  deriving DecidableEq, Repr

/-- What is said about the panes of a session. -/
inductive PaneFact (σ : Type) where
  | output (text : Option String)
  | pid (number : Option Int)
  | present (b : Bool)
  /-- A question fails, or no longer does. -/
  | failing (question : Question) (failure : Option Failure)
  /-- What happens when a question is asked for the next time. -/
  | meanwhile (question : Question) (steps : List σ)

/-- What happens to the surroundings. -/
inductive SceneStep (σ : Type) where
  /-- Sets the clock and then moves it by some microseconds. -/
  | clock (now : Option Stamp) (advance : Int)
  | putFile (path : String) (bytes : List UInt8)
  | makeFolder (path : String)
  | remove (path : String)
  | showFile (path : String)
  | listFiles
  | fault (point : FaultPoint) (reason : Option String)
  | responses (more : List Command.Response)
  /-- What the process table answers from now on. -/
  | processes (table : List (String × Command.Response))
  | panes (id : String) (facts : List (PaneFact σ))

/-- What is done with settings. -/
inductive SettingsStep where
  | create (path : String)
  | load
  | current
  | reload
  | save (given : Option Value)

/-- What is done with a registry. -/
inductive RegistryStep where
  | load (path : String) (overPanes : Bool)
  | create (path : String) (overPanes : Bool)
  | save
  | add (given : Value)
  | remove (id : String)
  | update (id : String) (updates : List (String × Value))
  | session (id : String)
  | list
  | ofProject (project : String)
  | ofWorktree (worktree : String)
  | count
  /-- Removes stale sessions of an age in microseconds. -/
  | cleanUp (age : Int)

/-- A row of a table as it is given: a pattern, an activity and a confidence. -/
structure GivenRow where
  pattern : String
  activity : String
  confidence : Double

/-- What is done with a monitor. -/
inductive MonitorStep (σ : Type) where
  | create (interval timeout : Amount) (table : Option (List GivenRow)) (stored overTmux : Bool)
  | start (id : String)
  | stop (id : String)
  | state (id : String)
  | pid (id : String)
  | history (id : String)
  | lastChange (id : String)
  | isMonitoring (id : String)
  | detect (id : String)
  | list
  | isShutDown
  | hook (name : String) (failure : Option Failure) (steps : List σ)
  /-- Detects so many times, one second apart, while the output goes through some texts. -/
  | alternate (id : String) (times : Nat) (outputs : List (Option String))
  | writeThrough (id : String) (change : Transition)
  | worker (index : Nat) (ticks : List (List σ))
  | shutDown (timeout : Option Amount)

/-- What is done with tmux and the process table. -/
inductive TmuxStep where
  | create (timeout : Amount) (executable : String)
  /-- Whether the program is among those that are there. -/
  | available (there : List String)
  | panes (id : String)
  | capture (id : String)
  | pid (id : String)
  | existence (id : String)
  | processState (number : Int) (timeout : Amount)

/-- What is done with the whole service. -/
inductive ServiceStep where
  | create (path : String) (overTmux : Bool)
  | request (r : Http.Request)
  | cleanUpAtStart
  | dropSettings
  | main

/-- A step. -/
inductive Step where
  | scene (s : SceneStep Step)
  | settings (s : SettingsStep)
  | registry (s : RegistryStep)
  | monitor (s : MonitorStep Step)
  | tmux (s : TmuxStep)
  | service (s : ServiceStep)

end PaneWatch.Rehearsal
