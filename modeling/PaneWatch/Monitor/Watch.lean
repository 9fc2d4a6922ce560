/-
The record of one session under watch.

Every accepted change of activity is put into the history, of which only the
most recent part is kept.
-/
import PaneWatch.Activity
import PaneWatch.Json
import PaneWatch.Signal.Output
import PaneWatch.Time.Stamp

namespace PaneWatch

open Time (Stamp)

/-- A change from one activity to another. -/
structure Transition where
  source : Activity
  target : Activity
  time : Stamp
  /-- What led to the look at the session. -/
  trigger : String
  deriving DecidableEq, Repr

/-- The plain tree of a change. -/
def Transition.toJson (t : Transition) : Json :=
  .object [("from", .text t.source.name), ("to", .text t.target.name),
    ("timestamp", .text t.time.toText), ("trigger", .text t.trigger)]

/-- A session under watch. -/
structure Watch where
  id : String
  /-- The process in the pane when the watch began. -/
  pid : Int
  current : Activity := .unknown
  /-- When the activity changed last, or when the watch began. -/
  lastChange : Stamp
  /-- The most recent changes, the oldest first. -/
  history : List Transition := []

namespace Watch

/-- The number of changes that are kept. -/
def maxHistory : Nat := 100

/-- Takes a change into the record. -/
def record (w : Watch) (t : Transition) : Watch :=
  { w with
    current := t.target
    lastChange := t.time
    history := Signal.lastOf maxHistory (w.history ++ [t]) }

end Watch

end PaneWatch
