/-
The monitor: which sessions are watched, and by which workers.

Each function here is one step that nothing else can interrupt. A watch gets
a number when it begins, so that a session that is stopped and started again
is a watch of its own, and a worker goes on only as long as the watch that it
was made for is the one under its session's ID.
-/
import PaneWatch.Failure
import PaneWatch.Monitor.Watch
import PaneWatch.Signal

namespace PaneWatch

open Time (Stamp)

/-- A monitor. What is called on a change is of any type `η`. -/
structure Monitor (η : Type) where
  table : List Signal.Row := Signal.defaultTable
  /-- The watches under the IDs of their sessions, with their numbers, in the order in
  which they began. -/
  watches : List (String × Nat × Watch) := []
  /-- The IDs that have a worker, each with the number of the watch it was made for. -/
  workers : List (String × Nat) := []
  /-- What is called on every change, in order. -/
  hooks : List η := []
  isShutDown : Bool := false
  /-- The number of the next watch. -/
  nextNumber : Nat := 0

namespace Monitor

variable {η : Type}

/-- Whether a session is watched. -/
def isMonitoring (m : Monitor η) (id : String) : Bool := (m.watches.lookup id).isSome

/-- The watch of a session. -/
def find (m : Monitor η) (id : String) : Except Failure Watch :=
  (m.watches.lookup id).elim (.error (.unmonitored id)) fun (_, w) => .ok w

/-- The IDs of all sessions watched. -/
def list (m : Monitor η) : List String := m.watches.map (·.1)

/-- Whether the watch of a number is the one under an ID. -/
def isCurrent (m : Monitor η) (id : String) (number : Nat) : Bool :=
  (m.watches.lookup id).any (·.1 == number)

/-- Refuses a session that is watched already. -/
def refuseWatched (m : Monitor η) (id : String) : Except Failure Unit :=
  if m.isMonitoring id then .error (.alreadyMonitored id) else .ok ()

/-- Begins a watch and gives its number. -/
def register (now : Stamp) (id : String) (pid : Int) (m : Monitor η) :
    Except Failure Nat × Monitor η :=
  match m.refuseWatched id with
  | .error f => (.error f, m)
  | .ok () =>
    let number := m.nextNumber
    let watch : Watch := { id, pid, lastChange := now }
    (.ok number, { m with
      watches := m.watches ++ [(id, number, watch)]
      workers := m.workers.filter (·.1 != id) ++ [(id, number)]
      nextNumber := number + 1 })

/-- Ends the watch of a session. -/
def deregister (id : String) (m : Monitor η) : Except Failure Unit × Monitor η :=
  match m.find id with
  | .error f => (.error f, m)
  | .ok _ =>
    (.ok (), { m with
      watches := m.watches.filter (·.1 != id)
      workers := m.workers.filter (·.1 != id) })

/-- Replaces the watch of a session, which keeps its place and its number. -/
def setWatch (m : Monitor η) (id : String) (w : Watch) : Monitor η :=
  { m with watches := m.watches.map fun e => if e.1 == id then (e.1, e.2.1, w) else e }

/-- Commits an activity of a session. There is no change if it is the current one. -/
def commit (now : Stamp) (id : String) (a : Activity) (trigger : String) (m : Monitor η) :
    Except Failure (Option Transition) × Monitor η :=
  match m.find id with
  | .error f => (.error f, m)
  | .ok w =>
    if w.current == a then (.ok none, m)
    else
      let t : Transition := ⟨w.current, a, now, trigger⟩
      (.ok (some t), m.setWatch id (w.record t))

/-- What is to be stored for a session after a change: the activity that is current by
now, or what the change says if the session is watched no longer. -/
def latest (m : Monitor η) (id : String) (t : Transition) : Activity × Stamp :=
  match m.find id with
  | .ok w => (w.current, w.lastChange)
  | .error _ => (t.target, t.time)

/-- Adds something to be called on every change. -/
def addHook (m : Monitor η) (hook : η) : Monitor η := { m with hooks := m.hooks ++ [hook] }

/-- Stops all workers, and gives the IDs that had one. -/
def shutDown (m : Monitor η) : List String × Monitor η :=
  (m.workers.map (·.1), { m with workers := [], isShutDown := true })

end Monitor

end PaneWatch
