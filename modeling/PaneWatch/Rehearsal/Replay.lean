/-
A watch through changes whose distances in time are given.
-/
import PaneWatch.Failure
import PaneWatch.Monitor.Watch

namespace PaneWatch.Rehearsal

open Time (Stamp)

/-- A change as it is given: two activities, the microseconds since the change before it,
and what led to it. -/
structure GivenChange where
  source : String
  target : String
  after : Int
  trigger : String

/-- The change that is given, after another time. -/
def GivenChange.read (c : GivenChange) (before : Stamp) : Except Accident Transition := do
  let some time := before.add? c.after | throw .outOfRange
  let some source := Activity.ofName? c.source | throw .noSuchValue
  let some target := Activity.ofName? c.target | throw .noSuchValue
  return ⟨source, target, time, c.trigger⟩

/-- A watch after one more change. -/
def replayOne (w : Watch) (c : GivenChange) : Except Accident Watch :=
  w.record <$> c.read w.lastChange

/-- A watch after all changes, so many times over. -/
def replay (w : Watch) (changes : List GivenChange) (times : Nat) : Except Failure Watch :=
  ((List.replicate times changes).flatten.foldlM replayOne w).mapError .accident

/-- The first and the last so many of some changes. -/
def endsOf (n : Nat) (history : List Transition) : List Transition × List Transition :=
  (history.take n, Signal.lastOf n history)

end PaneWatch.Rehearsal
