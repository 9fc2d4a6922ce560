/-
Removing sessions that nobody has used for long and whose panes are gone.

The panes are asked about one session at a time, and while an answer is
awaited anything may happen to the registry. The sessions to ask about are
therefore chosen once, and those found gone are looked at once more before
they are removed: one that was used meanwhile stays. A question that fails
counts as the answer that the panes are gone, unless its failure cannot be held
up: then nothing is removed at all.
-/
import PaneWatch.Registry.Edit
import PaneWatch.Time.Span

namespace PaneWatch.Registry

open Time (Stamp Span)

/-- What work on a registry sees of the world. -/
structure Reach (m : Type → Type) where
  /-- Does something to the registry, in one step. -/
  act : {α : Type} → Action α → m (Except Failure α)
  now : m Stamp
  /-- Asks whether a session has panes; none if there is nobody to ask. -/
  hasPanes : Option (String → m (Except Failure Bool))

namespace Reach

variable {m : Type → Type} [Monad m]

/-- Whether an answer counts as one that panes are gone. The message of a failure is
made and dropped. -/
def isGone : Except Failure Bool → Except Failure Bool
  | .ok present => .ok !present
  | .error f => f.held.map fun _ => true

/-- Those of some sessions whose panes are gone. -/
def findGone (hasPanes : String → m (Except Failure Bool)) :
    List String → m (Except Failure (List String))
  | [] => return .ok []
  | key :: rest => do
    match isGone (← hasPanes key) with
    | .error f => return .error f
    | .ok gone =>
      let others ← findGone hasPanes rest
      return others.map fun others => if gone then key :: others else others

/-- Removes the stale sessions of some age whose panes are gone, and counts them. -/
def cleanUp (r : Reach m) (age : Span) : m (Except Failure Nat) := do
  match r.hasPanes with
  | none => return .error .noBackend
  | some hasPanes =>
    let limit := cutoff (← r.now) age.micros
    match ← r.act do return (← Action.registry).candidates limit with
    | .error f => return .error f
    | .ok keys =>
      match ← findGone hasPanes keys with
      | .error f => return .error f
      | .ok gone => r.act (sweep limit gone)

end Reach

end PaneWatch.Registry
