/-
Rehearsals from beginning to end.

The steps run in order, and each gets an answer: what came of it, what was
logged, run and called meanwhile, and what the current registry and monitor
hold after it. Steps within steps are answered for by the step around them.

Steps within steps may go on without an end, since a hook may bring about the
change on which it is called. They are followed down to a depth that nothing
but such a circle reaches.
-/
import PaneWatch.Rehearsal.Parts
import PaneWatch.Rehearsal.Serving
import PaneWatch.Rehearsal.Watching

namespace PaneWatch.Rehearsal

open Time (Stamp)

/-- Plays a step. -/
def Step.play (nested : List Step → Play Unit) : Step → Play Outcome
  | scene s => s.play
  | settings s => s.play
  | registry s => s.play nested
  | monitor s => s.play nested
  | tmux s => s.play
  | service s => s.play nested

/-- Plays steps within another one, down to some depth. -/
def playWithin : Nat → List Step → Play Unit
  | 0, _ => return
  | depth + 1, steps => steps.forM fun s => do
    let outcome ← s.play (playWithin depth)
    World.trail fun t => { t with inner := t.inner ++ [outcome] }

/-- The depth to which steps within steps are followed. -/
def maxDepth : Nat := 200

/-- The answer to a step. -/
structure Answer where
  outcome : Outcome
  log : List LogLine
  trace : Trace
  /-- The sessions of the registry with their last activities, if there is a registry. -/
  sessions : Option (List (String × Activity))
  /-- The sessions watched, with their activities and the lengths of their histories, if
  there is a monitor. -/
  watched : Option (List (String × Activity × Nat))

namespace World

/-- The sessions of the registry that steps are about. -/
def sessions (w : World) : Option (List (String × Activity)) :=
  w.shelf.map fun n => (w.shelfAt n).registry.list.map fun s => (s.id, s.lastState)

/-- The sessions watched by the monitor that steps are about. -/
def watched (w : World) : Option (List (String × Activity × Nat)) :=
  w.post.map fun n => (w.postAt n).monitor.watches.map fun (id, _, watch) =>
    (id, watch.current, watch.history.length)

/-- The world with nothing noted of it. -/
def unnoted (w : World) : World :=
  { w with trace := {}, machine := { w.machine with log := [] } }

end World

/-- Plays a step and answers for all that happens in it. -/
def answer (s : Step) : Play Answer := do
  modify World.unnoted
  let outcome ← s.play (playWithin maxDepth)
  let w ← get
  return ⟨outcome, w.machine.log, w.trace, w.sessions, w.watched⟩

/-- The answers to steps, from an empty disk and a time on. -/
def run (start : Stamp) (steps : List Step) : List Answer :=
  ((steps.mapM answer).run { machine := { now := start } }).1

end PaneWatch.Rehearsal
