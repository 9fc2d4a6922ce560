/-
Changes to the registry, each of which is written to the file at once.

If writing fails after the registry has changed, it keeps the change and is
ahead of its file until the next time it is written. What is refused changes
nothing.
-/
import PaneWatch.Registry.File
import PaneWatch.Registry.Update

namespace PaneWatch.Registry

open Session (Record)
open Time (Stamp)

/-- The names of a session in one line. -/
def namesOf (s : Record) : String := s.project ++ "/" ++ s.worktree ++ "/" ++ s.branch

/-- Adds a session or replaces the one with its ID. -/
def add (s : Record) : Action Unit := do
  if s.id.isEmpty then throw .emptyId
  if !s.isWritable then throw (.unwritableSession s.id)
  if let some old := (← Action.registry).find? s.id then
    if old.triple != s.triple then
      Action.note .warning ("Session ID " ++ s.id ++ " collides: replacing " ++ namesOf old
        ++ " with " ++ namesOf s)
  Action.edit (·.insert s.id s)
  save

/-- The session under a key. -/
def get (key : String) : Action Record := do
  match (← Action.registry).find? key with
  | some s => return s
  | none => throw (.unknownSession key)

/-- Removes the session under a key. -/
def remove (key : String) : Action Unit := do
  let _ ← get key
  Action.edit (·.erase key)
  save

/-- Makes changes to the session under a key. -/
def change (key : String) (changes : List Change) : Action Unit := do
  let s := changes.foldl Change.apply (← get key)
  if !s.isWritable then throw (.unwritableSession s.id)
  Action.edit (·.insert key s)
  save

/-- Updates the session under a key. -/
def update [Time.Zone] (key : String) (updates : List (String × Value)) : Action Unit := do
  match Change.readAll updates with
  | .error f => throw f
  | .ok changes => change key changes

/-- Removes those of the sessions found gone that are still stale. The file is written
only if there are any. -/
def sweep (limit : Stamp) (gone : List String) : Action Nat := do
  let (r, removed) := (← Action.registry).removeStale limit gone
  if removed = 0 then return 0
  Action.edit fun _ => r
  save
  Action.note .info ("Cleaned up " ++ toString removed ++ " stale sessions")
  return removed

end PaneWatch.Registry
