/-
The registry of known sessions.

Sessions stand under keys, in the order in which they came; one that is
replaced keeps its place. A session that is added stands under its own ID,
one that is read from a file under the key that it has there.
-/
import PaneWatch.Disk
import PaneWatch.Keyed
import PaneWatch.Session.Record

namespace PaneWatch

open Session (Record)
open Time (Stamp)

/-- The sessions known, and the file that they are kept in. -/
structure Registry where
  path : Path
  sessions : Keyed Record := {}

namespace Registry

/-- The session under a key. -/
def find? (r : Registry) (key : String) : Option Record := r.sessions.find? key

/-- Puts a session under a key. -/
def insert (r : Registry) (key : String) (s : Record) : Registry :=
  { r with sessions := r.sessions.insert key s }

/-- Removes the session under a key. -/
def erase (r : Registry) (key : String) : Registry :=
  { r with sessions := r.sessions.erase key }

/-- All sessions in order. -/
def list (r : Registry) : List Record := r.sessions.values

/-- The sessions of a project. -/
def ofProject (r : Registry) (project : String) : List Record :=
  r.list.filter (·.project == project)

/-- The sessions of a worktree. -/
def ofWorktree (r : Registry) (worktree : String) : List Record :=
  r.list.filter (·.worktree == worktree)

/-- The number of sessions. -/
def size (r : Registry) : Nat := r.sessions.size

-- ===================================================== stale sessions

/-- The time before which a session is stale: some microseconds ago, or the start of
the calendar if it does not reach back so far. -/
def cutoff (now : Stamp) (age : Int) : Stamp := (now.add? (-age)).getD Stamp.first

/-- Whether a session was last accessed before a time. -/
def isStale (limit : Stamp) (s : Record) : Bool := s.lastAccess.before limit

/-- The keys of the stale sessions. -/
def candidates (r : Registry) (limit : Stamp) : List String :=
  (r.sessions.filter fun e => isStale limit e.2).keys

/-- Removes those of some sessions that are still stale, and counts them. -/
def removeStale (r : Registry) (limit : Stamp) (gone : List String) : Registry × Nat :=
  let isGone (e : String × Record) : Bool := gone.contains e.1 && isStale limit e.2
  ({ r with sessions := r.sessions.filter fun e => !isGone e }, r.sessions.entries.countP isGone)

end Registry

end PaneWatch
