/-
What the long-lived parts of the program run on: the disk, the clock and the
log.
-/
import PaneWatch.Disk
import PaneWatch.Failure
import PaneWatch.Log
import PaneWatch.Time.Stamp

namespace PaneWatch

open Time (Stamp)

/-- A machine at some time. -/
structure Machine where
  disk : Disk := {}
  /-- The local time. -/
  now : Stamp
  /-- The messages logged so far. -/
  log : List LogLine := []

namespace Machine

/-- Logs a message. -/
def logged (m : Machine) (level : LogLevel) (message : String) : Machine :=
  { m with log := m.log ++ [⟨level, message⟩] }

/-- Logs a message. -/
def note (level : LogLevel) (message : String) : StateM Machine Unit :=
  modify (·.logged level message)

/-- Changes the disk, unless that fails. -/
def change (f : Disk → Except Disk.Trouble Disk) : StateM Machine (Except Disk.Trouble Unit) :=
  modifyGet fun m => match f m.disk with
    | .ok disk => (.ok (), { m with disk })
    | .error t => (.error t, m)

end Machine

end PaneWatch
