/-
What the foreground process of a session is doing.

Any activity may follow any other. `unknown` is both where a session starts
and the answer when no signal says anything.
-/

namespace PaneWatch

/-- The activity of a session's foreground process. -/
inductive Activity where
  /-- Nothing is known yet, or no signal could tell. -/
  | unknown
  /-- The prompt is ready and nothing runs. -/
  | idle
  /-- Work is going on. -/
  | busy
  /-- The process waits for input or for the disk. -/
  | waiting
  /-- The output shows an error, or the process is dead. -/
  | error
  deriving DecidableEq, Repr

namespace Activity

/-- The word that stands for an activity in files and answers. -/
def name : Activity → String
  | unknown => "unknown"
  | idle => "idle"
  | busy => "busy"
  | waiting => "waiting"
  | error => "error"

/-- All activities. -/
def all : List Activity := [unknown, idle, busy, waiting, error]

/-- The activity that a word stands for. -/
def ofName? (word : String) : Option Activity := all.find? (·.name == word)

/-- An activity is read back from its name. -/
theorem ofName?_name (a : Activity) : ofName? a.name = some a := by
  cases a <;> decide

end Activity

end PaneWatch
