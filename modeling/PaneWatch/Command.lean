/-
External commands: what is run, and what can come of it.
-/
import PaneWatch.Number.Amount

namespace PaneWatch

open Number (Amount)

/-- A command with its arguments, and the seconds that it may take. -/
structure Command where
  argv : List String
  timeout : Amount
  deriving DecidableEq, Repr

/-- What came of a command. -/
inductive Command.Response where
  /-- It ended, with a status and what it wrote, if that was kept. -/
  | done (status : Int) (output errors : Option String)
  | timedOut
  /-- There is no such program. -/
  | missing
  deriving DecidableEq, Repr

/-- What a command wrote, as text. There is none if nothing was kept. -/
def Command.written (kept : Option String) : String := kept.getD ""

end PaneWatch
