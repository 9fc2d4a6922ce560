/-
Numbers as they were given: a whole one stays whole.
-/
import PaneWatch.Json

namespace PaneWatch.Number

/-- A number that was given as an integer or as a real one. -/
inductive Amount where
  | whole (n : Int)
  | real (x : Double)
  deriving DecidableEq, Repr

/-- The plain tree of a number. -/
def Amount.toJson : Amount → Json
  | whole n => .int n
  | real x => .real x

end PaneWatch.Number
