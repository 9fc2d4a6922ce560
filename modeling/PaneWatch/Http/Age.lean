/-
The age of stale sessions, as a request gives it.

It is a number of hours, or a text that spells one. What is no number, no
finite one, negative or too long to be a length of time is refused with a
reason. An integer that is too large to be a real number is none of these but
an accident.
-/
import PaneWatch.Accident
import PaneWatch.Json
import PaneWatch.Number.Reading
import PaneWatch.Time.Span

namespace PaneWatch.Http

open Number (Double)
open Time (Span)

/-- What a request comes to that gives an age. -/
inductive Age where
  | span (s : Span)
  | refused (reason : String)
  | accident (what : Accident)

namespace Age

/-- The age that a number of hours is. -/
def ofDouble (hours : Double) : Age :=
  if !hours.isFinite || hours.lt (Double.zero false) then
    .refused "max_age_hours must be a finite, non-negative number"
  else
    match Span.ofHours? hours with
    | some s => .span s
    | none => .refused "max_age_hours is too large"

/-- The answer to what is no number. -/
def noNumber : Age := .refused "max_age_hours must be a number"

/-- The age that plain data gives. -/
def ofJson : Json → Age
  | .int n => (Double.ofInt? n).elim (.accident .outOfRange) ofDouble
  | .real x => ofDouble x
  | .bool b => ofDouble (Double.ofRatio false (if b then 1 else 0) 1)
  | .text s => (Number.readDouble? s).elim noNumber ofDouble
  | .null | .list _ | .object _ => noNumber

/-- The age that the body of a request gives, or the usual one. -/
def ofBody (usual : Int) : Option Json → Age
  | none | some .null => ofJson (.int usual)
  | some (.object members) => ofJson ((members.lookup "max_age_hours").getD (.int usual))
  | some _ => .refused "Request body must be a JSON object"

end Age

end PaneWatch.Http
