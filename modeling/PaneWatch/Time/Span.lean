/-
Lengths of time.

A length is a whole number of microseconds and at most so many days on either
side of zero. One that is given in hours is rounded to the nearest
microsecond, a half to the even one.
-/
import PaneWatch.Number.Double
import PaneWatch.Time.Stamp

namespace PaneWatch.Time

open Number (Double)

/-- A length of time, which may be negative. -/
structure Span where
  micros : Int
  deriving DecidableEq, Repr

namespace Span

/-- The greatest number of days, counted down to whole ones, on either side of zero. -/
def maxDays : Int := 999999999

/-- The length of so many microseconds, unless it is out of range. -/
def ofMicros? (n : Int) : Option Span :=
  let days := n.fdiv day
  if -maxDays ≤ days ∧ days ≤ maxDays then some ⟨n⟩ else none

/-- The nearest integer to a number between zero and an hour of microseconds added to a
whole number of hours of them. -/
def nearest (whole : Int) (rest : Double) : Int :=
  let (num, den) := rest.ratio
  let signed : Int := if rest.isNegative then -num else num
  let total := whole * den + signed
  if total < 0 then -(Number.roundDiv total.natAbs den : Nat)
  else Number.roundDiv total.natAbs den

/-- The length of a finite number of hours, unless it is out of range. -/
def ofHours? (hours : Double) : Option Span :=
  let rest := (Double.ofRatio false hour 1).mul hours.fraction
  ofMicros? (nearest (hours.truncate * hour) rest)

/-- The length of a whole number of hours. -/
def ofWholeHours (hours : Int) : Span := ⟨hours * hour⟩

end Span

end PaneWatch.Time
