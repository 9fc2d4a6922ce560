/-
Points in time.

A `Stamp` is a date and a time that a clock shows, without an offset; a `Moment` may
carry its offset from UTC as well. Stamps are compared field by field. They
are moved by counting microseconds from the start of year 1, and a move that
leaves the calendar has no result.

A moment with an offset becomes a stamp of the local zone in two moves, to
UTC and from there to local time. Both have to stay in the calendar, so a
moment can be lost at either edge although its local time exists.
-/
import PaneWatch.Time.Date

namespace PaneWatch.Time

/-- The microseconds of a second. -/
def second : Nat := 1000000

/-- The microseconds of an hour. -/
def hour : Nat := 3600 * second

/-- The microseconds of a day. -/
def day : Nat := 24 * hour

/-- Whether the clock shows such a time of day. -/
def hasTime (hour minute second micro : Nat) : Bool :=
  hour < 24 && minute < 60 && second < 60 && micro < Time.second

theorem hasTime_iff {hour minute second micro : Nat} :
    hasTime hour minute second micro
      ↔ hour < 24 ∧ minute < 60 ∧ second < 60 ∧ micro < Time.second := by
  simp [hasTime, and_assoc]

/-- That the clock shows such a time of day. -/
class IsTime (hour minute second micro : Nat) : Prop where
  has : hasTime hour minute second micro

/-- Midnight. -/
instance : IsTime 0 0 0 0 := ⟨by decide⟩

/-- Noon. -/
instance : IsTime 12 0 0 0 := ⟨by decide⟩

/-- A day of the calendar and a time of day. -/
structure Stamp where
  date : Date
  hour : Nat
  minute : Nat
  second : Nat
  micro : Nat
  [isTime : IsTime hour minute second micro]
  deriving DecidableEq, Repr

namespace Stamp

/-- The stamp, if the clock shows such a time of day. -/
def of? (date : Date) (hour minute second micro : Nat) : Option Stamp :=
  if h : hasTime hour minute second micro then
    have := IsTime.mk h
    some ⟨date, hour, minute, second, micro⟩
  else none

/-- Midnight at the start of a date. -/
def midnight (d : Date) : Stamp := ⟨d, 0, 0, 0, 0⟩

/-- The microseconds since the start of year 1. -/
def micros (s : Stamp) : Nat :=
  (s.date.ordinal - 1) * day
    + (s.hour * 3600 + s.minute * 60 + s.second) * Time.second + s.micro

/-- The fields of a clock some microseconds after midnight. -/
theorem hasTime_fields (n : Nat) :
    hasTime (n % day / Time.second / 3600) (n % day / Time.second / 60 % 60)
      (n % day / Time.second % 60) (n % day % Time.second) := by
  refine hasTime_iff.2 ⟨?_, Nat.mod_lt _ (by decide), Nat.mod_lt _ (by decide),
    Nat.mod_lt _ (by decide)⟩
  have hday : n % day < 86400000000 := Nat.mod_lt n (by decide)
  unfold Time.second
  omega

/-- The stamp that many microseconds after the start of year 1, which the calendar has to
reach. -/
def ofMicros (n : Nat) (h : n < calendarDays * day) : Stamp where
  date := Date.ofOrdinal (n / day + 1) ((Nat.div_lt_iff_lt_mul (by decide)).2 h)
  hour := n % day / Time.second / 3600
  minute := n % day / Time.second / 60 % 60
  second := n % day / Time.second % 60
  micro := n % day % Time.second
  isTime := ⟨hasTime_fields n⟩

/-- The stamp that many microseconds after the start of year 1, if the calendar
reaches there. -/
def ofMicros? (n : Int) : Option Stamp :=
  if h : 0 ≤ n ∧ n < calendarDays * day then some (ofMicros n.toNat (by omega)) else none

/-- The stamp moved by some microseconds, if it stays in the calendar. -/
def add? (s : Stamp) (n : Int) : Option Stamp := ofMicros? (s.micros + n)

/-- The first stamp of the calendar. -/
def first : Stamp := midnight ⟨1, 1, 1⟩

/-- The fields from the year down to the microsecond. -/
def fields (s : Stamp) : List Nat :=
  [s.date.year, s.date.month, s.date.day, s.hour, s.minute, s.second, s.micro]

/-- Whether the first stamp is earlier, by the first field that differs. -/
def before (a b : Stamp) : Bool := decide (a.fields < b.fields)

/-- The time of day: `12:00:00`, with six more digits if there are microseconds. -/
def clockText (s : Stamp) : String :=
  padded 2 s.hour ++ ":" ++ padded 2 s.minute ++ ":" ++ padded 2 s.second
    ++ (if s.micro = 0 then "" else "." ++ padded 6 s.micro)

/-- The text of a stamp: `2024-06-15T12:00:00`. -/
def toText (s : Stamp) : String := s.date.toText ++ "T" ++ s.clockText

/-- Digits only, for file names: `20240615-120000`. Years are not padded. -/
def compactText (s : Stamp) : String :=
  toString s.date.year ++ padded 2 s.date.month ++ padded 2 s.date.day ++ "-"
    ++ padded 2 s.hour ++ padded 2 s.minute ++ padded 2 s.second

end Stamp

/-- A stamp, and its offset from UTC in microseconds if it has one. -/
structure Moment where
  stamp : Stamp
  offset : Option Int := none
  deriving DecidableEq, Repr

/-- A local zone, which is as far from UTC at all times. -/
class Zone where
  /-- How far, in microseconds. -/
  offset : Int

/-- The local zone of the machine: five hours and a half. -/
instance : Zone where
  offset := 5 * hour + 30 * 60 * second

/-- The offset of the local zone, in microseconds. -/
def localOffset [Zone] : Int := Zone.offset

namespace Moment

/-- The stamp in UTC, if the calendar has it. -/
def toUtc? (m : Moment) : Option Stamp :=
  match m.offset with
  | none => some m.stamp
  | some o => m.stamp.add? (-o)

/-- The stamp in a zone of fixed offset. A moment without an offset is taken to be
there already. -/
def toZone? (zone : Int) (m : Moment) : Option Stamp :=
  match m.offset with
  | none => some m.stamp
  | some _ => m.toUtc?.bind (·.add? zone)

/-- The stamp in the local zone. -/
def toLocal? [Zone] (m : Moment) : Option Stamp := m.toZone? localOffset

/-- An offset with its sign, hours and minutes. -/
def offsetMinutes (o : Int) : String :=
  let minutes := o.natAbs / (60 * second)
  (if o < 0 then "-" else "+") ++ padded 2 (minutes / 60) ++ ":" ++ padded 2 (minutes % 60)

/-- An offset down to the microsecond, without what is zero beyond minutes. -/
def offsetText (o : Int) : String :=
  let micro := o.natAbs % second
  let seconds := o.natAbs / second % 60
  offsetMinutes o
    ++ (if seconds = 0 ∧ micro = 0 then "" else ":" ++ padded 2 seconds)
    ++ (if micro = 0 then "" else "." ++ padded 6 micro)

/-- The text of a moment in data: `Z` marks UTC, seconds of an offset are dropped. -/
def toText (m : Moment) : String :=
  m.stamp.toText ++ match m.offset with
    | none => ""
    | some o => if o = 0 then "Z" else offsetMinutes o

/-- The text of a moment with a blank between date and time. -/
def toSpacedText (m : Moment) : String :=
  m.stamp.date.toText ++ " " ++ m.stamp.clockText ++ match m.offset with
    | none => ""
    | some o => offsetText o

end Moment

end PaneWatch.Time
