/-
Calendar days: the Gregorian calendar, carried back to year 1 and ending
with year 9999.

A `Date` is a day that the calendar has, so no date has to be checked again;
`IsDay` is what makes it one, and is found for the days that are written out
in code. A date has a day number: the first of January of year 1 is day 1.
Dates are read off day numbers through the cycles of 400, 100, 4 and 1 years,
and `hasDay_dayFields` says that every day number of the calendar gives a day.
-/

namespace PaneWatch.Time

/-- Whether the year has a 29th of February. -/
def isLeap (year : Nat) : Bool := year % 4 == 0 && (year % 100 != 0 || year % 400 == 0)

/-- The lengths of the months of a year. -/
def monthLengths (year : Nat) : List Nat :=
  [31, if isLeap year then 29 else 28, 31, 30, 31, 30, 31, 31, 30, 31, 30, 31]

/-- The number of days of a month; zero if there is no such month. -/
def monthLength (year month : Nat) : Nat :=
  if month = 0 then 0 else (monthLengths year).getD (month - 1) 0

/-- Numbers of days together. -/
def total (lengths : List Nat) : Nat := lengths.foldr (· + ·) 0

theorem total_nil : total [] = 0 := rfl

theorem total_cons (length : Nat) (more : List Nat) :
    total (length :: more) = length + total more := rfl

/-- The last year of the calendar. -/
def maxYear : Nat := 9999

/-- The number of days before the first day of a year. -/
def daysBeforeYear (year : Nat) : Nat :=
  let y := year - 1
  y * 365 + y / 4 - y / 100 + y / 400

/-- The number of days of the calendar. -/
def calendarDays : Nat := daysBeforeYear (maxYear + 1)

/-- Whether the calendar has a day of these numbers. -/
def hasDay (year month day : Nat) : Bool :=
  1 ≤ year && year ≤ maxYear && 1 ≤ day && day ≤ monthLength year month

/-- A day exists if its year and its number in the month do. -/
theorem hasDay_iff {year month day : Nat} :
    hasDay year month day
      ↔ 1 ≤ year ∧ year ≤ maxYear ∧ 1 ≤ day ∧ day ≤ monthLength year month := by
  simp [hasDay, and_assoc]

-- ===================================================== days by number

/-- Walks the months from a day of the year, counted from zero, to a month and a day of
it. -/
def walkMonths : List Nat → Nat → Nat → Nat × Nat
  | [], month, rest => (month, rest + 1)
  | length :: more, month, rest =>
    if rest < length then (month, rest + 1) else walkMonths more (month + 1) (rest - length)

/-- Year, month and day of the day with a number. -/
def dayFields (n : Nat) : Nat × Nat × Nat :=
  let r := n - 1
  let (n400, r) := (r / 146097, r % 146097)
  let (n100, r) := (r / 36524, r % 36524)
  let (n4, r) := (r / 1461, r % 1461)
  let (n1, r) := (r / 365, r % 365)
  let year := n400 * 400 + n100 * 100 + n4 * 4 + n1 + 1
  if n1 = 4 ∨ n100 = 4 then (year - 1, 12, 31)
  else (year, walkMonths (monthLengths year) 1 r)

/-- A walk over months that are long enough ends in one of them. -/
theorem walkMonths_spec (lengths : List Nat) (month rest : Nat) (h : rest < total lengths) :
    ∃ i day, walkMonths lengths month rest = (month + i, day)
      ∧ 1 ≤ day ∧ day ≤ lengths.getD i 0 := by
  induction lengths generalizing month rest with
  | nil => exact absurd h (Nat.not_lt_zero rest)
  | cons length more ih =>
    by_cases hrest : rest < length
    · refine ⟨0, rest + 1, ?_, by omega, ?_⟩
      · simp [walkMonths, hrest]
      · rw [List.getD_cons_zero]
        exact hrest
    · obtain ⟨i, day, hwalk, hday, hlength⟩ := ih (month + 1) (rest - length) (by
        rw [total_cons] at h
        omega)
      refine ⟨i + 1, day, ?_, hday, ?_⟩
      · rw [walkMonths, if_neg hrest, hwalk]
        simp only [Prod.mk.injEq, and_true]
        omega
      · simpa using hlength

/-- A year has at least 365 days. -/
theorem le_sum_monthLengths (year : Nat) : 365 ≤ total (monthLengths year) := by
  simp only [monthLengths, total_cons, total_nil]
  split <;> omega

/-- The cycles that a day number of the calendar, counted from zero, is made of count no
more than its years. -/
theorem cycles_lt {r : Nat} (h : r < 3652059) :
    r / 146097 * 400 + r % 146097 / 36524 * 100 + r % 146097 % 36524 / 1461 * 4
      + r % 146097 % 36524 % 1461 / 365 < 9999 := by
  generalize hs : r % 146097 = s
  generalize ht : s % 36524 = t
  generalize hu : t % 1461 = u
  have h400 : r / 146097 ≤ 24 := by omega
  have h100 : s / 36524 ≤ 4 := by omega
  have h4 : t / 1461 ≤ 24 := by omega
  have h1 : u / 365 ≤ 4 := by omega
  -- only the last cycle of each length is cut short
  rcases Nat.lt_or_ge (r / 146097) 24 with hlt | hge
  · omega
  have hs' : s ≤ 145730 := by omega
  rcases Nat.lt_or_ge (s / 36524) 3 with hlt | hge
  · omega
  have ht' : t ≤ 36158 := by omega
  rcases Nat.lt_or_ge (t / 1461) 24 with hlt | hge
  · omega
  omega

/-- The days of the calendar are days. -/
theorem hasDay_dayFields {n : Nat} (h : n ≤ calendarDays) :
    hasDay (dayFields n).1 (dayFields n).2.1 (dayFields n).2.2 := by
  have hdays : calendarDays = 3652059 := by decide
  have hyear := cycles_lt (r := n - 1) (by omega)
  simp only [dayFields]
  split
  · refine hasDay_iff.2 ⟨?_, ?_, Nat.le_add_left 1 30, by simp [monthLength, monthLengths]⟩
    · omega
    · unfold maxYear
      omega
  · obtain ⟨i, day, hwalk, hday, hlength⟩ := walkMonths_spec
      (monthLengths ((n - 1) / 146097 * 400 + (n - 1) % 146097 / 36524 * 100
        + (n - 1) % 146097 % 36524 / 1461 * 4 + (n - 1) % 146097 % 36524 % 1461 / 365 + 1))
      1 ((n - 1) % 146097 % 36524 % 1461 % 365)
      (Nat.lt_of_lt_of_le (Nat.mod_lt _ (by decide)) (le_sum_monthLengths _))
    rw [hwalk]
    dsimp only
    refine hasDay_iff.2 ⟨Nat.le_add_left .., Nat.succ_le_of_lt hyear, hday, ?_⟩
    rw [monthLength, if_neg (by omega), Nat.add_sub_cancel_left]
    exact hlength

-- ===================================================== dates

/-- That the calendar has a day of these numbers. -/
class IsDay (year month day : Nat) : Prop where
  has : hasDay year month day

/-- The day on which the calendar begins. -/
instance : IsDay 1 1 1 := ⟨by decide⟩

/-- The day from which moments are counted. -/
instance : IsDay 1970 1 1 := ⟨by decide⟩

/-- The day on which rehearsals take place. -/
instance : IsDay 2024 6 15 := ⟨by decide⟩

/-- A day of the calendar. -/
structure Date where
  year : Nat
  month : Nat
  day : Nat
  [isDay : IsDay year month day]
  deriving DecidableEq, Repr

namespace Date

/-- The date, if the calendar has such a day. -/
def of? (year month day : Nat) : Option Date :=
  if h : hasDay year month day then
    have := IsDay.mk h
    some ⟨year, month, day⟩
  else none

/-- The day number. -/
def ordinal (d : Date) : Nat :=
  daysBeforeYear d.year + total ((monthLengths d.year).take (d.month - 1)) + d.day

/-- The date with a day number of the calendar. -/
def ofOrdinal (n : Nat) (h : n ≤ calendarDays) : Date :=
  have := IsDay.mk (hasDay_dayFields h)
  ⟨(dayFields n).1, (dayFields n).2.1, (dayFields n).2.2⟩

/-- The day of the week; Monday is zero. -/
def weekday (d : Date) : Nat := (d.ordinal + 6) % 7

end Date

-- ===================================================== digits

/-- A number in decimal with leading zeros up to a width. -/
def padded (width n : Nat) : String :=
  let ds := Nat.toDigits 10 n
  String.ofList (List.replicate (width - ds.length) '0' ++ ds)

/-- The text of a date: `2024-06-15`. -/
def Date.toText (d : Date) : String :=
  padded 4 d.year ++ "-" ++ padded 2 d.month ++ "-" ++ padded 2 d.day

end PaneWatch.Time
