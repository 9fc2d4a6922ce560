/-
Stamps in the order of time.

Stamps are compared by their fields, from the year down. Their microseconds since the start of
the calendar order them the same way (`before_iff`), and a stamp made from a number of
microseconds has that number (`micros_ofMicros`). So whatever is said about moving and comparing
stamps is arithmetic.

The work lies in the days, where no unit has a fixed length. A date lies within its month and its
month within its year, which puts the dates in order; and the walk that finds a date again takes
off exactly the days of the cycles, years and months before it (`ordinal_ofOrdinal`).
-/
import Mathlib.Data.List.Lex
import PaneWatch.Time.Stamp

namespace PaneWatch.Time

-- ===================================================== days before a month

/-- The days before a month are those before the last month and those of it. -/
private theorem total_take_succ (lengths : List Nat) (i : Nat) :
    total (lengths.take (i + 1)) = total (lengths.take i) + lengths.getD i 0 := by
  induction lengths generalizing i with
  | nil => simp [total_nil]
  | cons length more ih =>
      cases i with
      | zero => simp [total_cons, total_nil]
      | succ i =>
          rw [List.take_succ_cons, List.take_succ_cons, total_cons, total_cons, ih,
            List.getD_cons_succ, Nat.add_assoc]

private theorem total_take_le (lengths : List Nat) (i : Nat) :
    total (lengths.take i) ≤ total lengths := by
  induction lengths generalizing i with
  | nil => simp
  | cons length more ih =>
      cases i with
      | zero => exact Nat.zero_le _
      | succ i =>
          rw [List.take_succ_cons, total_cons, total_cons]
          exact Nat.add_le_add_left (ih i) length

/-- There are no fewer days before a later month. -/
private theorem total_take_mono (lengths : List Nat) {i j : Nat} (h : i ≤ j) :
    total (lengths.take i) ≤ total (lengths.take j) := by
  have hle := total_take_le (lengths.take j) i
  rwa [List.take_take, Nat.min_eq_left h] at hle

/-- A walk takes off the days of the months before the one in which it ends. -/
theorem walkMonths_total (lengths : List Nat) (month rest : Nat) (h : rest < total lengths) :
    ∃ i day, walkMonths lengths month rest = (month + i, day)
      ∧ total (lengths.take i) + day = rest + 1 := by
  induction lengths generalizing month rest with
  | nil => exact absurd h (Nat.not_lt_zero rest)
  | cons length more ih =>
      by_cases hrest : rest < length
      · exact ⟨0, rest + 1, by simp [walkMonths, hrest], by simp [total_nil]⟩
      · rw [total_cons] at h
        obtain ⟨i, day, hwalk, htotal⟩ := ih (month + 1) (rest - length) (by omega)
        refine ⟨i + 1, day, ?_, ?_⟩
        · rw [walkMonths, if_neg hrest, hwalk, Nat.add_assoc, Nat.add_comm 1 i]
        · rw [List.take_succ_cons, total_cons]
          omega

-- ===================================================== days before a year

/-- A year has 365 days, or 366 if it is a leap year. -/
private theorem total_monthLengths (year : Nat) :
    total (monthLengths year) = if isLeap year then 366 else 365 := by
  simp only [monthLengths, total_cons, total_nil]
  split <;> rfl

/-- Leap years are every fourth one, but of the hundredth only every fourth. -/
private theorem isLeap_iff {year : Nat} :
    isLeap year ↔ year % 4 = 0 ∧ (year % 100 ≠ 0 ∨ year % 400 = 0) := by
  simp [isLeap]

/-- The next year begins so many days later as the year has. -/
theorem daysBeforeYear_succ {year : Nat} (h : 1 ≤ year) :
    daysBeforeYear (year + 1) = daysBeforeYear year + total (monthLengths year) := by
  obtain ⟨y, rfl⟩ : ∃ y, year = y + 1 := ⟨year - 1, by omega⟩
  have hfour : (y + 1) / 4 = y / 4 + if (y + 1) % 4 = 0 then 1 else 0 := by split <;> omega
  have hcentury : (y + 1) / 100 = y / 100 + if (y + 1) % 100 = 0 then 1 else 0 := by
    split <;> omega
  have hcycle : (y + 1) / 400 = y / 400 + if (y + 1) % 400 = 0 then 1 else 0 := by
    split <;> omega
  have hless : y / 100 ≤ y / 4 := Nat.div_le_div_left (by decide) (by decide)
  -- a century is a fourth year, and a cycle of four hundred years a century
  have hdivides : (y + 1) % 100 = 0 → (y + 1) % 4 = 0 := by omega
  have hdivides' : (y + 1) % 400 = 0 → (y + 1) % 100 = 0 := by omega
  simp only [daysBeforeYear, Nat.add_sub_cancel, total_monthLengths, isLeap_iff, hfour, hcentury,
    hcycle]
  clear hfour hcentury hcycle
  split <;> split <;> split <;> split <;> omega

/-- There are no fewer days before a later year. -/
private theorem daysBeforeYear_mono {year later : Nat} (h : year ≤ later) :
    daysBeforeYear year ≤ daysBeforeYear later := by
  induction later, h using Nat.le_induction with
  | base => exact Nat.le_refl _
  | succ later hle ih =>
      refine ih.trans ?_
      rcases Nat.eq_zero_or_pos later with rfl | hpos
      · decide
      · rw [daysBeforeYear_succ hpos]
        exact Nat.le_add_right _ _

/-- The days before a year by the cycles that the years before it make up. -/
theorem daysBeforeYear_cycles {y n400 n100 n4 n1 : Nat}
    (hy : y = n400 * 400 + n100 * 100 + n4 * 4 + n1) (h100 : n100 ≤ 3) (h4 : n4 ≤ 24)
    (h1 : n1 ≤ 3) :
    daysBeforeYear (y + 1) = n400 * 146097 + n100 * 36524 + n4 * 1461 + n1 * 365 := by
  have hfour : y / 4 = n400 * 100 + n100 * 25 + n4 := by omega
  have hcentury : y / 100 = n400 * 4 + n100 := by omega
  have hcycle : y / 400 = n400 := by omega
  rw [daysBeforeYear, Nat.add_sub_cancel, hfour, hcentury, hcycle]
  omega

/-- The last year of a cycle of four is a leap year, unless it ends a century and no cycle of
four centuries; the days before it and its own fill the cycle. -/
theorem isLeap_cycles {y n400 n100 n4 : Nat} (hy : y = n400 * 400 + n100 * 100 + n4 * 4 + 4)
    (h100 : n100 ≤ 3) (h4 : n4 ≤ 23 ∨ n4 = 24 ∧ n100 = 3) :
    isLeap y ∧ daysBeforeYear y + 366 = n400 * 146097 + n100 * 36524 + (n4 + 1) * 1461 := by
  refine ⟨isLeap_iff.2 (by omega), ?_⟩
  have hbefore := daysBeforeYear_cycles (y := n400 * 400 + n100 * 100 + n4 * 4 + 3) rfl h100
    (by omega) (Nat.le_refl 3)
  rw [hy, hbefore]
  omega

namespace Date

/-- What makes a date one, with the days of its month counted among those of its year. -/
theorem day_bounds (d : Date) : 1 ≤ d.year ∧ d.year ≤ maxYear ∧ 1 ≤ d.day
    ∧ total ((monthLengths d.year).take (d.month - 1)) + d.day
      ≤ total ((monthLengths d.year).take d.month) := by
  obtain ⟨hfirst, hlast, hday, hlength⟩ := hasDay_iff.1 d.isDay.has
  refine ⟨hfirst, hlast, hday, ?_⟩
  unfold monthLength at hlength
  split at hlength
  · omega
  · next hmonth =>
    have hsucc := total_take_succ (monthLengths d.year) (d.month - 1)
    rw [Nat.sub_add_cancel (Nat.one_le_iff_ne_zero.2 hmonth)] at hsucc
    omega

/-- The number of a date lies between the ends of its year. -/
private theorem ordinal_bounds (d : Date) :
    daysBeforeYear d.year < d.ordinal ∧ d.ordinal ≤ daysBeforeYear (d.year + 1) := by
  obtain ⟨hfirst, -, hday, hmonth⟩ := d.day_bounds
  have hall := total_take_le (monthLengths d.year) d.month
  rw [daysBeforeYear_succ hfirst, ordinal]
  omega

/-- No date has a number beyond the last day. -/
private theorem ordinal_le_calendarDays (d : Date) : d.ordinal ≤ calendarDays := by
  obtain ⟨-, hlast, -⟩ := d.day_bounds
  exact d.ordinal_bounds.2.trans (daysBeforeYear_mono (Nat.succ_le_succ hlast))

/-- A date with a lower field where the two first differ comes earlier. -/
theorem ordinal_lt {a b : Date} (h : a.year < b.year
    ∨ a.year = b.year ∧ (a.month < b.month ∨ a.month = b.month ∧ a.day < b.day)) :
    a.ordinal < b.ordinal := by
  rcases h with hyear | ⟨hyear, hmonth | ⟨hmonth, hday⟩⟩
  · have hnext : daysBeforeYear (a.year + 1) ≤ daysBeforeYear b.year := daysBeforeYear_mono hyear
    have ha := a.ordinal_bounds.2
    have hb := b.ordinal_bounds.1
    omega
  · obtain ⟨-, -, -, ha⟩ := a.day_bounds
    obtain ⟨-, -, hb, -⟩ := b.day_bounds
    have hnext := total_take_mono (monthLengths a.year) (Nat.le_sub_one_of_lt hmonth)
    rw [ordinal, ordinal, ← hyear]
    omega
  · rw [ordinal, ordinal, ← hyear, ← hmonth]
    omega

/-- A date made from a day number has that number. -/
theorem ordinal_ofOrdinal {n : Nat} (hpos : 1 ≤ n) (h : n ≤ calendarDays) :
    (ofOrdinal n h).ordinal = n := by
  show daysBeforeYear (dayFields n).1
    + total ((monthLengths (dayFields n).1).take ((dayFields n).2.1 - 1)) + (dayFields n).2.2 = n
  simp only [dayFields]
  generalize hr : n - 1 = r
  generalize hs : r % 146097 = s
  generalize ht : s % 36524 = t
  generalize hu : t % 1461 = u
  have h100 : s / 36524 ≤ 4 := by omega
  have h4 : t / 1461 ≤ 24 := by omega
  have h1 : u / 365 ≤ 4 := by omega
  obtain ⟨y, hy⟩ : ∃ y, y = r / 146097 * 400 + s / 36524 * 100 + t / 1461 * 4 + u / 365 := ⟨_, rfl⟩
  rw [← hy, Nat.add_sub_cancel]
  split
  · next hlast =>
    -- one day beyond the four years of a cycle, or beyond the four centuries
    have hleap : isLeap y ∧ daysBeforeYear y + 366 = n := by
      by_cases hcentury : s / 36524 = 4
      · obtain ⟨hleap, hdays⟩ : isLeap y ∧ daysBeforeYear y + 366
            = r / 146097 * 146097 + 3 * 36524 + (24 + 1) * 1461 :=
          isLeap_cycles (by omega) (by omega) (by omega)
        exact ⟨hleap, by omega⟩
      · obtain ⟨hleap, hdays⟩ : isLeap y ∧ daysBeforeYear y + 366
            = r / 146097 * 146097 + s / 36524 * 36524 + (t / 1461 + 1) * 1461 :=
          isLeap_cycles (by omega) (by omega) (by omega)
        exact ⟨hleap, by omega⟩
    have hmonths : total ((monthLengths y).take (12 - 1)) = 335 := by
      simp [monthLengths, hleap.1, total_cons, total_nil]
    dsimp only
    rw [hmonths]
    omega
  · next hlast =>
    rw [not_or] at hlast
    have hbefore := daysBeforeYear_cycles hy (by omega) h4 (by omega)
    obtain ⟨i, day, hwalk, htotal⟩ := walkMonths_total (monthLengths (y + 1)) 1 (u % 365)
      (Nat.lt_of_lt_of_le (Nat.mod_lt _ (by decide)) (le_sum_monthLengths (y + 1)))
    rw [hwalk]
    dsimp only
    rw [Nat.add_sub_cancel_left, hbefore]
    omega

end Date

-- ===================================================== microseconds

namespace Stamp

/-- The microseconds of a stamp since midnight. -/
def clockMicros (s : Stamp) : Nat :=
  (s.hour * 3600 + s.minute * 60 + s.second) * Time.second + s.micro

/-- The microseconds of a stamp are those of the days before and those of its day. -/
private theorem micros_eq (s : Stamp) : s.micros = (s.date.ordinal - 1) * day + s.clockMicros :=
  Nat.add_assoc _ _ _

/-- The time of day is less than a day. -/
private theorem clockMicros_lt (s : Stamp) : s.clockMicros < day := by
  obtain ⟨hhour, hminute, hsecond, hmicro⟩ := hasTime_iff.1 s.isTime.has
  unfold clockMicros day Time.hour Time.second at *
  omega

/-- The calendar ends behind every stamp. -/
theorem micros_lt (s : Stamp) : s.micros < calendarDays * day := by
  have hdays : (s.date.ordinal - 1 + 1) * day ≤ calendarDays * day := by
    refine Nat.mul_le_mul_right day ?_
    have hle := s.date.ordinal_le_calendarDays
    have hpos := s.date.ordinal_bounds.1
    omega
  have hclock := s.clockMicros_lt
  rw [Nat.succ_mul] at hdays
  rw [micros_eq]
  omega

/-- The calendar starts with microsecond zero. -/
theorem micros_first : first.micros = 0 := by decide

/-- A stamp made from a number of microseconds has that number. -/
theorem micros_ofMicros (n : Nat) (h : n < calendarDays * day) : (ofMicros n h).micros = n := by
  have hdate : (ofMicros n h).date.ordinal = n / day + 1 :=
    Date.ordinal_ofOrdinal (Nat.le_add_left 1 _) ((Nat.div_lt_iff_lt_mul (by decide)).2 h)
  have hclock : (ofMicros n h).clockMicros = n % day := by
    show (n % day / Time.second / 3600 * 3600 + n % day / Time.second / 60 % 60 * 60
      + n % day / Time.second % 60) * Time.second + n % day % Time.second = n % day
    generalize n % day = m
    simp only [Time.second]
    omega
  rw [micros_eq, hdate, hclock, Nat.add_sub_cancel, Nat.mul_comm]
  exact Nat.div_add_mod n day

-- ===================================================== moving

/-- A stamp that is moved has so many microseconds more. -/
theorem micros_of_add? {s t : Stamp} {n : Int} (h : s.add? n = some t) :
    (t.micros : Int) = s.micros + n := by
  unfold add? ofMicros? at h
  split at h
  · cases h
    rw [micros_ofMicros]
    omega
  · cases h

/-- Moving fails where it leaves the calendar at either end. -/
theorem add?_eq_none_iff {s : Stamp} {n : Int} :
    s.add? n = none ↔ s.micros + n < 0 ∨ calendarDays * day ≤ s.micros + n := by
  unfold add? ofMicros?
  generalize (s.micros : Int) + n = target
  split
  · simp only [reduceCtorEq, false_iff]
    omega
  · simp only [true_iff]
    omega

-- ===================================================== comparing

/-- An earlier date is earlier, whatever the time of day. -/
private theorem micros_lt_of_date {a b : Stamp} (h : a.date.ordinal < b.date.ordinal) :
    a.micros < b.micros := by
  have hpos := a.date.ordinal_bounds.1
  have hdays : (a.date.ordinal - 1 + 1) * day ≤ (b.date.ordinal - 1) * day :=
    Nat.mul_le_mul_right day (by omega)
  have hclock := a.clockMicros_lt
  rw [Nat.succ_mul] at hdays
  rw [micros_eq, micros_eq]
  omega

/-- A stamp with a lower field where two stamps first differ comes earlier. -/
theorem micros_lt_of_fields_lt {a b : Stamp} (h : a.fields < b.fields) : a.micros < b.micros := by
  simp only [fields, List.cons_lt_cons_iff, List.not_lt_nil, and_false, or_false] at h
  rcases h with hyear | ⟨hyear, hmonth | ⟨hmonth, hday | ⟨hday, hclock⟩⟩⟩
  · exact micros_lt_of_date (Date.ordinal_lt (.inl hyear))
  · exact micros_lt_of_date (Date.ordinal_lt (.inr ⟨hyear, .inl hmonth⟩))
  · exact micros_lt_of_date (Date.ordinal_lt (.inr ⟨hyear, .inr ⟨hmonth, hday⟩⟩))
  · -- on the same day the clock decides
    have hdate : a.date.ordinal = b.date.ordinal := by
      rw [Date.ordinal, Date.ordinal, hyear, hmonth, hday]
    obtain ⟨-, hminute, hsecond, hmicro⟩ := hasTime_iff.1 a.isTime.has
    rw [micros_eq, micros_eq, hdate]
    unfold clockMicros Time.second at *
    omega

/-- Stamps with the same fields are the same. -/
theorem fields_inj {a b : Stamp} (h : a.fields = b.fields) : a = b := by
  obtain ⟨⟨year, month, day⟩, hour, minute, second, micro⟩ := a
  obtain ⟨⟨year', month', day'⟩, hour', minute', second', micro'⟩ := b
  simp only [fields, List.cons.injEq, and_true] at h
  obtain ⟨rfl, rfl, rfl, rfl, rfl, rfl, rfl⟩ := h
  rfl

/-- Stamps are in the order of their microseconds. -/
theorem before_iff {a b : Stamp} : a.before b ↔ a.micros < b.micros := by
  rw [before, decide_eq_true_iff]
  refine ⟨micros_lt_of_fields_lt, fun h => ?_⟩
  rcases lt_trichotomy a.fields b.fields with hlt | heq | hgt
  · exact hlt
  · rw [fields_inj heq] at h
    exact absurd h (Nat.lt_irrefl _)
  · exact absurd (micros_lt_of_fields_lt hgt) (Nat.not_lt_of_lt h)

end Stamp

-- ===================================================== the local zone

/-- A moment has no local time if UTC has it before the calendar begins, or if the calendar has
ended by the time that it has in the local zone. -/
theorem Moment.toLocal?_eq_none_iff {m : Moment} :
    m.toLocal? = none ↔ ∃ offset, m.offset = some offset
      ∧ ((m.stamp.micros : Int) < offset
        ∨ (calendarDays * day : Int) ≤ m.stamp.micros - offset + localOffset) := by
  have heast : 0 ≤ localOffset := by decide
  unfold Moment.toLocal? Moment.toZone? Moment.toUtc?
  cases m.offset with
  | none => simp
  | some offset =>
      simp only [Option.some.injEq, exists_eq_left']
      cases hutc : m.stamp.add? (-offset) with
      | none =>
          have hout := Stamp.add?_eq_none_iff.1 hutc
          simp only [Option.bind_none, true_iff]
          omega
      | some utc =>
          have hmicros := Stamp.micros_of_add? hutc
          rw [Option.bind_some, Stamp.add?_eq_none_iff]
          omega

end PaneWatch.Time
