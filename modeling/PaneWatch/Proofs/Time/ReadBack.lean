/-
Timestamps read back from their text.

A stamp is written with a fixed number of digits for each field, and the lenient
reader takes as many digits at a time, so the text is read back field by field:
`digits?_padded` is the law for one field. Microseconds are written only if there
are any, and what stands behind the seconds tells the reader which case it is.
The fields give the stamp again because a stamp has only fields that the calendar
and the clock have.
-/
import Mathlib.Data.List.TakeWhile
import Mathlib.Data.Option.Basic
import PaneWatch.Time.Lenient

namespace PaneWatch.Time

-- ===================================================== padded numbers

/-- The characters of a padded number. -/
theorem toList_padded (width n : Nat) :
    (padded width n).toList
      = List.replicate (width - (Nat.toDigits 10 n).length) '0' ++ Nat.toDigits 10 n := by
  simp [padded]

/-- A padded number has only digits. -/
theorem isDigit_of_mem_padded {width n : Nat} {c : Char} (h : c ∈ (padded width n).toList) :
    c.isDigit := by
  rw [toList_padded, List.mem_append] at h
  rcases h with hzero | hdigit
  · rw [List.eq_of_mem_replicate hzero]
    decide
  · exact Nat.isDigit_of_mem_toDigits (by decide) (by decide) hdigit

/-- A number that fits takes exactly the width. -/
theorem length_padded {width n : Nat} (hwidth : 0 < width) (h : n < Nat.pow 10 width) :
    (padded width n).toList.length = width := by
  have hle := (Nat.length_toDigits_le_iff (by decide) hwidth).2 h
  rw [toList_padded, List.length_append, List.length_replicate]
  omega

/-- The digits of a padded number are those of the number. -/
theorem ofDigitChars_padded (width n : Nat) :
    Nat.ofDigitChars 10 (padded width n).toList 0 = n := by
  rw [toList_padded, Nat.ofDigitChars_append, Nat.ofDigitChars_replicate_zero, Nat.mul_zero,
    Nat.ofDigitChars_ten_toDigits]

namespace Lenient

/-- So many digits as there are read as the number that they spell. -/
theorem digits?_eq (cs rest : List Char) (h : ∀ c ∈ cs, c.isDigit) :
    digits? cs.length (cs ++ rest) = some (Nat.ofDigitChars 10 cs 0, rest) := by
  induction cs with
  | nil => rfl
  | cons c cs ih =>
      have hc : c.isDigit := h c List.mem_cons_self
      have hcs := ih fun d hd => h d (List.mem_cons_of_mem c hd)
      have hvalue : Nat.ofDigitChars 10 cs (10 * 0 + (c.toNat - '0'.toNat))
          = (c.toNat - 0x30) * Nat.pow 10 cs.length + Nat.ofDigitChars 10 cs 0 := by
        rw [Nat.ofDigitChars_eq_ofDigitChars_zero, Nat.mul_zero, Nat.zero_add, Nat.mul_comm]
        rfl
      rw [List.length_cons, List.cons_append, digits?, if_pos hc, hcs, Nat.ofDigitChars_cons,
        hvalue]
      rfl

/-- A padded number is read back, with what stands behind it as the rest. -/
theorem digits?_padded {width n : Nat} (hwidth : 0 < width) (h : n < Nat.pow 10 width)
    (rest : List Char) :
    digits? width ((padded width n).toList ++ rest) = some (n, rest) := by
  have hdigits := digits?_eq (padded width n).toList rest fun c hc => isDigit_of_mem_padded hc
  rwa [length_padded hwidth h, ofDigitChars_padded] at hdigits

/-- Two digits are read as the number they were written for. -/
theorem digits?_two {n : Nat} (h : n < 100) (rest : List Char) :
    digits? 2 ((padded 2 n).toList ++ rest) = some (n, rest) :=
  digits?_padded (by decide) h rest

/-- And so are four. -/
private theorem digits?_four {n : Nat} (h : n < 10000) (rest : List Char) :
    digits? 4 ((padded 4 n).toList ++ rest) = some (n, rest) :=
  digits?_padded (by decide) h rest

-- ===================================================== dates and clocks

/-- A month that has days is one of twelve, and has no more than 31 of them. -/
theorem month_bounds {year month : Nat} (h : 0 < monthLength year month) :
    month ≤ 12 ∧ monthLength year month ≤ 31 := by
  unfold monthLength at h ⊢
  split at h
  · cases h
  · next hmonth =>
    rw [if_neg hmonth]
    rw [List.getD_eq_getElem?_getD] at h ⊢
    cases hget : (monthLengths year)[month - 1]? with
    | none =>
        rw [hget] at h
        cases h
    | some length =>
        obtain ⟨hlt, hlength⟩ := List.getElem?_eq_some_iff.1 hget
        have hmem : length ∈ monthLengths year := hlength ▸ List.getElem_mem hlt
        simp only [monthLengths, List.length_cons, List.length_nil] at hlt
        simp only [monthLengths, List.mem_cons, List.not_mem_nil, or_false] at hmem
        rw [Option.getD_some]
        constructor
        · omega
        · split at hmem <;> omega

/-- The fields of a date fit in the digits that they are written with. -/
theorem date_bounds (d : Date) : d.year < 10000 ∧ d.month < 100 ∧ d.day < 100 := by
  obtain ⟨-, hyear, hday, hlength⟩ := hasDay_iff.1 d.isDay.has
  obtain ⟨hmonth, hshort⟩ := month_bounds (Nat.lt_of_lt_of_le hday hlength)
  unfold maxYear at hyear
  omega

theorem guard_of {p : Prop} [Decidable p] (h : p) : (guard p : Option Unit) = some () := if_pos h

/-- A date is read back from its text. -/
private theorem date?_toText (d : Date) (rest : List Char) :
    date? (d.toText.toList ++ rest) = some (⟨d.year, d.month, d.day⟩, rest) := by
  obtain ⟨hyear, hmonth, hday⟩ := date_bounds d
  obtain ⟨-, -, hfirst, hlast⟩ := hasDay_iff.1 d.isDay.has
  simp only [Date.toText, String.toList_append, List.append_assoc]
  have hdash (rest : List Char) : expect? '-' ("-".toList ++ rest) = some rest := rfl
  have hthere : (1 ≤ d.day && d.day ≤ monthLength d.year d.month) = true := by simp [hfirst, hlast]
  simp only [date?, digits?_four hyear, digits?_two hmonth, digits?_two hday, hdash,
    guard_of hthere, Option.bind_eq_bind, Option.bind_some]
  rfl

/-- The values of digits make up the number that the digits spell. -/
theorem ofDigits_map (cs : List Char) :
    Number.ofDigits (cs.map fun c => c.toNat - 0x30) = Nat.ofDigitChars 10 cs 0 := by
  rw [Number.ofDigits, List.foldl_map, Nat.ofDigitChars_eq_foldl]
  rfl

/-- That a text does not go on where a clock has ended: no digit follows, and no mark behind which
digits may. -/
def EndsClock (rest : List Char) : Prop :=
  ∀ c ∈ rest.head?, c.isDigit = false ∧ c ≠ '.' ∧ c ≠ ','

private theorem takeWhile_padded (width n : Nat) {rest : List Char} (hrest : EndsClock rest) :
    ((padded width n).toList ++ rest).takeWhile Char.isDigit = (padded width n).toList := by
  have hnone : rest.takeWhile Char.isDigit = [] := by
    cases rest with
    | nil => rfl
    | cons c rest => simp [(hrest c rfl).1]
  rw [List.takeWhile_append_of_pos fun _ hc => isDigit_of_mem_padded hc, hnone, List.append_nil]

/-- Microseconds are read back from their six digits. -/
private theorem fraction?_padded {n : Nat} (h : n < 1000000) {rest : List Char}
    (hrest : EndsClock rest) :
    fraction? ((padded 6 n).toList ++ rest) = some (n, rest) := by
  have hlength : (padded 6 n).toList.length = 6 := length_padded (by decide) h
  have hsome : (padded 6 n).toList.isEmpty = false := by
    rw [List.isEmpty_eq_false_iff, ← List.length_pos_iff, hlength]
    decide
  have htake : ((padded 6 n).toList.map fun c => c.toNat - 0x30).take 6
      = (padded 6 n).toList.map fun c => c.toNat - 0x30 :=
    List.take_of_length_le (by simp [hlength])
  have hdrop : ((padded 6 n).toList ++ rest).drop 6 = rest := List.drop_left' hlength
  simp only [fraction?, takeWhile_padded 6 n hrest, hsome, Bool.false_eq_true, if_false, htake,
    List.length_map, hlength, hdrop, ofDigits_map, ofDigitChars_padded]
  rw [Nat.sub_self]
  exact congrArg (fun k => some (k, rest)) (Nat.mul_one n)

/-- The time of a stamp is read back from its text. -/
private theorem clock?_clockText (s : Stamp) {rest : List Char} (hrest : EndsClock rest) :
    clock? (s.clockText.toList ++ rest) = some (⟨s.hour, s.minute, s.second, s.micro⟩, rest) := by
  obtain ⟨hhour, hminute, hsecond, hmicro⟩ := hasTime_iff.1 s.isTime.has
  have hcolon (rest : List Char) : expect? ':' (":".toList ++ rest) = some rest := rfl
  have htwo {n : Nat} (h : n < 60) (rest : List Char) :
      digits? 2 ((padded 2 n).toList ++ rest) = some (n, rest) :=
    digits?_two (Nat.lt_trans h (by decide)) rest
  have hshown : (s.hour < 24 && s.minute < 60) = true := by simp [hhour, hminute]
  simp only [Stamp.clockText, String.toList_append, List.append_assoc, clock?,
    htwo (Nat.lt_trans hhour (by decide)), htwo hminute, hcolon, guard_of hshown,
    Option.bind_eq_bind, Option.bind_some]
  show (digits? 2 ((padded 2 s.second).toList ++ _)).bind _ = _
  rw [htwo hsecond]
  simp only [guard_of hsecond, Option.bind_some]
  -- the seconds end the clock if there are no microseconds
  by_cases hzero : s.micro = 0
  · rw [if_pos hzero, String.toList_empty, List.nil_append, hzero]
    split
    · exact absurd rfl (hrest '.' rfl).2.1
    · exact absurd rfl (hrest ',' rfl).2.2
    · rfl
  · simp [hzero, fraction?_padded hmicro hrest]

-- ===================================================== offsets

/-- No offset begins with a digit. -/
theorem offset?_of_isDigit {c : Char} (h : c.isDigit) (rest : List Char) :
    offset? (c :: rest) = none := by
  have hne (d : Char) (hd : d.isDigit = false) : (c == d) = false := by
    rw [beq_eq_false_iff_ne]
    rintro rfl
    rw [hd] at h
    cases h
  have hsmall : c.toNat ≠ 0x2212 := by
    intro hminus
    have hlast := (Char.isDigit_iff_toNat.1 h).2
    rw [hminus] at hlast
    exact absurd hlast (by decide)
  simp [offset?, isMinus, hne 'Z' rfl, hne 'z' rfl, hne '+' rfl, hne '-' rfl, hsmall]

/-- The offset that ends a text ends its clock as well. -/
theorem endsClock_of_offset? {cs : List Char} {offset : Option Int} (h : offset? cs = some offset) :
    EndsClock cs := by
  cases cs with
  | nil => nofun
  | cons c rest =>
      rintro _ ⟨⟩
      refine ⟨?_, ?_, ?_⟩
      · rw [Bool.eq_false_iff]
        intro hdigit
        rw [offset?_of_isDigit hdigit] at h
        cases h
      · rintro rfl
        cases h
      · rintro rfl
        cases h

-- ===================================================== stamps

/-- The fields of a stamp make the stamp. -/
theorem ofFields_stamp (s : Stamp) (offset : Option Int) :
    ofFields ⟨s.date.year, s.date.month, s.date.day⟩ ⟨s.hour, s.minute, s.second, s.micro⟩ offset
      = .ok ⟨s, offset⟩ := by
  simp [ofFields, moment?, Date.of?, Stamp.of?, s.date.isDay.has, s.isTime.has]

/-- A stamp is read back from its text, with the offset that is read behind it. -/
theorem ofText_append (s : Stamp) (tail : String) {offset : Option Int}
    (h : offset? tail.toList = some offset) : ofText (s.toText ++ tail) = .ok ⟨s, offset⟩ := by
  have hread : dateAndClock? (s.toText ++ tail).toList
      = some (⟨s.date.year, s.date.month, s.date.day⟩, ⟨s.hour, s.minute, s.second, s.micro⟩,
        offset) := by
    simp only [Stamp.toText, String.toList_append, List.append_assoc, dateAndClock?,
      date?_toText, Option.bind_eq_bind, Option.bind_some]
    rw [show "T".toList = ['T'] from rfl, List.singleton_append]
    dsimp only
    rw [guard_of (by decide : joins 'T' = true), Option.bind_some,
      clock?_clockText s (endsClock_of_offset? h), Option.bind_some]
    dsimp only
    rw [h]
    rfl
  rw [ofText, hread]
  exact ofFields_stamp s offset

/-- A stamp is read back from its text. -/
theorem ofText_toText (s : Stamp) : ofText s.toText = .ok ⟨s, none⟩ := by
  have h : ofText (s.toText ++ "") = .ok ⟨s, none⟩ := ofText_append s "" rfl
  rwa [String.append_empty] at h

end Lenient

/-- No two stamps have the same text. -/
theorem Stamp.toText_inj {s t : Stamp} (h : s.toText = t.toText) : s = t := by
  have hread := Lenient.ofText_toText s
  rw [h, Lenient.ofText_toText] at hread
  cases hread
  rfl

end PaneWatch.Time
