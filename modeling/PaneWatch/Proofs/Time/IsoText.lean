/-
ISO text read back.

A reader of ISO text does not know beforehand where the date ends and where the offset begins. It
finds out from the bytes, so its laws are about bytes with others behind them: how long the date
is (`dateLength?_date`), where a clock ends (`length_before_offset`), and what the fields of a clock
are that takes up so many bytes (`readClock?_clockChars`). An offset is a sign and one more clock,
down to the field that is not zero.

What ends the text does not matter to what stands before it. So a stamp is read back with any
offset that is read back on its own (`read?_append`), and `Spells` has the texts for which that is
so: they give both readers what they spell.
-/
import PaneWatch.Proofs.Text.Utf8
import PaneWatch.Proofs.Time.Offset
import PaneWatch.Time.Iso

namespace PaneWatch.Time.Iso

open Lenient (guard_of)
open Moment (offsetMinutes offsetText)

-- ===================================================== bytes

/-- The bytes of ASCII characters. -/
def bytesOf (cs : List Char) : List UInt8 := cs.map byte

/-- Text in a row is written as bytes in a row. -/
private theorem bytesOf_append (cs ds : List Char) :
    bytesOf (cs ++ ds) = bytesOf cs ++ bytesOf ds :=
  List.map_append

private theorem bytesOf_cons (c : Char) (cs : List Char) :
    bytesOf (c :: cs) = byte c :: bytesOf cs := rfl

/-- Each ASCII character is one byte. -/
private theorem length_bytesOf (cs : List Char) :
    (bytesOf cs).length = cs.length := List.length_map _

/-- The byte of a digit has the number of the digit. -/
private theorem toNat_byte_of_isDigit {c : Char} (h : c.isDigit) : (byte c).toNat = c.toNat := by
  have hlast := (Char.isDigit_iff_toNat.1 h).2
  have hsmall : c.toNat < 256 := Nat.lt_of_le_of_lt hlast (by decide)
  exact Nat.mod_eq_of_lt hsmall

/-- The byte of a digit is a digit. -/
private theorem isDigit_byte {c : Char} (h : c.isDigit) : isDigit (byte c) := by
  obtain ⟨hfirst, hlast⟩ := Char.isDigit_iff_toNat.1 h
  have hbyte := toNat_byte_of_isDigit h
  simp only [isDigit, Bool.and_eq_true, decide_eq_true_eq, UInt8.le_iff_toNat_le, hbyte]
  exact ⟨hfirst, hlast⟩

-- ===================================================== digits

/-- As many digits as are asked for are read off the front of any bytes. -/
private theorem readDigits?_eq (cs : List Char) (rest : List UInt8) (h : ∀ c ∈ cs, c.isDigit) :
    readDigits? cs.length (bytesOf cs ++ rest) = some (Nat.ofDigitChars 10 cs 0, rest) := by
  induction cs with
  | nil => rfl
  | cons c cs ih =>
      have hc : c.isDigit := h c List.mem_cons_self
      have hcs := ih fun d hd => h d (List.mem_cons_of_mem c hd)
      have hvalue : Nat.ofDigitChars 10 cs (10 * 0 + (c.toNat - '0'.toNat))
          = (c.toNat - 0x30) * Nat.pow 10 cs.length + Nat.ofDigitChars 10 cs 0 := by
        rw [Nat.ofDigitChars_eq_ofDigitChars_zero, Nat.mul_zero, Nat.zero_add, Nat.mul_comm]
        rfl
      rw [List.length_cons, bytesOf_cons, List.cons_append, readDigits?, guard_of (isDigit_byte hc),
        hcs, Nat.ofDigitChars_cons, hvalue, toNat_byte_of_isDigit hc]
      rfl

/-- A padded number is read back, whatever stands behind it. -/
private theorem readDigits?_padded {width n : Nat} (hwidth : 0 < width) (h : n < Nat.pow 10 width)
    (rest : List UInt8) :
    readDigits? width (bytesOf (padded width n).toList ++ rest) = some (n, rest) := by
  have hdigits := readDigits?_eq (padded width n).toList rest fun c hc => isDigit_of_mem_padded hc
  rwa [length_padded hwidth h, ofDigitChars_padded] at hdigits

/-- Two digits are read as the number they were written for. -/
private theorem readDigits?_two {n : Nat} (h : n < 100) (rest : List UInt8) :
    readDigits? 2 (bytesOf (padded 2 n).toList ++ rest) = some (n, rest) :=
  readDigits?_padded (by decide) h rest

/-- And so are four. -/
private theorem readDigits?_four {n : Nat} (h : n < 10000) (rest : List UInt8) :
    readDigits? 4 (bytesOf (padded 4 n).toList ++ rest) = some (n, rest) :=
  readDigits?_padded (by decide) h rest

-- ===================================================== dates

/-- Behind the end of some bytes stand those that follow them. -/
private theorem byteAt_append {bs : List UInt8} (rest : List UInt8) {i n : Nat}
    (hlength : bs.length = n)
    (h : n ≤ i) : byteAt (bs ++ rest) i = byteAt rest (i - n) := by
  subst hlength
  simp [byteAt, List.getD_eq_getElem?_getD, List.getElem?_append_right h]

private theorem byteAt_cons (b : UInt8) (bs : List UInt8) (i : Nat) :
    byteAt (b :: bs) (i + 1) = byteAt bs i := rfl

/-- The first byte of a padded number is a digit. -/
theorem isDigit_head_padded {width n : Nat} (hwidth : 0 < width) (h : n < Nat.pow 10 width)
    (rest : List UInt8) : isDigit (byteAt (bytesOf (padded width n).toList ++ rest) 0) := by
  have hlength := length_padded hwidth h
  cases htext : (padded width n).toList with
  | nil =>
      rw [htext] at hlength
      exact absurd hlength (Nat.ne_of_lt hwidth)
  | cons c cs => exact isDigit_byte (isDigit_of_mem_padded (htext ▸ List.mem_cons_self))

/-- A byte that is no digit is not equal to one that is. -/
theorem ne_of_isDigit {a b : UInt8} (ha : isDigit a) (hb : isDigit b = false) : a ≠ b := by
  rintro rfl
  rw [ha] at hb
  cases hb

/-- A date in bytes: the digits of its parts and the two dashes between them. -/
private theorem bytesOf_date (d : Date) (rest : List UInt8) : bytesOf d.toText.toList ++ rest
    = bytesOf (padded 4 d.year).toList ++ (byte '-' :: (bytesOf (padded 2 d.month).toList
      ++ (byte '-' :: (bytesOf (padded 2 d.day).toList ++ rest)))) := by
  simp [Date.toText, String.toList_append, bytesOf, List.append_assoc]

private theorem length_padded_two {n : Nat} (h : n < 100) :
    (bytesOf (padded 2 n).toList).length = 2 := by
  rw [length_bytesOf]
  exact length_padded (by decide) h

private theorem length_padded_four {n : Nat} (h : n < 10000) :
    (bytesOf (padded 4 n).toList).length = 4 := by
  rw [length_bytesOf]
  exact length_padded (by decide) h

/-- A date takes ten bytes. -/
private theorem length_date (d : Date) : (bytesOf d.toText.toList).length = 10 := by
  obtain ⟨hyear, hmonth, hday⟩ := Lenient.date_bounds d
  have hbytes := bytesOf_date d []
  rw [List.append_nil] at hbytes
  simp only [hbytes, List.length_append, List.length_cons, List.length_nil,
    length_padded_four hyear, length_padded_two hmonth, length_padded_two hday]

/-- A date with dashes takes up ten bytes. -/
theorem dateLength?_date (d : Date) (rest : List UInt8) :
    dateLength? (bytesOf d.toText.toList ++ rest) = some 10 := by
  obtain ⟨hyear, hmonth, hday⟩ := Lenient.date_bounds d
  have hdash : byteAt (bytesOf d.toText.toList ++ rest) 4 = byte '-' := by
    rw [bytesOf_date, byteAt_append _ (length_padded_four hyear) (by decide)]
    rfl
  have hmonth' : byteAt (bytesOf d.toText.toList ++ rest) 5 ≠ byte 'W' := by
    rw [bytesOf_date, byteAt_append _ (length_padded_four hyear) (by decide),
      show 5 - 4 = 0 + 1 from rfl, byteAt_cons]
    exact ne_of_isDigit (isDigit_head_padded (by decide) hmonth _) (by decide)
  have hsize : ¬(bytesOf d.toText.toList ++ rest).length = 7 := by
    rw [List.length_append, length_date]
    omega
  simp only [dateLength?, hsize, hdash, hmonth', if_true, if_false]

/-- A date is read back from its ten bytes, whatever stands behind them. -/
private theorem readDate?_date (d : Date) (rest : List UInt8) :
    readDate? (bytesOf d.toText.toList ++ rest) 10 = some d := by
  obtain ⟨hyear, hmonth, hday⟩ := Lenient.date_bounds d
  have hfits : (bytesOf d.toText.toList ++ rest).length - rest.length = 10 := by
    rw [List.length_append, length_date, Nat.add_sub_cancel]
  rw [bytesOf_date] at hfits ⊢
  have hmonth' (rest : List UInt8) :
      byteAt (bytesOf (padded 2 d.month).toList ++ rest) 0 ≠ byte 'W' :=
    ne_of_isDigit (isDigit_head_padded (by decide) hmonth _) (by decide)
  have hdash (rest : List UInt8) : byteAt (byte '-' :: rest) 0 = byte '-' := rfl
  have hexpect (rest : List UInt8) : expect? '-' (byte '-' :: rest) = some rest := rfl
  simp only [readDate?, readDigits?_four hyear, Option.bind_eq_bind, Option.bind_some, hdash,
    if_true, List.drop_one, List.tail_cons, hmonth', if_false, readDigits?_two hmonth, hexpect,
    readDigits?_two hday, guard_of hfits]
  rw [Date.of?, dif_pos d.isDay.has]

-- ===================================================== clocks

/-- The fields that are left are one, and it ends the clock. -/
theorem readFields?_last {n : Nat} (h : n < 100) (colons : Bool) (fields : Nat)
    (rest : List UInt8) :
    readFields? colons (fields + 1) (bytesOf (padded 2 n).toList ++ rest) 2
      = some ([n], 0, decide (byteAt rest 0 = 0)) := by
  simp only [readFields?, readDigits?_two h, Option.bind_eq_bind, Option.bind_some]
  rfl

/-- A field with a colon behind it is read, and then the other ones. -/
theorem readFields?_colon {n : Nat} (h : n < 100) (fields length : Nat) (rest : List UInt8)
    (hlength : 0 < length) :
    readFields? true (fields + 2) (bytesOf (padded 2 n).toList ++ byte ':' :: rest) (length + 3)
      = (readFields? true (fields + 1) rest length).map fun (more, micro, ends) =>
        (n :: more, micro, ends) := by
  have hnext : byteAt (byte ':' :: rest) 0 = byte ':' := rfl
  have hmore : ¬length + 3 ≤ 3 := by omega
  rw [readFields?]
  simp only [readDigits?_two h, Option.bind_eq_bind, Option.bind_some, hnext, hmore, if_false,
    ite_self, and_self, if_true, Nat.add_one_ne_zero, decide_true, Nat.add_sub_cancel,
    List.drop_one, List.tail_cons]
  cases readFields? true (fields + 1) rest length with
  | none => rfl
  | some fields => rfl

/-- Six digits of a fraction are read back if no digit follows. What is found besides is whether
the text ends there. -/
private theorem readFraction?_padded {micro : Nat} (h : micro < 1000000) {rest : List UInt8}
    (hrest : isDigit (byteAt rest 0) = false) :
    readFraction? (bytesOf (padded 6 micro).toList ++ rest) 6
      = some (micro, decide (byteAt rest 0 = 0)) := by
  have hdigits : readDigits? (min 6 6) (bytesOf (padded 6 micro).toList ++ rest)
      = some (micro, rest) := readDigits?_padded (by decide) h rest
  have hends : rest.dropWhile isDigit = rest := by
    cases rest with
    | nil => rfl
    | cons b rest => exact List.dropWhile_cons_of_neg (Bool.eq_false_iff.1 hrest)
  simp only [readFraction?, hdigits, Option.bind_eq_bind, Option.bind_some, hends]
  exact congrArg (fun n => some (n, decide (byteAt rest 0 = 0))) (Nat.mul_one micro)

/-- The last field with a fraction behind it. -/
theorem readFields?_point {n micro : Nat} (h : n < 100) (hmicro : micro < 1000000)
    {rest : List UInt8} (hrest : isDigit (byteAt rest 0) = false) :
    readFields? true 1 (bytesOf (padded 2 n).toList
        ++ byte '.' :: (bytesOf (padded 6 micro).toList ++ rest)) 9
      = some ([n], micro, decide (byteAt rest 0 = 0)) := by
  have hnext (rest : List UInt8) : byteAt (byte '.' :: rest) 0 = byte '.' := rfl
  have hpoint : byte '.' ≠ byte ':' := by decide
  have hlong : ¬9 ≤ 3 := by decide
  rw [readFields?]
  simp only [readDigits?_two h, Option.bind_eq_bind, Option.bind_some, hnext, hpoint, hlong,
    if_false, and_false, true_or, if_true, List.drop_one, List.tail_cons]
  show (readFraction? _ 6).bind _ = _
  rw [readFraction?_padded hmicro hrest]
  rfl

-- ===================================================== clocks as they are written

/-- The fraction of a second as it is written. -/
def fractionChars (micro : Nat) : List Char :=
  if micro = 0 then [] else '.' :: (padded 6 micro).toList

/-- A clock as it is written down to seconds. -/
def clockChars (c : Clock) : List Char :=
  (padded 2 c.hour).toList ++ ':' :: ((padded 2 c.minute).toList
    ++ ':' :: ((padded 2 c.second).toList ++ fractionChars c.micro))

/-- That the fields of a clock fit in the digits that they are written with. -/
structure Clock.Fits (c : Clock) : Prop where
  hour : c.hour < 100
  minute : c.minute < 100
  second : c.second < 100
  micro : c.micro < 1000000

/-- A clock in bytes: its three numbers, the colons between them, and the fraction if there is
one. -/
private theorem bytesOf_clockChars (c : Clock) (rest : List UInt8) : bytesOf (clockChars c) ++ rest
    = bytesOf (padded 2 c.hour).toList ++ byte ':' :: (bytesOf (padded 2 c.minute).toList
      ++ byte ':' :: (bytesOf (padded 2 c.second).toList
        ++ (bytesOf (fractionChars c.micro) ++ rest))) := by
  simp [clockChars, bytesOf, List.append_assoc]

/-- A clock takes eight bytes and those of its fraction. -/
private theorem length_clockChars {c : Clock} (hc : c.Fits) :
    (clockChars c).length = 8 + (fractionChars c.micro).length := by
  have hlength {n : Nat} (h : n < 100) : (padded 2 n).toList.length = 2 :=
    length_padded (by decide) h
  simp only [clockChars, List.length_append, List.length_cons, hlength hc.hour, hlength hc.minute,
    hlength hc.second]
  omega

/-- A clock is read back, and it is told whether the text ends with it. -/
theorem readClock?_clockChars {c : Clock} (hc : c.Fits) (rest : List UInt8)
    (hrest : isDigit (byteAt rest 0) = false) :
    readClock? (bytesOf (clockChars c) ++ rest) (clockChars c).length
      = some (c, decide (byteAt rest 0 = 0)) := by
  have hsecond : readFields? true 1 (bytesOf (padded 2 c.second).toList
        ++ (bytesOf (fractionChars c.micro) ++ rest)) (2 + (fractionChars c.micro).length)
      = some ([c.second], c.micro, decide (byteAt rest 0 = 0)) := by
    unfold fractionChars
    by_cases hzero : c.micro = 0
    · rw [if_pos hzero, hzero]
      exact readFields?_last hc.second true 0 rest
    · rw [if_neg hzero, List.length_cons, length_padded (by decide) hc.micro]
      exact readFields?_point hc.second hc.micro hrest
  have hminute := readFields?_colon hc.minute 0 (2 + (fractionChars c.micro).length)
    (bytesOf (padded 2 c.second).toList ++ (bytesOf (fractionChars c.micro) ++ rest)) (by omega)
  have hhour := readFields?_colon hc.hour 1 (2 + (fractionChars c.micro).length + 3)
    (bytesOf (padded 2 c.minute).toList ++ byte ':' :: (bytesOf (padded 2 c.second).toList
      ++ (bytesOf (fractionChars c.micro) ++ rest))) (by omega)
  have hall : 8 + (fractionChars c.micro).length
      = 2 + (fractionChars c.micro).length + 3 + 3 := by omega
  rw [readClock?, bytesOf_clockChars, length_clockChars hc, hall, hhour, hminute, hsecond]
  rfl

/-- A clock that ends the text with its minutes. -/
theorem readClock?_minutes {hour minute : Nat} (hhour : hour < 100) (hminute : minute < 100) :
    readClock? (bytesOf ((padded 2 hour).toList ++ ':' :: (padded 2 minute).toList)) 5
      = some ({ hour, minute }, true) := by
  have hlast := readFields?_last hminute true 1 []
  rw [List.append_nil] at hlast
  rw [readClock?, bytesOf_append, bytesOf_cons,
    readFields?_colon hhour 1 2 (bytesOf (padded 2 minute).toList) (by decide), hlast]
  rfl

/-- That a character is one that clocks are written with. -/
def IsClockChar (c : Char) : Prop := c.isDigit ∨ c = ':' ∨ c = '.'

/-- A padded number has only characters that stand in a clock text. -/
private theorem isClockChar_of_mem_padded {width n : Nat} {d : Char}
    (h : d ∈ (padded width n).toList) :
    IsClockChar d :=
  .inl (isDigit_of_mem_padded h)

/-- A clock is written in digits and the marks of a clock. -/
private theorem isClockChar_of_mem {c : Clock} {d : Char} (h : d ∈ clockChars c) :
    IsClockChar d := by
  unfold clockChars fractionChars at h
  simp only [List.mem_append, List.mem_cons] at h
  rcases h with hhour | rfl | hminute | rfl | hsecond | hfraction
  · exact isClockChar_of_mem_padded hhour
  · exact .inr (.inl rfl)
  · exact isClockChar_of_mem_padded hminute
  · exact .inr (.inl rfl)
  · exact isClockChar_of_mem_padded hsecond
  · split at hfraction
    · cases hfraction
    · rcases List.mem_cons.1 hfraction with rfl | hmicro
      · exact .inr (.inr rfl)
      · exact isClockChar_of_mem_padded hmicro

/-- No byte of a clock starts an offset. -/
theorem IsClockChar.startsOffset {c : Char} (h : IsClockChar c) :
    startsOffset (byte c) = false := by
  rcases h with hdigit | rfl | rfl
  · have hbyte := isDigit_byte hdigit
    simp [Iso.startsOffset, ne_of_isDigit hbyte (show isDigit (byte '+') = false by decide),
      ne_of_isDigit hbyte (show isDigit (byte '-') = false by decide),
      ne_of_isDigit hbyte (show isDigit (byte 'Z') = false by decide)]
  · decide
  · decide

/-- All of these are ASCII characters. -/
private theorem IsClockChar.toNat_lt {c : Char} (h : IsClockChar c) : c.toNat < 0x80 := by
  rcases h with hdigit | rfl | rfl
  · exact Nat.lt_of_le_of_lt (Char.isDigit_iff_toNat.1 hdigit).2 (by decide)
  · decide
  · decide

-- ===================================================== offsets

/-- The clock that shows the size of an offset. -/
def clockOf (o : Int) : Clock where
  hour := o.natAbs / (60 * Time.second) / 60
  minute := o.natAbs / (60 * Time.second) % 60
  second := o.natAbs / Time.second % 60
  micro := o.natAbs % Time.second

/-- The characters of that clock, without what is zero beyond minutes. -/
def offsetChars (o : Int) : List Char :=
  if (clockOf o).second = 0 ∧ (clockOf o).micro = 0 then
    (padded 2 (clockOf o).hour).toList ++ ':' :: (padded 2 (clockOf o).minute).toList
  else clockChars (clockOf o)

/-- So is an offset behind its sign. -/
private theorem isClockChar_of_mem_offsetChars {o : Int} {d : Char} (h : d ∈ offsetChars o) :
    IsClockChar d := by
  unfold offsetChars at h
  split at h
  · rcases List.mem_append.1 h with hhour | hrest
    · exact isClockChar_of_mem_padded hhour
    · rcases List.mem_cons.1 hrest with rfl | hminute
      · exact .inr (.inl rfl)
      · exact isClockChar_of_mem_padded hminute
  · exact isClockChar_of_mem h

/-- An offset is its sign and the clock of its size. -/
private theorem toList_offsetText (o : Int) :
    (offsetText o).toList = signOf o :: offsetChars o := by
  simp only [offsetText, offsetChars, clockChars, fractionChars, clockOf, String.toList_append,
    toList_offsetMinutes, List.cons_append, List.append_assoc]
  refine congrArg (List.cons (signOf o)) ?_
  by_cases hmicro : o.natAbs % Time.second = 0
  · by_cases hsecond : o.natAbs / Time.second % 60 = 0
    · simp [hmicro, hsecond]
    · simp [hmicro, hsecond]
  · simp [hmicro]

/-- An offset of less than a day has the size of a time of day. -/
private theorem fits_clockOf {o : Int} (h : o.natAbs < day) : (clockOf o).Fits := by
  obtain ⟨hhour, hminute⟩ := offset_bounds h
  refine ⟨Nat.lt_trans hhour (by decide), Nat.lt_trans hminute (by decide), ?_, ?_⟩
  · show o.natAbs / Time.second % 60 < 100
    omega
  · show o.natAbs % Time.second < 1000000
    unfold Time.second
    omega

/-- The clock of an offset shows its size, down to the last microsecond. -/
private theorem micros_clockOf (o : Int) :
    ((clockOf o).hour * 3600 + (clockOf o).minute * 60 + (clockOf o).second) * Time.second
      + (clockOf o).micro = o.natAbs := by
  simp only [clockOf, Time.second]
  omega

/-- That clock is read back. -/
theorem readClock?_offsetChars {o : Int} (h : o.natAbs < day) :
    readClock? (bytesOf (offsetChars o)) (bytesOf (offsetChars o)).length
      = some (clockOf o, true) := by
  have hfits := fits_clockOf h
  unfold offsetChars
  split
  · next hzero =>
    have hclock : Clock.mk (clockOf o).hour (clockOf o).minute 0 0 = clockOf o :=
      congrArg₂ (Clock.mk _ _) hzero.1.symm hzero.2.symm
    have hlength : (bytesOf ((padded 2 (clockOf o).hour).toList
        ++ ':' :: (padded 2 (clockOf o).minute).toList)).length = 5 := by
      rw [bytesOf_append, bytesOf_cons, List.length_append, List.length_cons,
        length_padded_two hfits.hour, length_padded_two hfits.minute]
    rw [hlength, readClock?_minutes hfits.hour hfits.minute, hclock]
  · have hclock := readClock?_clockChars hfits [] rfl
    rw [List.append_nil] at hclock
    rw [length_bytesOf, hclock]
    rfl

/-- Behind a sign stands the clock that shows the size of the offset. -/
theorem readOffset?_cons {b : UInt8} {bs : List UInt8} {c : Clock} {n : Nat} (hb : b ≠ byte 'Z')
    (hclock : readClock? bs bs.length = some (c, true))
    (hsize : (c.hour * 3600 + c.minute * 60 + c.second) * Time.second + c.micro = n)
    (hday : n < day) :
    readOffset? (b :: bs) = some (if b = byte '-' then -(n : Int) else n) := by
  have hguard : (guard ((n : Int) < day) : Option Unit) = some () :=
    guard_of (Int.ofNat_lt.2 hday)
  rw [readOffset?, if_neg hb, hclock, Option.bind_eq_bind, Option.bind_some]
  dsimp only
  rw [hsize, guard_of rfl, Option.bind_eq_bind, Option.bind_some, hguard]
  rfl

/-- An offset of less than a day is read back from its text. -/
theorem readOffset?_offsetText {o : Int} (h : o.natAbs < day) :
    readOffset? (bytesOf (offsetText o).toList) = some o := by
  have hsigns : byte (signOf o) ≠ byte 'Z' ∧ (byte (signOf o) = byte '-' ↔ o < 0) := by
    unfold signOf
    split
    · next h => exact ⟨by decide, by simp [h]⟩
    · next h => exact ⟨by decide, iff_of_false (by decide) h⟩
  rw [toList_offsetText, bytesOf_cons,
    readOffset?_cons hsigns.1 (readClock?_offsetChars h) (micros_clockOf o) h]
  simp only [hsigns.2, ite_natAbs]

-- ===================================================== the time

/-- The fields of a stamp as a clock. -/
def clockOfStamp (s : Stamp) : Clock := ⟨s.hour, s.minute, s.second, s.micro⟩

/-- The time of a stamp is written as the clock of it is. -/
private theorem toList_clockText (s : Stamp) :
    s.clockText.toList = clockChars (clockOfStamp s) := by
  simp only [Stamp.clockText, clockChars, fractionChars, clockOfStamp, String.toList_append,
    List.append_assoc]
  by_cases hzero : s.micro = 0
  · simp [hzero]
  · simp [hzero]

/-- The clock of a stamp is within its ranges. -/
private theorem fits_clockOfStamp (s : Stamp) : (clockOfStamp s).Fits := by
  obtain ⟨hhour, hminute, hsecond, hmicro⟩ := hasTime_iff.1 s.isTime.has
  exact ⟨Nat.lt_trans hhour (by decide), Nat.lt_trans hminute (by decide),
    Nat.lt_trans hsecond (by decide), hmicro⟩

/-- A clock ends where the offset starts. -/
theorem length_before_offset {bs : List UInt8} {b : UInt8} (tail : List UInt8) (hbs : bs ≠ [])
    (hclock : ∀ d ∈ bs, startsOffset d = false) (hb : startsOffset b) :
    (if startsOffset (byteAt (bs ++ b :: tail) 0) then 0
      else 1 + (((bs ++ b :: tail).drop 1).takeWhile fun d => !startsOffset d).length)
      = bs.length := by
  obtain ⟨first, bs, rfl⟩ := List.exists_cons_of_ne_nil hbs
  have hfirst : ¬startsOffset (byteAt (first :: bs ++ b :: tail) 0) :=
    Bool.eq_false_iff.1 (hclock first List.mem_cons_self)
  have hrest : (bs ++ b :: tail).takeWhile (fun d => !startsOffset d) = bs := by
    rw [List.takeWhile_append_of_pos, List.takeWhile_cons_of_neg, List.append_nil]
    · simp [hb]
    · intro d hd
      simp [hclock d (List.mem_cons_of_mem first hd)]
  rw [if_neg hfirst, List.cons_append, List.drop_one, List.tail_cons, hrest, List.length_cons,
    Nat.add_comm]

/-- A time of day with an offset is read back if the offset is. -/
theorem readTime?_clock (s : Stamp) {b : UInt8} {bs : List UInt8} {o : Int}
    (hstarts : startsOffset b) (hdigit : isDigit b = false)
    (h : readOffset? (b :: bs) = some o) :
    readTime? s.date (bytesOf s.clockText.toList ++ b :: bs) = some ⟨s, some o⟩ := by
  have hfits := fits_clockOfStamp s
  rw [toList_clockText]
  have hlength := length_clockChars hfits
  have hsome : bytesOf (clockChars (clockOfStamp s)) ≠ [] := by
    rw [← List.length_pos_iff, length_bytesOf, hlength]
    omega
  have hquiet : ∀ d ∈ bytesOf (clockChars (clockOfStamp s)), startsOffset d = false := by
    intro d hd
    obtain ⟨c, hc, rfl⟩ := List.mem_map.1 hd
    exact (isClockChar_of_mem hc).startsOffset
  have hbefore := length_before_offset bs hsome hquiet hstarts
  have hclock := readClock?_clockChars hfits (b :: bs) hdigit
  rw [length_bytesOf] at hbefore
  have hstamp : Stamp.of? s.date s.hour s.minute s.second s.micro = some s := dif_pos s.isTime.has
  have hmore : ¬(clockChars (clockOfStamp s)).length
      = (bytesOf (clockChars (clockOfStamp s)) ++ b :: bs).length := by
    rw [List.length_append, length_bytesOf, List.length_cons]
    omega
  have hdrop : (bytesOf (clockChars (clockOfStamp s)) ++ b :: bs).drop
      (clockChars (clockOfStamp s)).length = b :: bs := List.drop_left' (length_bytesOf _)
  unfold readTime?
  simp only [hbefore, hclock, Option.bind_eq_bind, Option.bind_some]
  show (Stamp.of? s.date s.hour s.minute s.second s.micro).bind _ = _
  rw [hstamp, Option.bind_some, if_neg hmore, hdrop, h]
  rfl

-- ===================================================== texts

/-- Text of ASCII characters is encoded character by character. -/
private theorem bytesOf_toUTF8 {text : String} (h : ∀ c ∈ text.toList, c.toNat < 0x80) :
    text.toUTF8.toList = bytesOf text.toList := by
  have hbytes := Text.toList_toUTF8_of_ascii h
  rw [String.ofList_toList] at hbytes
  exact hbytes

/-- A stamp is written in ASCII characters. -/
private theorem toNat_lt_of_mem_stamp {s : Stamp} {c : Char} (h : c ∈ s.toText.toList) :
    c.toNat < 0x80 := by
  simp only [Stamp.toText, Date.toText, String.toList_append, toList_clockText,
    List.mem_append] at h
  rcases h with (((((hyear | hdash) | hmonth) | hdash) | hday) | hjoint) | hclock
  · exact (isClockChar_of_mem_padded hyear).toNat_lt
  · cases List.mem_singleton.1 hdash
    decide
  · exact (isClockChar_of_mem_padded hmonth).toNat_lt
  · cases List.mem_singleton.1 hdash
    decide
  · exact (isClockChar_of_mem_padded hday).toNat_lt
  · cases List.mem_singleton.1 hjoint
    decide
  · exact (isClockChar_of_mem hclock).toNat_lt

/-- So is an offset. -/
private theorem toNat_lt_of_mem_offset {o : Int} {c : Char} (h : c ∈ (offsetText o).toList) :
    c.toNat < 0x80 := by
  rw [toList_offsetText] at h
  rcases List.mem_cons.1 h with rfl | hclock
  · unfold signOf
    split <;> decide
  · exact (isClockChar_of_mem_offsetChars hclock).toNat_lt

/-- A stamp is read back from its ISO text, with the offset that is read behind it. -/
theorem read?_append (s : Stamp) {tail : String} {c : Char} {cs : List Char} {o : Int}
    (htail : tail.toList = c :: cs) (hascii : ∀ d ∈ tail.toList, d.toNat < 0x80)
    (hstarts : startsOffset (byte c)) (hdigit : isDigit (byte c) = false)
    (h : readOffset? (bytesOf tail.toList) = some o) :
    read? (s.toText ++ tail) = some ⟨s, some o⟩ := by
  have hbytes : (s.toText ++ tail).toUTF8.toList = bytesOf s.date.toText.toList
      ++ (byte 'T' :: (bytesOf s.clockText.toList ++ byte c :: bytesOf cs)) := by
    rw [bytesOf_toUTF8]
    · rw [String.toList_append, htail, Stamp.toText, String.toList_append, String.toList_append]
      simp [bytesOf]
    · intro d hd
      rw [String.toList_append, List.mem_append] at hd
      exact hd.elim toNat_lt_of_mem_stamp (hascii d)
  rw [htail, bytesOf_cons] at h
  have hdate := length_date s.date
  have hlong : 7 ≤ (s.toText ++ tail).length := by
    rw [length_bytesOf, String.length_toList] at hdate
    rw [Stamp.toText, String.length_append, String.length_append, String.length_append, hdate]
    omega
  have hmore (rest : List UInt8) :
      (bytesOf s.date.toText.toList ++ byte 'T' :: rest).length > 10 := by
    rw [List.length_append, hdate, List.length_cons]
    omega
  have hjoint (rest : List UInt8) :
      byteAt (bytesOf s.date.toText.toList ++ byte 'T' :: rest) 10 = byte 'T' := by
    rw [byteAt_append _ hdate (Nat.le_refl 10)]
    rfl
  have hrest (rest : List UInt8) :
      (bytesOf s.date.toText.toList ++ byte 'T' :: rest).drop (10 + charSize (byte 'T'))
        = rest := by
    rw [← List.drop_drop, List.drop_left' hdate]
    rfl
  unfold read?
  simp only [hbytes, guard_of hlong, dateLength?_date, readDate?_date, Option.bind_eq_bind,
    Option.bind_some, hmore, if_true, hjoint, hrest]
  exact readTime?_clock s hstarts hdigit h

end PaneWatch.Time.Iso

namespace PaneWatch.Time

-- ===================================================== both readers

/-- That a text is an ISO text of what a clock shows that is so far ahead of UTC. -/
inductive Spells : String → Stamp → Int → Prop where
  | offset (s : Stamp) {o : Int} (h : o.natAbs < day) :
      Spells (s.toText ++ Moment.offsetText o) s o
  | utc (s : Stamp) : Spells (s.toText ++ "Z") s 0

variable {text : String} {s : Stamp} {o : Int}

/-- A text that spells a stamp and an offset is read as just these. -/
theorem Spells.read? (h : Spells text s o) : Iso.read? text = some ⟨s, some o⟩ := by
  cases h with
  | @offset _ o hday =>
      refine Iso.read?_append s (Iso.toList_offsetText o) (fun _ => Iso.toNat_lt_of_mem_offset)
        ?_ ?_ (Iso.readOffset?_offsetText hday)
      · unfold signOf
        split <;> decide
      · unfold signOf
        split <;> decide
  | utc =>
      have hmark : "Z".toList = ['Z'] := rfl
      have hascii : ∀ c ∈ "Z".toList, c.toNat < 0x80 := by
        rw [hmark]
        exact List.forall_mem_singleton.2 (by decide)
      exact Iso.read?_append s hmark hascii (by decide) (by decide) rfl

/-- A lenient reader takes hours and minutes only. -/
theorem Spells.ofText (h : Spells text s o) (hwhole : IsWholeMinutes o) :
    Lenient.ofText text = .ok ⟨s, some o⟩ := by
  cases h with
  | offset _ hday => exact Lenient.ofText_append s _ (Lenient.offset?_offsetText hday hwhole)
  | utc => exact Lenient.ofText_append s "Z" rfl

end PaneWatch.Time
