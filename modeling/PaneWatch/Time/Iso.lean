/-
Reading ISO 8601 text: a calendar or week date, optionally followed by any
one character and a time of day, which may end in an offset from UTC.

The date has its fields with or without dashes, the time its fields with or
without colons; a fraction of a second follows a point or a comma and keeps six
digits. The separator of date and time can be any character, so its position
is found from the shape of the date alone. Text is read as bytes, a zero byte
standing for the end.
-/
import PaneWatch.Time.Stamp

namespace PaneWatch.Time.Iso

-- ===================================================== bytes

/-- The byte at a position; zero behind the end. -/
def byteAt (bs : List UInt8) (i : Nat) : UInt8 := bs.getD i 0

/-- Whether a byte is an ASCII digit. -/
def isDigit (b : UInt8) : Bool := 0x30 ≤ b && b ≤ 0x39

/-- The byte of an ASCII character. -/
def byte (c : Char) : UInt8 := c.toNat.toUInt8

/-- Reads exactly so many digits. -/
def readDigits? : Nat → List UInt8 → Option (Nat × List UInt8)
  | 0, bs => some (0, bs)
  | _ + 1, [] => none
  | n + 1, b :: bs => do
    guard (isDigit b)
    let (low, rest) ← readDigits? n bs
    return ((b.toNat - 0x30) * Nat.pow 10 n + low, rest)

/-- The rest behind one expected byte. -/
def expect? (c : Char) : List UInt8 → Option (List UInt8)
  | b :: bs => if b = byte c then some bs else none
  | [] => none

-- ===================================================== the date

/-- The length of the date at the start of a text of at least seven bytes. A week
date with dashes that is followed by `-` and digits is taken to end before
them, as in `2024-W01-12`. -/
def dateLength? (bs : List UInt8) : Option Nat :=
  let size := bs.length
  if size = 7 then some 7
  else if byteAt bs 4 = byte '-' then
    if byteAt bs 5 = byte 'W' then
      if size < 8 then none
      else if size > 8 ∧ byteAt bs 8 = byte '-' then
        if size = 9 then none
        else if size > 10 ∧ isDigit (byteAt bs 10) then some 8
        else some 10
      else some 8
    else some 10
  else if byteAt bs 4 = byte 'W' then
    let run := 7 + ((bs.drop 7).takeWhile isDigit).length
    if run < 9 then some run else if run % 2 = 0 then some 7 else some 8
  else some 8

/-- The day number of the Monday that starts the first week of a year: the week
with the first Thursday. -/
def firstMonday (year : Nat) : Int :=
  let first : Int := daysBeforeYear year + 1
  let weekday : Int := (first + 6) % 7
  let monday := first - weekday
  if weekday > 3 then monday + 7 else monday

/-- The number of weeks of a year. -/
def weekCount (year : Nat) : Nat :=
  let weekday := (daysBeforeYear year + 7) % 7
  if weekday = 3 ∨ (weekday = 2 ∧ isLeap year) then 53 else 52

/-- The date of a day of a week of a year. -/
def ofWeek? (year week weekday : Nat) : Option Date :=
  if 1 ≤ year ∧ year ≤ maxYear ∧ 1 ≤ week ∧ week ≤ weekCount year ∧ 1 ≤ weekday ∧ weekday ≤ 7 then
    let n := firstMonday year + (week - 1) * 7 + (weekday - 1)
    if h : 1 ≤ n ∧ n ≤ calendarDays then some (Date.ofOrdinal n.toNat (by omega)) else none
  else none

/-- Reads a date that takes up `length` bytes. -/
def readDate? (bs : List UInt8) (length : Nat) : Option Date := do
  let (year, rest) ← readDigits? 4 bs
  let dashed := byteAt rest 0 = byte '-'
  let rest := if dashed then rest.drop 1 else rest
  if byteAt rest 0 = byte 'W' then
    let (week, rest) ← readDigits? 2 (rest.drop 1)
    if bs.length - rest.length < length then
      let rest ← if dashed then expect? '-' rest else some rest
      let (weekday, _) ← readDigits? 1 rest
      ofWeek? year week weekday
    else ofWeek? year week 1
  else
    let (month, rest) ← readDigits? 2 rest
    let rest ← if dashed then expect? '-' rest else some rest
    let (day, rest) ← readDigits? 2 rest
    guard (bs.length - rest.length = length)
    Date.of? year month day

-- ===================================================== the time

/-- Hours, minutes, seconds and microseconds as written. -/
structure Clock where
  hour : Nat := 0
  minute : Nat := 0
  second : Nat := 0
  micro : Nat := 0

/-- Reads a fraction of `length` digits behind its mark. The flag tells whether
nothing but digits follows the six that are kept. -/
def readFraction? (bs : List UInt8) (length : Nat) : Option (Nat × Bool) := do
  let kept := min length 6
  let (n, rest) ← readDigits? kept bs
  let rest := rest.dropWhile isDigit
  return (if kept = 0 then 0 else n * Nat.pow 10 (6 - kept), byteAt rest 0 = 0)

/-- Reads the two-digit fields of a clock that takes up `length` bytes. `fields`
counts the fields that may still come, `colons` tells whether they are
separated. The result holds the fields read, and whether the text ends with
the clock. -/
def readFields? (colons : Bool) : Nat → List UInt8 → Nat → Option (List Nat × Nat × Bool)
  | 0, _, _ => none
  | fields + 1, bs, length => do
    let (n, rest) ← readDigits? 2 bs
    let next := byteAt rest 0
    let colons := if fields = 2 then next = byte ':' else colons
    if length ≤ 3 then return ([n], 0, next = 0)
    let fraction (rest : List UInt8) (length : Nat) : Option (List Nat × Nat × Bool) := do
      let (micro, ends) ← readFraction? rest length
      return ([n], micro, ends)
    if colons ∧ next = byte ':' then
      if fields = 0 then fraction (rest.drop 1) (length - 3)
      else
        let (more, micro, ends) ← readFields? colons fields (rest.drop 1) (length - 3)
        return (n :: more, micro, ends)
    else if next = byte '.' ∨ next = byte ',' then fraction (rest.drop 1) (length - 3)
    else if colons then none
    else if fields = 0 then fraction rest (length - 2)
    else
      let (more, micro, ends) ← readFields? colons fields rest (length - 2)
      return (n :: more, micro, ends)

/-- Reads a clock that takes up `length` bytes. -/
def readClock? (bs : List UInt8) (length : Nat) : Option (Clock × Bool) := do
  let (fields, micro, ends) ← readFields? true 3 bs length
  return ({ hour := fields.getD 0 0, minute := fields.getD 1 0, second := fields.getD 2 0
            micro }, ends)

/-- Whether a byte starts an offset. -/
def startsOffset (b : UInt8) : Bool := b = byte '+' || b = byte '-' || b = byte 'Z'

/-- Reads an offset from UTC: `Z`, or a sign and a clock below one day. -/
def readOffset? : List UInt8 → Option Int
  | [] => none
  | b :: bs =>
    if b = byte 'Z' then if bs.isEmpty then some 0 else none
    else do
      let (clock, ends) ← readClock? bs bs.length
      guard ends
      let seconds := clock.hour * 3600 + clock.minute * 60 + clock.second
      let size : Int := (seconds * second + clock.micro : Nat)
      guard (size < day)
      return if b = byte '-' then -size else size

/-- Reads a time of day, and the offset that may end it. -/
def readTime? (date : Date) (bs : List UInt8) : Option Moment := do
  let before := 1 + ((bs.drop 1).takeWhile fun b => !startsOffset b).length
  let before := if startsOffset (byteAt bs 0) then 0 else before
  let (clock, ends) ← readClock? bs before
  let stamp ← Stamp.of? date clock.hour clock.minute clock.second clock.micro
  if before = bs.length then
    guard ends
    return ⟨stamp, none⟩
  else
    let offset ← readOffset? (bs.drop before)
    return ⟨stamp, some offset⟩

/-- The number of bytes of the character that starts with a byte. -/
def charSize (b : UInt8) : Nat :=
  if b < 0x80 then 1
  else if b &&& 0xf0 = 0xe0 then 3
  else if b &&& 0xf0 = 0xf0 then 4
  else 2

/-- The moment that a text spells. -/
def read? (text : String) : Option Moment := do
  let bs := text.toUTF8.toList
  guard (7 ≤ text.length)
  let length ← dateLength? bs
  let date ← readDate? bs length
  if bs.length > length then
    readTime? date (bs.drop (length + charSize (byteAt bs length)))
  else return ⟨Stamp.midnight date, none⟩

end PaneWatch.Time.Iso
