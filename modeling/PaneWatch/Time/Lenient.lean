/-
Reading moments as lenient data entry does.

A text is a date and a clock with at least hours and minutes, joined by `T`,
`t`, a blank or an underscore, with an optional offset; or a date alone; or
a decimal number without an exponent. A number counts seconds from the start of 1970 in UTC, or
milliseconds if its integer part is beyond 20,000,000,000 on either side.

Year zero can be written but is not in the calendar; it is told apart from
other text that cannot be read.
-/
import PaneWatch.Number.Reading
import PaneWatch.Time.Stamp

namespace PaneWatch.Time.Lenient

open Number (Double)

/-- Why no moment was read. -/
inductive Refusal where
  /-- The text is no date. -/
  | noDate
  /-- It reads as a date and time outside the calendar. -/
  | noMoment
  deriving DecidableEq, Repr

-- ===================================================== text

/-- Reads exactly so many ASCII digits. -/
def digits? : Nat → List Char → Option (Nat × List Char)
  | 0, cs => some (0, cs)
  | _ + 1, [] => none
  | n + 1, c :: cs =>
    if c.isDigit then
      (digits? n cs).map fun (low, rest) => ((c.toNat - 0x30) * Nat.pow 10 n + low, rest)
    else none

/-- The rest behind one expected character. -/
def expect? (c : Char) : List Char → Option (List Char)
  | d :: rest => if d == c then some rest else none
  | [] => none

/-- Year, month and day as written. -/
structure DateText where
  year : Nat
  month : Nat
  day : Nat

/-- Hours down to microseconds as written. -/
structure ClockText where
  hour : Nat
  minute : Nat
  second : Nat := 0
  micro : Nat := 0

/-- The moment of a date, a clock and an offset as they are written, if the calendar has
it. -/
def moment? (d : DateText) (c : ClockText) (offset : Option Int) : Option Moment := do
  let date ← Date.of? d.year d.month d.day
  let stamp ← Stamp.of? date c.hour c.minute c.second c.micro
  return ⟨stamp, offset⟩

/-- Reads `2024-06-15`, year zero included. -/
def date? (cs : List Char) : Option (DateText × List Char) := do
  let (year, rest) ← digits? 4 cs
  let (month, rest) ← digits? 2 (← expect? '-' rest)
  let (day, rest) ← digits? 2 (← expect? '-' rest)
  guard (1 ≤ day && day ≤ monthLength year month)
  return (⟨year, month, day⟩, rest)

/-- Reads the digits of a fraction of a second and keeps six. -/
def fraction? (cs : List Char) : Option (Nat × List Char) :=
  let ds := cs.takeWhile Char.isDigit
  if ds.isEmpty then none
  else
    let kept := (ds.map fun c => c.toNat - 0x30).take 6
    some (Number.ofDigits kept * Nat.pow 10 (6 - kept.length), cs.drop ds.length)

/-- Reads hours and minutes, and seconds with an optional fraction if they follow. -/
def clock? (cs : List Char) : Option (ClockText × List Char) := do
  let (hour, rest) ← digits? 2 cs
  let (minute, rest) ← digits? 2 (← expect? ':' rest)
  guard (hour < 24 && minute < 60)
  match rest with
  | ':' :: rest =>
    let (second, rest) ← digits? 2 rest
    guard (second < 60)
    match rest with
    | '.' :: rest | ',' :: rest =>
      let (micro, rest) ← fraction? rest
      return (⟨hour, minute, second, micro⟩, rest)
    | _ => return (⟨hour, minute, second, 0⟩, rest)
  | _ => return (⟨hour, minute, 0, 0⟩, rest)

/-- Whether a character stands for a minus sign in an offset. -/
def isMinus (c : Char) : Bool := c == '-' || c.toNat == 0x2212

/-- Reads the offset that may end the text: nothing, `Z`, or a sign, hours and minutes. -/
def offset? : List Char → Option (Option Int)
  | [] => some none
  | c :: rest =>
    if c == 'Z' || c == 'z' then if rest.isEmpty then some (some 0) else none
    else if c == '+' || isMinus c then do
      let (hours, rest) ← digits? 2 rest
      let rest := match rest with
        | ':' :: more => more
        | _ => rest
      let (minutes, rest) ← digits? 2 rest
      guard (rest.isEmpty && minutes < 60 && hours < 24)
      let size : Int := ((hours * 60 + minutes) * 60 * second : Nat)
      return some (if isMinus c then -size else size)
    else none

/-- Whether a character may join a date and a clock. -/
def joins (c : Char) : Bool := c == 'T' || c == 't' || c == ' ' || c == '_'

/-- Reads a date and a clock with its offset. The date may lie in year zero. -/
def dateAndClock? (cs : List Char) : Option (DateText × ClockText × Option Int) := do
  match (← date? cs) with
  | (date, c :: rest) =>
    guard (joins c)
    let (clock, rest) ← clock? rest
    return (date, clock, ← offset? rest)
  | _ => none

/-- Reads a date that is the whole text. -/
def dateAlone? (cs : List Char) : Option DateText := do
  match (← date? cs) with
  | (date, []) => return date
  | _ => none

-- ===================================================== numbers

/-- Where numbers stop counting seconds and start counting milliseconds. -/
def watershed : Nat := 20000000000

/-- The start of 1970. -/
def epoch : Stamp := Stamp.midnight ⟨1970, 1, 1⟩

/-- The moment in UTC that some microseconds from the start of 1970 reach. -/
def ofMicros (n : Int) : Except Refusal Moment :=
  match epoch.add? n with
  | some stamp => .ok ⟨stamp, some 0⟩
  | none => .error .noMoment

/-- The moment that some seconds, or milliseconds beyond the watershed, and some
microseconds on top of them count to. -/
def ofCount (n : Int) (micros : Nat) : Except Refusal Moment :=
  ofMicros ((if n.natAbs ≤ watershed then n * 1000000 else n * 1000) + micros)

/-- The moment that an integer counts to. -/
def ofInt (n : Int) : Except Refusal Moment := ofCount n 0

/-- So many millionths of a finite number, rounded to a whole one, a half upward. -/
def millionths (x : Double) : Nat :=
  let (num, den) := (x.mul (Double.ofRatio false 1000000 1)).ratio
  (2 * num + den) / (2 * den)

/-- The moment that a number counts to. Its whole part is rounded down, and what it has
beyond its integer part counts upward from there whatever its sign. -/
def ofDouble (x : Double) : Except Refusal Moment :=
  if x.isFinite then ofCount x.floor (millionths x.fraction) else .error .noMoment

/-- The number of seconds that a number of seconds or milliseconds is. -/
def inSeconds (x : Double) : Double :=
  let (num, den) := x.ratio
  if num ≤ watershed * den then x else Double.ofRatio x.isNegative num (1000 * den)

/-- The moment that a number counts to which is given as text. -/
def ofRealText (x : Double) : Except Refusal Moment :=
  let seconds := inSeconds x
  if seconds.isFinite then
    let whole := seconds.floor
    ofCount whole (millionths (seconds.add (Double.ofRatio (0 < whole) whole.natAbs 1)))
  else .error .noMoment

/-- The digits at the start of a text, and the rest. -/
def spanDigits (cs : List Char) : List Char × List Char :=
  let ds := cs.takeWhile Char.isDigit
  (ds, cs.drop ds.length)

/-- Whether a text is a number with a point, which has digits on one side of it or on both. -/
def isReal (body : List Char) : Bool :=
  let (whole, rest) := spanDigits body
  match rest with
  | '.' :: part => part.all Char.isDigit && !(whole.isEmpty && part.isEmpty)
  | _ => false

/-- Reads a decimal number, which has no exponent. -/
def number? (cs : List Char) : Option (Except Refusal Moment) :=
  let (negative, body) := Number.splitSign cs
  if !body.isEmpty && body.all Char.isDigit then
    let n : Int := Number.ofDigits (body.map fun c => c.toNat - 0x30)
    some (ofInt (if negative then -n else n))
  else if isReal body then (Number.readDecimal? negative body).map ofRealText
  else none

/-- The moment of a date and a clock as they are written. Only year zero is not in the
calendar. -/
def ofFields (d : DateText) (c : ClockText) (offset : Option Int) : Except Refusal Moment :=
  (moment? d c offset).elim (.error .noMoment) .ok

/-- The moment that a text spells. -/
def ofText (text : String) : Except Refusal Moment :=
  let cs := text.toList
  match dateAndClock? cs with
  | some (date, clock, offset) => ofFields date clock offset
  | none =>
    match number? cs with
    | some (.ok m) => .ok m
    | some (.error _) => .error .noDate
    | none =>
      match dateAlone? cs with
      | some date => ofFields date ⟨0, 0, 0, 0⟩ none
      | none => .error .noDate

end PaneWatch.Time.Lenient
