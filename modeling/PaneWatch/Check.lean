/-
Lenient checks of single values.

Numbers, flags and moments may be given as text. A whole real number counts
as an integer, zero and one as flags, a flag as a number. Bounds come after
the type, the upper one first. How those of real numbers are checked is left to
`Bounding`, as it decides what becomes of a NaN.
-/
import PaneWatch.Check.Fault
import PaneWatch.Keyed
import PaneWatch.Value
import PaneWatch.Value.Plain
import PaneWatch.Number.Reading
import PaneWatch.Time.Lenient

namespace PaneWatch.Check

open Number (Double)
open Time (Stamp Moment)

-- ===================================================== text

/-- The text of a value that is text, or bytes that hold text. -/
def textOf? (v : Value) : Option String :=
  match v with
  | .bytes bs => Value.utf8? bs
  | v => v.asText?

/-- Checks for text. -/
def text (v : Value) : Except Cause String :=
  match v, textOf? v with
  | _, some s => .ok s
  | .bytes _, none => .error .notUtf8
  | _, none => .error .notText

/-- Whether a text has an underscore where none may stand: at an end, or next to
another one. -/
def hasLooseUnderscore (cs : List Char) : Bool :=
  cs.head? == some '_' || cs.getLast? == some '_'
    || (cs.zip (cs.drop 1)).any fun (a, b) => a == '_' && b == '_'

/-- The text without blanks at both ends. -/
def trimmed (s : String) : List Char := Text.strip Text.isSpace s.toList

-- ===================================================== integers

/-- The digits of a text without the zeros and underscores in front of them; the last
zero stays if there is nothing else but a point. Zeros may stand before a minus sign, too. -/
def dropZeros : List Char → Option (List Char)
  | '0' :: rest =>
    match rest with
    | [] => some ['0']
    | '.' :: _ => some ('0' :: rest)
    | '_' :: '0' :: more => dropZeros ('0' :: more)
    | '_' :: d :: _ => if d.isDigit || d == '-' || d == '.' then some rest.tail else none
    | ['_'] => none
    | '0' :: more => dropZeros ('0' :: more)
    | d :: _ => if d.isDigit || d == '-' then some rest else none
  | cs => some cs
termination_by cs => cs.length

/-- The text without a point and the zeros behind it, if it ends in them. A point alone stays. -/
def dropPoint (cs : List Char) : List Char :=
  let zeros := (cs.dropWhile (· != '.')).tail
  if !zeros.isEmpty && zeros.all (· == '0') then cs.takeWhile (· != '.') else cs

/-- The integer that a text spells. -/
def integerOfText (s : String) : Except Cause Int := do
  let noInteger {α : Type} : Option α → Except Cause α := (·.elim (.error .noInteger) .ok)
  let cs := trimmed s
  let unsigned ← match cs with
    | '+' :: '-' :: _ => .error .noInteger
    | '+' :: rest => pure rest
    | _ => pure cs
  let body ← noInteger (dropZeros unsigned)
  let body := dropPoint body
  if hasLooseUnderscore body then throw .noInteger
  let digits := body.filter (· != '_')
  if Number.maxIntDigits < digits.length then throw .hugeInteger
  let (negative, ds) := match digits with
    | '-' :: ds => (true, ds)
    | ds => (false, ds)
  if ds.isEmpty || !ds.all Char.isDigit then throw .noInteger
  let n : Int := Number.ofDigits (ds.map fun c => c.toNat - 0x30)
  return if negative then -n else n

/-- The first integer that is too large for 64 bits. -/
def wordBound : Int := 0x8000000000000000

/-- Whether an integer has 64 bits. -/
def isWord (n : Int) : Bool := -wordBound ≤ n && n < wordBound

/-- The integer that a real number is. -/
def integerOfReal (x : Double) : Except Cause Int :=
  if !x.isFinite then .error .notFinite
  else if !x.isIntegral then .error .notWhole
  else
    let n := x.truncate
    if isWord n && n != -wordBound then .ok n else .error .hugeInteger

/-- Checks for an integer. -/
def integer (v : Value) : Except Cause Int :=
  match v with
  | .int n => .ok n
  | .bool b => .ok (if b then 1 else 0)
  | .real x => integerOfReal x
  | .bytes _ | .text _ | .activity _ =>
    (textOf? v).elim (.error .noInteger) integerOfText
  | _ => .error .notInteger

-- ===================================================== real numbers

/-- Reads a decimal number of ASCII digits without underscores. -/
def plainNumber? (cs : List Char) : Option Double :=
  if cs.contains '_' || cs.any fun c => Text.isSpace c || 0x80 ≤ c.toNat then none
  else Number.readDouble? (String.ofList cs)

/-- The number that a text spells. -/
def numberOfText (s : String) : Except Cause Double :=
  match plainNumber? (trimmed s) with
  | some x => .ok x
  | none =>
    let cs := s.toList
    if hasLooseUnderscore cs then .error .noNumber
    else (plainNumber? (cs.filter (· != '_'))).elim (.error .noNumber) .ok

/-- Checks for a number. -/
def number (v : Value) : Except Cause Double :=
  match v with
  | .real x => .ok x
  | .int n => (Double.ofInt? n).elim (.error .notNumber) .ok
  | .bool b => .ok (Double.ofRatio false (if b then 1 else 0) 1)
  | .bytes _ | .text _ | .activity _ =>
    (textOf? v).elim (.error .noNumber) numberOfText
  | _ => .error .notNumber

-- ===================================================== flags

/-- The words for yes, in lower case. -/
def yesWords : List String := ["1", "t", "y", "on", "yes", "true"]

/-- The words for no, in lower case. -/
def noWords : List String := ["0", "f", "n", "no", "off", "false"]

/-- The flag that a text spells. -/
def flagOfText (s : String) : Except Cause Bool :=
  let word := String.ofList (s.toList.map Char.toLower)
  if yesWords.contains word then .ok true
  else if noWords.contains word then .ok false
  else .error .noFlag

/-- The flag that an integer is. -/
def flagOfInt (n : Int) : Except Cause Bool :=
  if n = 0 then .ok false else if n = 1 then .ok true else .error .noFlag

/-- Checks for a flag. -/
def flag (v : Value) : Except Cause Bool :=
  match v with
  | .bool b => .ok b
  | .int n => if isWord n then flagOfInt n else .error .notFlag
  | .real x => match integerOfReal x with
    | .ok n => flagOfInt n
    | .error _ => .error .notFlag
  | .bytes _ | .text _ | .activity _ =>
    (textOf? v).elim (.error .noFlag) flagOfText
  | _ => .error .notFlag

-- ===================================================== moments

/-- Why no moment was read, as a cause. -/
def causeOf : Time.Lenient.Refusal → Cause
  | .noDate => .noDate
  | .noMoment => .noMoment

/-- Checks for a moment. A date is its midnight. -/
def moment (v : Value) : Except Cause Moment :=
  match v with
  | .moment m => .ok m
  | .date d => .ok ⟨Stamp.midnight d, none⟩
  | .int n =>
    if (Double.ofInt? n).isNone then .error .notMoment
    else (Time.Lenient.ofInt n).mapError causeOf
  | .real x => (Time.Lenient.ofDouble x).mapError causeOf
  | .bytes _ | .text _ | .activity _ =>
    match textOf? v with
    | some s => (Time.Lenient.ofText s).mapError causeOf
    | none => .error .noDate
  | _ => .error .notMoment

-- ===================================================== bounds

/-- How a number is checked for being above one bound and not above another. -/
class Bounding where
  within (above most x : Double) : Except Cause Double

/-- The check in use. A NaN is within no bounds. -/
instance : Bounding where
  within above most x :=
    if !x.le most then .error .aboveMost
    else if !above.lt x then .error .tooLow
    else .ok x

/-- An integer between two bounds, both included. -/
def between (least most n : Int) : Except Cause Int :=
  if most < n then .error .aboveMost
  else if n < least then .error .belowLeast
  else .ok n

-- ===================================================== fields

/-- Checks the field of a record; one that is absent has a default. -/
def field {α : Type} (entries : List (Value × Value)) (label : String) (absent : α)
    (check : Value → Checked α) : Checked α :=
  match Value.lookup? label entries with
  | none => .valid absent
  | some v => (check v).under label

/-- Checks an entry of a mapping and adds it to those before it. -/
def addEntry {α : Type} (check : Value → Except Cause α) (before : Checked (Keyed α))
    (e : Value × Value) : Checked (Keyed α) :=
  let label := (textOf? e.1).getD ""
  Keyed.insert <$> before
    <*> ((Checked.ofExcept (text e.1)).under "[key]").under label
    <*> (Checked.ofExcept (check e.2)).under label

/-- Checks a mapping whose keys are texts. Keys that are the same text are one, and
the last value counts. -/
def mapping {α : Type} (check : Value → Except Cause α) : Value → Checked (Keyed α)
  | .map entries => entries.foldl (addEntry check) (.valid {})
  | _ => .invalid [⟨[], .notMapping⟩]

end PaneWatch.Check
