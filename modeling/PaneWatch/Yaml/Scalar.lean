/-
The values that scalars spell.

A plain scalar has the look of its kind, yet may spell no value: a month
thirteen, an hour twenty-five, a number with too many digits. A scalar with
an explicit tag need not even have the look. What then goes wrong depends on
the kind, and only for binary data is it a fault of the text.
-/
import PaneWatch.Value
import PaneWatch.Yaml.Cursor
import PaneWatch.Yaml.Kind
import PaneWatch.Number.Reading
import PaneWatch.Text.Base64

namespace PaneWatch.Yaml.Scalar

open Number (Double)
open Time (Date Stamp Moment)

/-- Gives up because of an accident. -/
def fail {α : Type} (what : Accident) : Except Failure α := .error (.accident what)

/-- A value, or the accident that it is missing. -/
def orElse {α : Type} (what : Accident) (value : Option α) : Except Failure α :=
  value.elim (fail what) .ok

/-- The pieces of a text between colons. -/
def pieces (cs : List Char) : List (List Char) := cs.splitOn ':'

/-- Splits off a sign, which a text must have room for. -/
def splitSign (cs : List Char) : Except Failure (Bool × List Char) :=
  if cs.isEmpty then fail .emptyNumber else .ok (Number.splitSign cs)

-- ===================================================== truth values

/-- The words that mean true. -/
def trueWords : List String := ["yes", "true", "on"]

/-- The words that mean false. -/
def falseWords : List String := ["no", "false", "off"]

/-- The truth value of a word, whatever its case. -/
def bool (cs : List Char) : Except Failure Bool :=
  let word := String.ofList (cs.map Char.toLower)
  if trueWords.contains word then .ok true
  else if falseWords.contains word then .ok false
  else fail .unknownWord

-- ===================================================== numbers

/-- The integer of an unsigned text. -/
def magnitude (cs : List Char) : Except Failure Int :=
  let read (base : Nat) (marker : Char) (cs : List Char) :=
    orElse .noSuchValue (Number.readIntIn? base marker (String.ofList cs))
  match cs with
  | [] => fail .emptyNumber
  | ['0'] => .ok 0
  | '0' :: 'b' :: rest => read 2 'b' rest
  | '0' :: 'x' :: rest => read 16 'x' rest
  | '0' :: _ => read 8 'o' cs
  | _ => do
    let decimal (p : List Char) := orElse .noSuchValue (Number.readInt? (String.ofList p))
    if cs.contains ':' then
      return (← (pieces cs).mapM decimal).foldl (fun n d => n * 60 + d) 0
    decimal cs

/-- The integer of a text. -/
def int (cs : List Char) : Except Failure Int := do
  let (negative, body) ← splitSign (cs.filter (· != '_'))
  let n ← magnitude body
  return if negative then -n else n

/-- The sum of digits of base sixty, the last one first. Every digit is multiplied
and added as a number, so each step rounds. -/
def sumOfSixtieths (sum : Double) (unit : Nat) : List Double → Except Failure Double
  | [] => .ok sum
  | d :: rest => do
    let factor ← orElse .outOfRange (Double.ofInt? unit)
    sumOfSixtieths (sum.add (d.mul factor)) (unit * 60) rest

/-- The number of a text. -/
def float (cs : List Char) : Except Failure Double := do
  let (negative, body) ← splitSign ((cs.filter (· != '_')).map Char.toLower)
  let decimal (p : List Char) := orElse .noSuchValue (Number.readDouble? (String.ofList p))
  let size ←
    if body == ".inf".toList then pure (.infinite false)
    else if body == ".nan".toList then pure .nan
    else if body.contains ':' then do
      sumOfSixtieths (Double.zero false) 1 (← (pieces body).mapM decimal).reverse
    else decimal body
  return if negative then size.neg else size

-- ===================================================== moments

/-- The value of ASCII digits. -/
def natural (cs : List Char) : Nat := Number.ofDigits (cs.map fun c => c.toNat - 0x30)

/-- The microseconds of an offset, which has to be less than a day. -/
def offset (sign : Option Char) (hours minutes : List Char) : Except Failure Int :=
  let size : Int := ((natural hours * 60 + natural minutes) * 60 * Time.second : Nat)
  if Time.day ≤ size then fail .noSuchValue
  else .ok (if sign == some '-' then -size else size)

/-- The date or moment of a text. -/
def timestamp (cs : List Char) : Except Failure Value := do
  let parts ← orElse .shapelessMoment (Kind.splitMoment? (Kind.dropLineFeed cs))
  let date := Date.of? (natural parts.year) (natural parts.month) (natural parts.day)
  match parts.clock with
  | none => return .date (← orElse .noSuchValue date)
  | some (hour, minute, second, fraction) =>
    let zone ← parts.offset.mapM fun (sign, hours, minutes) => offset sign hours minutes
    let kept := fraction.take 6
    let micro := natural kept * Nat.pow 10 (6 - kept.length)
    let stamp := Stamp.of? (← orElse .noSuchValue date) (natural hour) (natural minute)
      (natural second) micro
    return .moment ⟨← orElse .noSuchValue stamp, zone⟩

-- ===================================================== every kind

/-- The bytes of a text. -/
def binary (cs : List Char) : Except Failure (List UInt8) :=
  if cs.all fun c => c.toNat < 0x80 then (Text.Base64.decode? cs).elim (.error .malformed) .ok
  else .error .malformed

/-- The value of a scalar of a kind. A scalar cannot be a mark or of an unknown kind;
what a collection tag on a scalar means is not decided here. -/
def value (kind : Kind) (cs : List Char) : Except Failure Value :=
  match kind with
  | .null => .ok .null
  | .bool => return .bool (← bool cs)
  | .int => return .int (← int cs)
  | .float => return .real (← float cs)
  | .binary => return .bytes (← binary cs)
  | .timestamp => timestamp cs
  | .str => .ok (.text (String.ofList cs))
  | _ => .error .malformed

end PaneWatch.Yaml.Scalar
