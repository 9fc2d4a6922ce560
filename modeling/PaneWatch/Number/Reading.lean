/-
Numbers read from text.

`readInt?` and `readDouble?` take decimal digits of any script, an optional
sign, single underscores between digits, and spaces at both ends; the latter
also a point, an exponent, and the words for infinity and NaN without regard
to case. `readIntIn?` reads integers of another base.
-/
import PaneWatch.Number.Double
import PaneWatch.Text.Blank
import PaneWatch.Text.Digit

namespace PaneWatch.Number

/-- The value of a list of decimal digits. -/
def ofDigits (ds : List Nat) : Nat := ds.foldl (fun n d => 10 * n + d) 0

/-- The most digits of an integer that is read from text or written as text. -/
def maxIntDigits : Nat := 4300

/-- Whether an integer can be written as text. -/
def hasText (n : Int) : Bool := (Nat.toDigits 10 n.natAbs).length ≤ maxIntDigits

/-- Splits off a leading sign; the first component tells whether it is a minus. -/
def splitSign : List Char → Bool × List Char
  | '-' :: rest => (true, rest)
  | '+' :: rest => (false, rest)
  | rest => (false, rest)

/-- Reads the digits that continue a number, each with or without one underscore
before it. The result is the digits read and the rest. -/
def spanMoreDigits : List Char → List Nat × List Char
  | [] => ([], [])
  | '_' :: c :: rest =>
    match Text.digitValue? c with
    | some d => let (ds, tail) := spanMoreDigits rest; (d :: ds, tail)
    | none => ([], '_' :: c :: rest)
  | c :: rest =>
    match Text.digitValue? c with
    | some d => let (ds, tail) := spanMoreDigits rest; (d :: ds, tail)
    | none => ([], c :: rest)

/-- Reads digits that may have single underscores between them. -/
def spanDigits : List Char → List Nat × List Char
  | [] => ([], [])
  | c :: rest =>
    match Text.digitValue? c with
    | some d => let (ds, tail) := spanMoreDigits rest; (d :: ds, tail)
    | none => ([], c :: rest)

/-- The integer a text spells. -/
def readInt? (s : String) : Option Int :=
  let (negative, body) := splitSign (Text.strip Text.isSpace s.toList)
  match spanDigits body with
  | ([], _) => none
  | (ds, []) =>
    if ds.length > maxIntDigits then none
    else
      let n : Int := ofDigits ds
      some (if negative then -n else n)
  | _ => none

/-- The value of a digit in a base: a decimal digit of any script or an ASCII letter. -/
def digitIn? (base : Nat) (c : Char) : Option Nat := do
  let lower := c.toLower
  let value ← if 'a' ≤ lower ∧ lower ≤ 'z' then some (lower.toNat - 0x57) else Text.digitValue? c
  guard (value < base)
  return value

/-- The integer that a text without underscores spells in a base, with an optional
zero and `marker` in front. -/
def readIntIn? (base : Nat) (marker : Char) (s : String) : Option Int := do
  let (negative, body) := splitSign (Text.strip Text.isSpace s.toList)
  let digits := match body with
    | '0' :: m :: rest => if m.toLower == marker then rest else body
    | _ => body
  guard !digits.isEmpty
  let size : Nat := (← digits.mapM (digitIn? base)).foldl (fun n d => base * n + d) 0
  return if negative then -(size : Int) else size

/-- Whether two lists of characters are the same word when ASCII case is ignored. -/
def sameWord (a b : List Char) : Bool := a.map Char.toLower == b.map Char.toLower

/-- Reads an optional exponent that ends the text. -/
def readExponent? : List Char → Option Int
  | [] => some 0
  | c :: rest =>
    if c == 'e' || c == 'E' then
      let (negative, body) := splitSign rest
      match spanDigits body with
      | ([], _) => none
      | (ds, []) =>
        let n : Int := ofDigits ds
        some (if negative then -n else n)
      | _ => none
    else none

/-- Reads an unsigned decimal number with an optional point and exponent. -/
def readDecimal? (negative : Bool) (body : List Char) : Option Double :=
  let (whole, rest) := spanDigits body
  let (part, rest) := match rest with
    | '.' :: rest' => spanDigits rest'
    | _ => ([], rest)
  if whole.isEmpty && part.isEmpty then none
  else
    (readExponent? rest).map fun e =>
      Double.ofDecimal negative (ofDigits (whole ++ part)) (e - part.length)

/-- The number a text spells. -/
def readDouble? (s : String) : Option Double :=
  let (negative, body) := splitSign (Text.strip Text.isSpace s.toList)
  if sameWord body "inf".toList || sameWord body "infinity".toList then
    some (.infinite negative)
  else if sameWord body "nan".toList then some .nan
  else readDecimal? negative body

end PaneWatch.Number
