/-
Binary floating point numbers of 64 bits, as exact values.

A finite number is a sign, a significand below 2^53 and a power of two. Every
operation is computed exactly on integers and then rounded once, to the
nearest number and to the even one of two that are equally near, so two
numbers are the same value of this type exactly if they have the same bits
(all NaNs taken as one).
-/

namespace PaneWatch.Number

/-- A number of 64 bits. -/
inductive Double where
  /-- Not a number. -/
  | nan
  /-- Beyond every finite number, on one side. -/
  | infinite (negative : Bool)
  /-- The significand times two to the exponent, with a sign. -/
  | finite (negative : Bool) (significand : Nat) (exponent : Int)
  deriving DecidableEq, Repr

/-- The quotient of two naturals rounded to the nearest integer, a half going to
the even one. -/
def roundDiv (num den : Nat) : Nat :=
  let q := num / den
  let r := num % den
  if 2 * r < den then q
  else if den < 2 * r then q + 1
  else q + q % 2

namespace Double

/-- The least exponent of a finite number. -/
def minExponent : Int := -1074

/-- The greatest exponent of a finite number. -/
def maxExponent : Int := 971

/-- Zero with a sign. -/
def zero (negative : Bool) : Double := .finite negative 0 minExponent

/-- The numerator and denominator of `num / den / 2 ^ e`. -/
def scaleDown (num den : Nat) (e : Int) : Nat × Nat :=
  if e < 0 then (num * Nat.pow 2 e.natAbs, den) else (num, den * Nat.pow 2 e.natAbs)

/-- The exponent at which the quotient has a significand of 53 bits, or the least
exponent if it is too small for that. -/
def exponentFor (num den : Nat) : Int :=
  let guess : Int := (num.log2 : Int) - den.log2 - 52
  let (n, d) := scaleDown num den guess
  max minExponent (if n < d * Nat.pow 2 52 then guess - 1 else guess)

/-- The number nearest to a quotient, with a sign. -/
def ofRatio (negative : Bool) (num den : Nat) : Double :=
  if num = 0 then zero negative
  else
    let e := exponentFor num den
    let (n, d) := scaleDown num den e
    let q := roundDiv n d
    let (q, e) := if q = Nat.pow 2 53 then (Nat.pow 2 52, e + 1) else (q, e)
    if maxExponent < e then .infinite negative else .finite negative q e

/-- The number nearest to `digits * 10 ^ exponent`, with a sign. Powers so large or
so small that the answer does not depend on the digits are not computed. -/
def ofDecimal (negative : Bool) (digits : Nat) (exponent : Int) : Double :=
  if digits = 0 then zero negative
  else
    let size : Int := (Nat.toDigits 10 digits).length + exponent
    if 400 < size then .infinite negative
    else if size < -400 then zero negative
    else if exponent < 0 then ofRatio negative digits (Nat.pow 10 exponent.natAbs)
    else ofRatio negative (digits * Nat.pow 10 exponent.natAbs) 1

/-- The number nearest to an integer, unless the integer is too large for one. -/
def ofInt? (n : Int) : Option Double :=
  match ofRatio (n < 0) n.natAbs 1 with
  | .finite s m e => some (.finite s m e)
  | _ => none

-- ===================================================== exact values

/-- The integer `significand * 2 ^ (exponent - base)` of a finite number, for a base
not above its exponent. -/
def scaledInt (negative : Bool) (significand : Nat) (exponent base : Int) : Int :=
  let n : Int := significand * Nat.pow 2 (exponent - base).natAbs
  if negative then -n else n

/-- How two numbers compare. A NaN compares with nothing; the zeros are equal. -/
def compare? : Double → Double → Option Ordering
  | .nan, _ | _, .nan => none
  | .infinite a, .infinite b => some (if a == b then .eq else if a then .lt else .gt)
  | .infinite a, .finite .. => some (if a then .lt else .gt)
  | .finite .., .infinite b => some (if b then .gt else .lt)
  | .finite s m e, .finite s' m' e' =>
    let base := min e e'
    some (compare (scaledInt s m e base) (scaledInt s' m' e' base))

/-- Whether the first number is less. -/
def lt (a b : Double) : Bool := a.compare? b == some .lt

/-- Whether the first number is less or equal. -/
def le (a b : Double) : Bool := (a.compare? b).any (·.isLE)

/-- Whether two numbers are equal as values. -/
def numEq (a b : Double) : Bool := a.compare? b == some .eq

/-- Whether the number is finite. -/
def isFinite : Double → Bool
  | .finite .. => true
  | _ => false

/-- The integer part of a finite number, toward zero. -/
def truncate : Double → Int
  | .finite s m e =>
    let n : Int := if e < 0 then m / Nat.pow 2 e.natAbs else m * Nat.pow 2 e.natAbs
    if s then -n else n
  | _ => 0

/-- The greatest integer that is not above a finite number. -/
def floor : Double → Int
  | .finite s m e =>
    let n : Int := if s then -m else m
    if e < 0 then n.fdiv (Nat.pow 2 e.natAbs) else n * Nat.pow 2 e.natAbs
  | _ => 0

/-- Whether a finite number is an integer. -/
def isIntegral : Double → Bool
  | .finite _ m e => 0 ≤ e || m % Nat.pow 2 e.natAbs == 0
  | _ => false

/-- The quotient of naturals that a finite number is, its sign apart. -/
def ratio : Double → Nat × Nat
  | .finite _ m e => if e < 0 then (m, Nat.pow 2 e.natAbs) else (m * Nat.pow 2 e.natAbs, 1)
  | _ => (0, 1)

/-- Whether the sign is negative, also of a zero. -/
def isNegative : Double → Bool
  | .nan => false
  | .infinite s => s
  | .finite s _ _ => s

-- ===================================================== arithmetic

/-- The number with the other sign. -/
def neg : Double → Double
  | .nan => .nan
  | .infinite s => .infinite !s
  | .finite s m e => .finite (!s) m e

/-- The product of two numbers, rounded. -/
def mul : Double → Double → Double
  | .finite s m e, .finite s' m' e' =>
    let e'' := e + e'
    let sign := s != s'
    if e'' < 0 then ofRatio sign (m * m') (Nat.pow 2 e''.natAbs)
    else ofRatio sign (m * m' * Nat.pow 2 e''.natAbs) 1
  | .nan, _ | _, .nan => .nan
  | .infinite s, .finite s' m _ => if m = 0 then .nan else .infinite (s != s')
  | .finite s m _, .infinite s' => if m = 0 then .nan else .infinite (s != s')
  | .infinite s, .infinite s' => .infinite (s != s')

/-- The sum of two numbers, rounded. A sum of zero is negative only if both are. -/
def add : Double → Double → Double
  | .finite s m e, .finite s' m' e' =>
    let base := min e e'
    let sum := scaledInt s m e base + scaledInt s' m' e' base
    if sum = 0 then zero (s && s')
    else if base < 0 then ofRatio (sum < 0) sum.natAbs (Nat.pow 2 base.natAbs)
    else ofRatio (sum < 0) (sum.natAbs * Nat.pow 2 base.natAbs) 1
  | .nan, _ | _, .nan => .nan
  | .infinite s, .infinite s' => if s == s' then .infinite s else .nan
  | .infinite s, .finite .. => .infinite s
  | .finite .., .infinite s => .infinite s

/-- What a finite number has beyond its integer part, with its sign. It is exact. -/
def fraction : Double → Double
  | .finite s m e =>
    if e < 0 then ofRatio s (m % Nat.pow 2 e.natAbs) (Nat.pow 2 e.natAbs) else zero s
  | _ => zero false

end Double

end PaneWatch.Number
