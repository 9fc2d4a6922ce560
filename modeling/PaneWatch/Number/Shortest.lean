/-
Decimal text of a number: the fewest digits that read back as the same
number, and of the texts with that many digits the one nearest to it.

For one digit, two digits and so on, the number lies between two neighbours
on the grid of decimals with that many digits. The first grid on which a
neighbour reads back gives the answer; of two that do, the nearer one, and
the even one if both are equally near.
-/
import PaneWatch.Number.Double

namespace PaneWatch.Number

namespace Double

/-- The power of ten just above a positive quotient, by correcting a guess from the
number of digits of both sides. -/
def decimalPoint (num den : Nat) : Int :=
  let guess : Int := (Nat.toDigits 10 num).length - (Nat.toDigits 10 den).length
  let reaches (k : Int) : Bool :=
    if k < 0 then den ≤ num * Nat.pow 10 k.natAbs else den * Nat.pow 10 k.natAbs ≤ num
  if reaches guess then guess + 1 else guess

/-- The digits, as one natural, nearest to `num / den` on the grid of step
`10 ^ exponent`, if they read back as `target`. -/
def onGrid? (target : Double) (num den : Nat) (exponent : Int) : Option Nat :=
  let (n, d) := if exponent < 0 then (num * Nat.pow 10 exponent.natAbs, den)
    else (num, den * Nat.pow 10 exponent.natAbs)
  let below := n / d
  let readsBack (digits : Nat) : Bool := ofDecimal false digits exponent == target
  match readsBack below, readsBack (below + 1) with
  | true, true => some (roundDiv n d)
  | true, false => some below
  | false, true => some (below + 1)
  | false, false => none

/-- Searches the grids of `count`, `count + 1`, … digits, at most `more` of them. -/
def searchGrids (target : Double) (num den : Nat) (point : Int) : Nat → Nat → Nat × Int
  | 0, count => ((onGrid? target num den (point - count)).getD 0, point - count)
  | more + 1, count =>
    match onGrid? target num den (point - count) with
    | some digits => (digits, point - count)
    | none => searchGrids target num den point more (count + 1)

/-- The digits and the power of ten of the shortest decimal that reads back as a
finite positive number. -/
def shortest (x : Double) : Nat × Int :=
  let (num, den) := x.ratio
  let positive := match x with
    | .finite _ m e => .finite false m e
    | other => other
  searchGrids positive num den (decimalPoint num den) 16 1

-- ===================================================== layout

/-- Removes trailing zeros, but not the only digit. -/
def trimZeros (ds : List Char) : List Char :=
  match (ds.reverse.dropWhile (· == '0')).reverse with
  | [] => ['0']
  | kept => kept

/-- An exponent with its sign and at least two digits. -/
def exponentText (e : Int) : List Char :=
  let ds := Nat.toDigits 10 e.natAbs
  (if e < 0 then '-' else '+') :: (if ds.length < 2 then '0' :: ds else ds)

/-- Lays out significant digits whose point stands after `point` of them: with a
point between digits while `-4 < point ≤ 16`, else with an exponent. -/
def layOut (ds : List Char) (point : Int) : List Char :=
  if -4 < point ∧ point ≤ 16 then
    if point ≤ 0 then '0' :: '.' :: List.replicate point.natAbs '0' ++ ds
    else
      let whole := point.natAbs
      if ds.length ≤ whole then ds ++ List.replicate (whole - ds.length) '0' ++ ['.', '0']
      else ds.take whole ++ '.' :: ds.drop whole
  else
    match ds with
    | [] => []
    | [d] => d :: 'e' :: exponentText (point - 1)
    | d :: rest => d :: '.' :: rest ++ 'e' :: exponentText (point - 1)

/-- The text of a number. -/
def toText : Double → String
  | .nan => "nan"
  | .infinite false => "inf"
  | .infinite true => "-inf"
  | .finite s m e =>
    let body :=
      if m = 0 then ['0', '.', '0']
      else
        let (digits, exponent) := shortest (.finite false m e)
        let all := Nat.toDigits 10 digits
        layOut (trimZeros all) (exponent + all.length)
    String.ofList (if s then '-' :: body else body)

end Double

end PaneWatch.Number
