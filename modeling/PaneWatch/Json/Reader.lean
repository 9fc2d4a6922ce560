/-
Reading JSON text.

Besides what the standard allows, the names `NaN`, `Infinity` and `-Infinity`
are numbers. A number with a point or an exponent is a real, any other an
integer of any size. Of members with one key the last counts, in the place of
the first. Blanks are space, tab, line feed and return.

A reader returns a value and the text behind it. The recursion is bounded by
the length of the text: every value takes up at least one character. How deep
values are nested is not bounded by anything else.
-/
import PaneWatch.Json
import PaneWatch.Number.Reading

namespace PaneWatch.Json.Reader

open Number (Double)

/-- Drops leading blanks. -/
def skipBlanks (cs : List Char) : List Char :=
  cs.dropWhile fun c => c == ' ' || c == '\t' || c == '\n' || c == '\r'

/-- The value of a hexadecimal digit. -/
def hexValue? (c : Char) : Option Nat :=
  if c.isDigit then some (c.toNat - 0x30)
  else if 'a' ≤ c && c ≤ 'f' then some (c.toNat - 0x57)
  else if 'A' ≤ c && c ≤ 'F' then some (c.toNat - 0x37)
  else none

/-- Reads a unit of four hexadecimal digits. -/
def unit? : List Char → Option (Nat × List Char)
  | a :: b :: c :: d :: rest => do
    let n := [← hexValue? a, ← hexValue? b, ← hexValue? c, ← hexValue? d]
    return (n.foldl (fun n d => 16 * n + d) 0, rest)
  | _ => none

/-- The character that an escape letter stands for. -/
def escapeLetter? (c : Char) : Option Char :=
  if c.toNat == 0x22 || c.toNat == 0x5c || c == '/' then some c
  else if c == 'b' then some (Char.ofNat 8)
  else if c == 'f' then some (Char.ofNat 12)
  else if c == 'n' then some '\n'
  else if c == 'r' then some '\r'
  else if c == 't' then some '\t'
  else none

/-- A character from a unit that is half of a pair without its other half. -/
def loneUnit : Char := Char.ofNat 0xfffd

/-- Reads the unit behind `\u`, and the second unit of a pair. -/
def escapedUnit? (cs : List Char) : Option (Char × List Char) := do
  let (n, rest) ← unit? cs
  if 0xd800 ≤ n ∧ n < 0xdc00 then
    match rest with
    | b :: 'u' :: rest' =>
      if b.toNat = 0x5c then
        let (m, rest'') ← unit? rest'
        if 0xdc00 ≤ m ∧ m < 0xe000 then
          return (Char.ofNat (0x10000 + (n - 0xd800) * 0x400 + (m - 0xdc00)), rest'')
        else return (loneUnit, rest)
      else return (loneUnit, rest)
    | _ => return (loneUnit, rest)
  else if 0xdc00 ≤ n ∧ n < 0xe000 then return (loneUnit, rest)
  else return (Char.ofNat n, rest)

/-- Reads a string behind its opening quote. -/
def string? : Nat → List Char → Option (List Char × List Char)
  | 0, _ | _, [] => none
  | fuel + 1, c :: rest =>
    if c.toNat = 0x22 then some ([], rest)
    else if c.toNat = 0x5c then
      match rest with
      | [] => none
      | e :: rest => do
        let (d, rest) ← if e == 'u' then escapedUnit? rest else (escapeLetter? e).map (·, rest)
        let (ds, rest) ← string? fuel rest
        return (d :: ds, rest)
    else if c.toNat < 0x20 then none
    else (string? fuel rest).map fun (ds, rest) => (c :: ds, rest)

/-- The digits at the start of a text, and what follows them. -/
def spanDigits (cs : List Char) : List Char × List Char :=
  let ds := cs.takeWhile Char.isDigit
  (ds, cs.drop ds.length)

/-- The value of ASCII digits. -/
def digitsValue (ds : List Char) : Nat := Number.ofDigits (ds.map fun c => c.toNat - 0x30)

/-- Reads an exponent with its mark, if one is there. -/
def exponent? : List Char → Option (Int × List Char)
  | c :: rest =>
    if c == 'e' || c == 'E' then
      let (negative, body) := Number.splitSign rest
      match spanDigits body with
      | ([], _) => none
      | (ds, rest) =>
        let n : Int := digitsValue ds
        some (if negative then -n else n, rest)
    else none
  | [] => none

/-- Reads a number. A point or an exponent without digits is not part of it. -/
def number? (cs : List Char) : Option (Json × List Char) := do
  let (negative, body) := match cs with
    | '-' :: rest => (true, rest)
    | _ => (false, cs)
  let (whole, rest) ← match body with
    | '0' :: rest => some (['0'], rest)
    | _ => match spanDigits body with
      | ([], _) => none
      | found => some found
  let (part, rest) := match rest with
    | '.' :: rest' => match spanDigits rest' with
      | ([], _) => ([], rest)
      | found => found
    | _ => ([], rest)
  let exponent := exponent? rest
  let rest := (exponent.map (·.2)).getD rest
  if part.isEmpty && exponent.isNone then
    guard (whole.length ≤ Number.maxIntDigits)
    let n : Int := digitsValue whole
    return (.int (if negative then -n else n), rest)
  else
    let e := (exponent.map (·.1)).getD 0
    return (.real (Double.ofDecimal negative (digitsValue (whole ++ part)) (e - part.length)), rest)

/-- The names of values. -/
def names : List (String × Json) :=
  [("null", .null), ("true", .bool true), ("false", .bool false), ("NaN", .real .nan),
   ("Infinity", .real (.infinite false)), ("-Infinity", .real (.infinite true))]

/-- Reads the name of a value. -/
def name? (cs : List Char) : Option (Json × List Char) :=
  names.findSome? fun (word, value) =>
    if word.toList.isPrefixOf cs then some (value, cs.drop word.length) else none

mutual

/-- Reads a value that starts right here. -/
def value? : Nat → List Char → Option (Json × List Char)
  | 0, _ | _, [] => none
  | fuel + 1, c :: rest =>
    if c.toNat = 0x22 then
      (string? fuel rest).map fun (s, rest) => (.text (String.ofList s), rest)
    else if c == '[' then
      match skipBlanks rest with
      | ']' :: rest => some (.list [], rest)
      | rest => (elements? fuel rest).map fun (es, rest) => (.list es, rest)
    else if c.toNat = 0x7b then
      match skipBlanks rest with
      | d :: rest' =>
        if d.toNat = 0x7d then some (.object [], rest')
        else (members? fuel [] (d :: rest')).map fun (ms, rest) => (.object ms, rest)
      | [] => none
    else (name? (c :: rest)).or (number? (c :: rest))

/-- Reads the elements of a list up to its closing bracket. -/
def elements? : Nat → List Char → Option (List Json × List Char)
  | 0, _ => none
  | fuel + 1, cs => do
    let (v, rest) ← value? fuel cs
    match skipBlanks rest with
    | ',' :: rest => (elements? fuel (skipBlanks rest)).map fun (vs, rest) => (v :: vs, rest)
    | ']' :: rest => some ([v], rest)
    | _ => none

/-- Reads the members of an object up to its closing brace, adding them to those
read before. -/
def members? : Nat → List (String × Json) → List Char → Option (List (String × Json) × List Char)
  | 0, _, _ | _, _, [] => none
  | fuel + 1, before, c :: cs => do
    guard (c.toNat = 0x22)
    let (key, rest) ← string? fuel cs
    match skipBlanks rest with
    | ':' :: rest =>
      let (v, rest) ← value? fuel (skipBlanks rest)
      let all := insert (String.ofList key) v before
      match skipBlanks rest with
      | ',' :: rest => members? fuel all (skipBlanks rest)
      | d :: rest => if d.toNat = 0x7d then some (all, rest) else none
      | [] => none
    | _ => none

end

end PaneWatch.Json.Reader

namespace PaneWatch.Json

/-- The tree that a JSON text spells. -/
def ofText? (text : String) : Option Json :=
  let cs := text.toList
  match Reader.value? (2 * cs.length + 2) (Reader.skipBlanks cs) with
  | some (v, rest) => if (Reader.skipBlanks rest).isEmpty then some v else none
  | none => none

end PaneWatch.Json
