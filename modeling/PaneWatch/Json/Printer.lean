/-
JSON text of a plain data tree.

The text is ASCII: other characters are written as `\u` and four hexadecimal
digits, a character beyond U+FFFF as two such units. Infinities and NaN are
written by name.
-/
import PaneWatch.Json
import PaneWatch.Number.Shortest
import PaneWatch.Text.Quoted

namespace PaneWatch.Json

open Number (Double)

/-- A sixteen-bit unit by its number. -/
def unitText (n : Nat) : List Char := Char.ofNat 0x5c :: 'u' :: Text.hexDigits 4 n

/-- A character inside a string. -/
def charText (c : Char) : List Char :=
  let n := c.toNat
  if n = 0x22 ∨ n = 0x5c then [Char.ofNat 0x5c, c]
  else if 0x20 ≤ n ∧ n < 0x7f then [c]
  else if n < 0x10000 then unitText n
  else unitText (0xd800 + (n - 0x10000) / 0x400) ++ unitText (0xdc00 + (n - 0x10000) % 0x400)

/-- A string between quotes. -/
def stringText (s : String) : String :=
  let quote := Char.ofNat 0x22
  String.ofList (quote :: s.toList.flatMap charText ++ [quote])

/-- A number. -/
def realText : Double → String
  | .nan => "NaN"
  | .infinite false => "Infinity"
  | .infinite true => "-Infinity"
  | x => x.toText

mutual

/-- The text of a tree. -/
def toText : Json → String
  | .null => "null"
  | .bool b => if b then "true" else "false"
  | .int n => toString n
  | .real x => realText x
  | .text s => stringText s
  | .list elements => "[" ++ ",".intercalate (elementTexts elements) ++ "]"
  | .object members => "\x7b" ++ ",".intercalate (memberTexts members) ++ "\x7d"

/-- The texts of the elements of a list. -/
def elementTexts : List Json → List String
  | [] => []
  | j :: rest => toText j :: elementTexts rest

/-- The texts of the members of an object. -/
def memberTexts : List (String × Json) → List String
  | [] => []
  | (k, v) :: rest => (stringText k ++ ":" ++ toText v) :: memberTexts rest

end

end PaneWatch.Json
