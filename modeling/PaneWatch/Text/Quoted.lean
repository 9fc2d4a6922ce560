/-
Quoted text: one line of printable characters from which the text can be
read back.

A text is put between single quotes, or between double quotes if it holds a
single quote and no double quote. The quote in use and the backslash are
escaped by a backslash; tab, line feed and return have an escape of their
own; any other character that is not printable is written by its code point
in two, four or eight hexadecimal digits. Bytes are quoted the same way with
a leading `b`, and every byte outside printable ASCII takes two digits.
-/
import PaneWatch.Text.Printable

namespace PaneWatch.Text

/-- The last `width` hexadecimal digits of a number, in lower case. -/
def hexDigits : Nat → Nat → List Char
  | 0, _ => []
  | width + 1, n => hexDigits width (n / 16) ++ [Nat.digitChar (n % 16)]

namespace Quoted

/-- The single quote. -/
def single : Char := Char.ofNat 0x27

/-- The double quote. -/
def double : Char := Char.ofNat 0x22

/-- The backslash. -/
def backslash : Char := Char.ofNat 0x5c

/-- The quote that a text is put between. -/
def quoteFor (cs : List Char) : Char :=
  if cs.contains single && !cs.contains double then double else single

/-- A character that is written by its code point. -/
def escapeCode (n : Nat) : List Char :=
  if n < 0x100 then backslash :: 'x' :: hexDigits 2 n
  else if n < 0x10000 then backslash :: 'u' :: hexDigits 4 n
  else backslash :: 'U' :: hexDigits 8 n

/-- The escapes that do not depend on whether a character is printable. -/
def escapeShort? (quote c : Char) : Option (List Char) :=
  if c == quote || c == backslash then some [backslash, c]
  else if c == '\t' then some [backslash, 't']
  else if c == '\n' then some [backslash, 'n']
  else if c == '\r' then some [backslash, 'r']
  else none

/-- One character between quotes. -/
def encodeChar (quote c : Char) : List Char :=
  match escapeShort? quote c with
  | some cs => cs
  | none => if isPrintable c then [c] else escapeCode c.toNat

/-- A text between quotes. -/
def encode (cs : List Char) : List Char :=
  let quote := quoteFor cs
  quote :: cs.flatMap (encodeChar quote) ++ [quote]

/-- Bytes between quotes, marked as bytes. -/
def encodeBytes (bs : List UInt8) : List Char :=
  let cs := bs.map fun b => Char.ofNat b.toNat
  let quote := quoteFor cs
  let one (c : Char) : List Char :=
    match escapeShort? quote c with
    | some e => e
    | none => if 0x20 ≤ c.toNat && c.toNat < 0x7f then [c] else escapeCode c.toNat
  'b' :: quote :: cs.flatMap one ++ [quote]

end Quoted

/-- The quoted form of a text. -/
def quoted (s : String) : String := String.ofList (Quoted.encode s.toList)

end PaneWatch.Text
