/-
The encodings that JSON text is sent in.

A mark at the start tells the encoding. Without one the zeros among the first
bytes tell it, because JSON text starts with ASCII. Half of a surrogate pair
that stands without its other half is let through in every encoding.
-/
import PaneWatch.Json.Reader
import PaneWatch.Text.Utf8

namespace PaneWatch.Json

/-- How characters are sent as bytes. -/
inductive Encoding where
  | utf8
  | utf16 (bigEndian : Bool)
  | utf32 (bigEndian : Bool)
  deriving DecidableEq, Repr

namespace Encoding

/-- The encoding that the zeros among the first bytes tell. -/
def ofZeros : List UInt8 → Encoding
  | a :: b :: c :: d :: _ =>
    if a = 0 then if b = 0 then utf32 true else utf16 true
    else if b = 0 then if c = 0 ∧ d = 0 then utf32 false else utf16 false
    else utf8
  | [a, b] => if a = 0 then utf16 true else if b = 0 then utf16 false else utf8
  | _ => utf8

/-- The encoding of some bytes, and the bytes behind its mark. -/
def detect : List UInt8 → Encoding × List UInt8
  | 0x00 :: 0x00 :: 0xFE :: 0xFF :: rest => (utf32 true, rest)
  | 0xFF :: 0xFE :: 0x00 :: 0x00 :: rest => (utf32 false, rest)
  | 0xFE :: 0xFF :: rest => (utf16 true, rest)
  | 0xFF :: 0xFE :: rest => (utf16 false, rest)
  | 0xEF :: 0xBB :: 0xBF :: rest => (utf8, rest)
  | bytes => (ofZeros bytes, bytes)

/-- The number that bytes make up. -/
def number (bigEndian : Bool) (bytes : List UInt8) : Nat :=
  (if bigEndian then bytes else bytes.reverse).foldl (fun n b => n * 0x100 + b.toNat) 0

/-- Whether a unit is the first half of a surrogate pair. -/
def isLead (n : Nat) : Bool := 0xD800 ≤ n && n < 0xDC00

/-- Whether a unit is the second half of a surrogate pair. -/
def isTrail (n : Nat) : Bool := 0xDC00 ≤ n && n < 0xE000

/-- The character of a unit, which may be half of a pair. -/
def charOfUnit (n : Nat) : Char :=
  if isLead n || isTrail n then Reader.loneUnit else Char.ofNat n

/-- Takes a character of UTF-8 off some bytes. -/
def takeUtf8? : List UInt8 → Option (Char × List UInt8)
  | [] => none
  | b :: rest =>
    if b < 0x80 then some (Char.ofNat b.toNat, rest)
    else do
      let (n, least, most) ← Text.Utf8.further? b
      let k := Text.Utf8.countFurther n least most rest
      if k = n then return (Text.Utf8.charOf b (rest.take k), rest.drop k)
      else
        -- half of a pair has the form of a character, but a second byte that no character has
        guard (b = 0xED ∧ Text.Utf8.countFurther 2 0xA0 0xBF rest = 2)
        return (Reader.loneUnit, rest.drop 2)

/-- Takes a character of UTF-16 off some bytes. -/
def takeUtf16? (bigEndian : Bool) : List UInt8 → Option (Char × List UInt8)
  | a :: b :: rest =>
    let n := number bigEndian [a, b]
    match rest with
    | c :: d :: rest' =>
      let m := number bigEndian [c, d]
      if isLead n && isTrail m then
        some (Char.ofNat (0x10000 + (n - 0xD800) * 0x400 + (m - 0xDC00)), rest')
      else some (charOfUnit n, rest)
    | _ => some (charOfUnit n, rest)
  | _ => none

/-- Takes a character of UTF-32 off some bytes. -/
def takeUtf32? (bigEndian : Bool) : List UInt8 → Option (Char × List UInt8)
  | a :: b :: c :: d :: rest =>
    let n := number bigEndian [a, b, c, d]
    if n < 0x110000 then some (charOfUnit n, rest) else none
  | _ => none

/-- Takes a character off some bytes. -/
def take? : Encoding → List UInt8 → Option (Char × List UInt8)
  | utf8 => takeUtf8?
  | utf16 bigEndian => takeUtf16? bigEndian
  | utf32 bigEndian => takeUtf32? bigEndian

/-- The characters of some bytes, each of which takes up a byte at least. -/
def decode? (e : Encoding) : Nat → List UInt8 → Option (List Char)
  | _, [] => some []
  | 0, _ => none
  | fuel + 1, bytes => do
    let (c, rest) ← e.take? bytes
    return c :: (← decode? e fuel rest)

end Encoding

/-- The tree that the bytes of a JSON text spell. -/
def ofBytes? (bytes : List UInt8) : Option Json := do
  let (encoding, rest) := Encoding.detect bytes
  ofText? (String.ofList (← encoding.decode? rest.length rest))

end PaneWatch.Json
