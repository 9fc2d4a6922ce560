/-
Reading bytes as UTF-8 text, also where they are none.

The bytes that no character has are taken in pieces: a piece is the longest
start of a character that stands at its place, or a single byte. What is read
for a piece is up to the caller.
-/

namespace PaneWatch.Text.Utf8

/-- How a character goes on behind a first byte that is not ASCII: the number of further
bytes, and the bounds of the second byte. -/
def further? (b : UInt8) : Option (Nat × UInt8 × UInt8) :=
  if b < 0xC2 then none
  else if b < 0xE0 then some (1, 0x80, 0xBF)
  else if b = 0xE0 then some (2, 0xA0, 0xBF)
  else if b = 0xED then some (2, 0x80, 0x9F)
  else if b < 0xF0 then some (2, 0x80, 0xBF)
  else if b = 0xF0 then some (3, 0x90, 0xBF)
  else if b < 0xF4 then some (3, 0x80, 0xBF)
  else if b = 0xF4 then some (3, 0x80, 0x8F)
  else none

/-- How many of so many further bytes stand there. -/
def countFurther : Nat → UInt8 → UInt8 → List UInt8 → Nat
  | n + 1, least, most, b :: rest =>
    if least ≤ b && b ≤ most then countFurther n 0x80 0xBF rest + 1 else 0
  | _, _, _, _ => 0

/-- The character of a first byte and further bytes. -/
def charOf (first : UInt8) (further : List UInt8) : Char :=
  let bits := first.toNat % Nat.pow 2 (6 - further.length)
  Char.ofNat (further.foldl (fun n b => n * 64 + b.toNat % 64) bits)

/-- The text of bytes, with something read for every piece that is no character. -/
def decode (piece : List UInt8 → List Char) : List UInt8 → List Char
  | [] => []
  | b :: rest =>
    if b < 0x80 then Char.ofNat b.toNat :: decode piece rest
    else
      match further? b with
      | none => piece [b] ++ decode piece rest
      | some (n, least, most) =>
        let k := countFurther n least most rest
        let found := rest.take k
        (if k = n then [charOf b found] else piece (b :: found)) ++ decode piece (rest.drop k)
termination_by bytes => bytes.length
decreasing_by
  · simp
  · simp
  · rw [List.length_drop, List.length_cons]
    omega

/-- Reads a piece as the character that stands for what cannot be shown. -/
def replaced (_ : List UInt8) : List Char := [Char.ofNat 0xFFFD]

/-- The bytes of a character. -/
def encodeChar (c : Char) : List UInt8 := (String.singleton c).toUTF8.toList

end PaneWatch.Text.Utf8
