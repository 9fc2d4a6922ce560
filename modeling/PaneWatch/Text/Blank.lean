/-
Blank characters and trimming.

Three sets count as blank in this library. `isBlank` is the widest: every
space of Unicode, the line and paragraph separators, and the ASCII controls
that end lines or separate records. `isSpace` leaves the four record
separators U+001C to U+001F out. `isByteBlank` is the ASCII part of a byte
string that can hold any encoding.
-/

namespace PaneWatch.Text

/-- The spaces of Unicode and the controls that move to another column or line. -/
def isSpace (c : Char) : Bool :=
  let n := c.toNat
  (0x9 ≤ n && n ≤ 0xd) || n == 0x20 || n == 0x85 || n == 0xa0 || n == 0x1680
    || (0x2000 ≤ n && n ≤ 0x200a) || n == 0x2028 || n == 0x2029 || n == 0x202f
    || n == 0x205f || n == 0x3000

/-- The characters that trimming removes: spaces and the record separators. -/
def isBlank (c : Char) : Bool :=
  isSpace c || (0x1c ≤ c.toNat && c.toNat ≤ 0x1f)

/-- The bytes that are blank whatever the encoding: space, and tab to return. -/
def isByteBlank (b : UInt8) : Bool :=
  b == 0x20 || (0x9 ≤ b && b ≤ 0xd)

/-- The list without the trailing run of elements that satisfy `p`. -/
def dropTrailing {α : Type} (p : α → Bool) (xs : List α) : List α :=
  (xs.reverse.dropWhile p).reverse

/-- The list without the leading and trailing runs of elements that satisfy `p`. -/
def strip {α : Type} (p : α → Bool) (xs : List α) : List α :=
  dropTrailing p (xs.dropWhile p)

/-- The text without blanks at both ends. -/
def trim (s : String) : String := String.ofList (strip isBlank s.toList)

end PaneWatch.Text
