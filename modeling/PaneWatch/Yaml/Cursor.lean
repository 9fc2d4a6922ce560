/-
A place in a YAML text: the characters that follow, and how many characters,
lines and columns lie before.

Behind the last character stands `endMark`, which no text holds. Five
characters end a line; of these the two separators U+2028 and U+2029 are kept
as they are, and all others count as one line feed.
-/
import PaneWatch.Accident

namespace PaneWatch.Yaml

/-- Why a YAML text has no value. -/
inductive Failure where
  /-- The text breaks the rules of the format. -/
  | malformed
  /-- The text is well formed, but a value in it cannot be built. -/
  | accident (what : Accident)
  deriving DecidableEq, Repr

/-- What stands behind the last character. -/
def endMark : Char := Char.ofNat 0

/-- The byte order mark. -/
def byteOrderMark : Char := Char.ofNat 0xfeff

/-- Whether a character ends a line. -/
def isBreak (c : Char) : Bool :=
  c == '\n' || c == '\r' || c.toNat == 0x85 || c.toNat == 0x2028 || c.toNat == 0x2029

/-- Whether a line or the text ends here. -/
def isBreakOrEnd (c : Char) : Bool := isBreak c || c == endMark

/-- Whether a blank, a line end or the end of the text stands here. -/
def isGap (c : Char) : Bool := c == ' ' || c == '\t' || isBreakOrEnd c

/-- Whether a blank that is no tab, a line end or the end of the text stands here. -/
def isTabFreeGap (c : Char) : Bool := c == ' ' || isBreakOrEnd c

/-- Whether a YAML text may hold the character. -/
def isAllowed (c : Char) : Bool :=
  let n := c.toNat
  n == 0x9 || n == 0xa || n == 0xd || (0x20 ≤ n && n ≤ 0x7e) || n == 0x85
    || (0xa0 ≤ n && n ≤ 0xd7ff) || (0xe000 ≤ n && n ≤ 0xfffd) || 0x10000 ≤ n

/-- A place in a text. -/
structure Cursor where
  /-- The characters from here on. -/
  rest : List Char
  /-- The number of characters before. -/
  index : Nat := 0
  /-- The number of lines before. -/
  line : Nat := 0
  /-- The number of characters before on this line, byte order marks apart. -/
  column : Nat := 0

namespace Cursor

/-- The character at a distance. -/
def peekAt (c : Cursor) (distance : Nat) : Char := c.rest.getD distance endMark

/-- The character right here. -/
def peek (c : Cursor) : Char := c.rest.headD endMark

/-- The place behind one character. -/
def step (c : Cursor) : Cursor :=
  match c.rest with
  | [] => c
  | ch :: rest =>
    let ends := isBreak ch && !(ch == '\r' && rest.head? == some '\n')
    if ends then ⟨rest, c.index + 1, c.line + 1, 0⟩
    else ⟨rest, c.index + 1, c.line, if ch == byteOrderMark then c.column else c.column + 1⟩

/-- The place behind some characters. -/
def advance (c : Cursor) : Nat → Cursor
  | 0 => c
  | n + 1 => c.step.advance n

/-- The characters up to the first that fails a test, and the place there. -/
def span (c : Cursor) (p : Char → Bool) : List Char × Cursor :=
  let cs := c.rest.takeWhile p
  (cs, c.advance cs.length)

/-- The place behind all characters that satisfy a test. -/
def skip (c : Cursor) (p : Char → Bool) : Cursor := (c.span p).2

/-- Reads one line end. There is none if the first component is empty. -/
def lineBreak (c : Cursor) : List Char × Cursor :=
  let ch := c.peek
  if !isBreak ch then ([], c)
  else if ch.toNat = 0x2028 ∨ ch.toNat = 0x2029 then ([ch], c.step)
  else if ch == '\r' && c.peekAt 1 == '\n' then (['\n'], c.advance 2)
  else (['\n'], c.step)

/-- Whether three equal marks that end a document stand here. -/
def atSeparator (c : Cursor) : Bool :=
  let marks := c.rest.take 3
  (marks == ['-', '-', '-'] || marks == ['.', '.', '.']) && isGap (c.peekAt 3)

end Cursor

end PaneWatch.Yaml
