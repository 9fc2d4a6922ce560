/-
Scalars between quotes.

Between single quotes only the quote itself is written twice; between double
quotes a backslash starts an escape. Line ends are folded: one becomes a
blank, and of several the first is dropped. Blanks around line ends do not
count. A quoted scalar may not run over a document separator.
-/
import PaneWatch.Yaml.Cursor
import PaneWatch.Json.Reader

namespace PaneWatch.Yaml.Quoted

/-- The characters that end a run of ordinary ones. -/
def isSpecial (c : Char) : Bool :=
  c.toNat == 0x27 || c.toNat == 0x22 || c.toNat == 0x5c || isGap c

/-- The character that a one-letter escape stands for. -/
def escapeLetter? (c : Char) : Option Char :=
  let code := [('0', 0), ('a', 7), ('b', 8), ('t', 9), ('\t', 9), ('n', 10), ('v', 11), ('f', 12),
    ('r', 13), ('e', 27), (' ', 32), ('/', 47), ('N', 0x85), ('_', 0xa0), ('L', 0x2028),
    ('P', 0x2029)].lookup c
  if c.toNat == 0x22 || c.toNat == 0x5c then some c else code.map Char.ofNat

/-- The number of digits of an escape by code point. -/
def escapeDigits? (c : Char) : Option Nat := [('x', 2), ('u', 4), ('U', 8)].lookup c

/-- The character with a code point. Numbers that are no code point cannot be
built; halves of a pair are replaced. -/
def codePoint (n : Nat) : Except Failure Char :=
  if n ≤ 0x10ffff then .ok (if 0xd800 ≤ n ∧ n ≤ 0xdfff then Json.Reader.loneUnit else Char.ofNat n)
  else if n < Nat.pow 2 31 then .error (.accident .noSuchValue)
  else .error (.accident .outOfRange)

/-- Reads the line ends of a fold and the blanks before and after them. -/
def breaks : Nat → Cursor → Except Failure (List Char × Cursor)
  | 0, _ => .error .malformed
  | fuel + 1, c => do
    if c.atSeparator then .error .malformed
    let c := c.skip fun ch => ch == ' ' || ch == '\t'
    match c.lineBreak with
    | ([], _) => return ([], c)
    | (found, c) =>
      let (more, c) ← breaks fuel c
      return (found ++ more, c)

/-- Reads an escape behind its backslash. -/
def escape (c : Cursor) : Except Failure (List Char × Cursor) :=
  let ch := c.peek
  match escapeLetter? ch, escapeDigits? ch with
  | some found, _ => .ok ([found], c.step)
  | none, some count => do
    let c := c.step
    let digits := (c.rest.take count).filterMap Json.Reader.hexValue?
    if digits.length < count then .error .malformed
    let found ← codePoint (digits.foldl (fun n d => 16 * n + d) 0)
    return ([found], c.advance count)
  | none, none =>
    match c.lineBreak with
    | ([], _) => .error .malformed
    | (_, c) => breaks (c.rest.length + 1) c

/-- Reads characters up to a blank, a line end, or the closing quote. -/
def nonBlanks (double : Bool) : Nat → Cursor → Except Failure (List Char × Cursor)
  | 0, _ => .error .malformed
  | fuel + 1, c => do
    let (run, c) := c.span (!isSpecial ·)
    let n := c.peek.toNat
    let goOn (found : List Char) (c : Cursor) : Except Failure (List Char × Cursor) := do
      let (more, c) ← nonBlanks double fuel c
      return (run ++ found ++ more, c)
    if !double && n == 0x27 && (c.peekAt 1).toNat == 0x27 then goOn [c.peek] (c.advance 2)
    else if (double && n == 0x27) || (!double && (n == 0x22 || n == 0x5c)) then
      goOn [c.peek] c.step
    else if double && n == 0x5c then
      let (found, c) ← escape c.step
      goOn found c
    else return (run, c)

/-- Reads blanks, or a line end with all that is folded into it. -/
def blanks (c : Cursor) : Except Failure (List Char × Cursor) := do
  let (run, c) := c.span fun ch => ch == ' ' || ch == '\t'
  if c.peek == endMark then .error .malformed
  match c.lineBreak with
  | ([], _) => return (run, c)
  | (first, c) =>
    let (more, c) ← breaks (c.rest.length + 1) c
    if first != ['\n'] then return (first ++ more, c)
    else return (if more.isEmpty then [' '] else more, c)

/-- Reads the rest of a scalar up to its closing quote. -/
def body (quote : Char) (double : Bool) : Nat → Cursor → Except Failure (List Char × Cursor)
  | 0, _ => .error .malformed
  | fuel + 1, c => do
    if c.peek == quote then return ([], c.step)
    let (gap, c) ← blanks c
    let (run, c) ← nonBlanks double (c.rest.length + 1) c
    let (more, c) ← body quote double fuel c
    return (gap ++ run ++ more, c)

/-- Reads a scalar from its opening quote on. -/
def scalar (c : Cursor) : Except Failure (List Char × Cursor) := do
  let quote := c.peek
  let double := quote.toNat == 0x22
  let (run, c) ← nonBlanks double (c.rest.length + 1) c.step
  let (more, c) ← body quote double (c.rest.length + 1) c
  return (run ++ more, c)

end PaneWatch.Yaml.Quoted
