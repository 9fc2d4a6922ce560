/-
Tags, names of anchors, and directives.

A tag is written in full between angle brackets, or as a handle and a suffix,
or as a lone exclamation mark. The suffix may hold bytes as a percent sign
and two digits.
-/
import PaneWatch.Yaml.Cursor
import PaneWatch.Yaml.Token
import PaneWatch.Json.Reader
import PaneWatch.Value.Plain

namespace PaneWatch.Yaml.Tag

/-- The characters of handles, anchors and names of directives. -/
def isNameChar (c : Char) : Bool := c.isAlphanum || c == '-' || c == '_'

/-- The characters of the suffix of a tag. -/
def isUriChar (c : Char) : Bool :=
  c.isAlphanum || "-;/?:@&=+$,_.!~*()[]%".contains c || c.toNat == 0x27

/-- Fails unless a condition holds. -/
def require (condition : Bool) : Except Failure Unit :=
  if condition then .ok () else .error .malformed

/-- Reads a run of bytes, each written as a percent sign and two digits. -/
def uriBytes : Nat → Cursor → Except Failure (List UInt8 × Cursor)
  | 0, c => .ok ([], c)
  | fuel + 1, c =>
    if c.peek != '%' then .ok ([], c)
    else
      match Json.Reader.hexValue? (c.peekAt 1), Json.Reader.hexValue? (c.peekAt 2) with
      | some a, some b => do
        let (more, c) ← uriBytes fuel (c.advance 3)
        return ((16 * a + b).toUInt8 :: more, c)
      | _, _ => .error .malformed

/-- Reads the pieces of a suffix. -/
def uriPieces : Nat → Cursor → Except Failure (List Char × Cursor)
  | 0, c => .ok ([], c)
  | fuel + 1, c => do
    let (run, c) := c.span fun ch => isUriChar ch && ch != '%'
    if c.peek != '%' then return (run, c)
    let (bytes, c) ← uriBytes c.rest.length c
    let text ← (Value.utf8? bytes).elim (.error .malformed) .ok
    let (more, c) ← uriPieces fuel c
    return (run ++ text.toList ++ more, c)

/-- Reads the suffix of a tag, which is not empty. -/
def uri (c : Cursor) : Except Failure (List Char × Cursor) := do
  let (text, next) ← uriPieces (c.rest.length + 1) c
  require (isUriChar c.peek)
  return (text, next)

/-- Reads a handle: one exclamation mark, or two around a name that may be empty. -/
def handle (c : Cursor) : Except Failure (List Char × Cursor) := do
  require (c.peek == '!')
  if c.peekAt 1 == ' ' then return (['!'], c.step)
  let (name, c) := c.step.span isNameChar
  require (c.peek == '!')
  return ('!' :: name ++ ['!'], c.step)

/-- Whether an exclamation mark comes before the next blank or line end. -/
def hasHandle (c : Cursor) : Bool :=
  let word := c.step.rest.takeWhile (!isTabFreeGap ·)
  word.contains '!'

/-- Reads a tag from its exclamation mark on. -/
def tag (c : Cursor) : Except Failure (TagText × Cursor) := do
  let ch := c.peekAt 1
  let (found, c) ←
    if ch == '<' then do
      let (suffix, c) ← uri (c.advance 2)
      require (c.peek == '>')
      pure (TagText.mk none suffix, c.step)
    else if isGap ch then pure (TagText.mk none ['!'], c.step)
    else if hasHandle c then do
      let (h, c) ← handle c
      let (suffix, c) ← uri c
      pure (TagText.mk (some h) suffix, c)
    else do
      let (suffix, c) ← uri c.step
      pure (TagText.mk (some ['!']) suffix, c)
  require (isTabFreeGap c.peek)
  return (found, c)

/-- Reads the name of an anchor or an alias behind its mark. -/
def anchorName (c : Cursor) : Except Failure (List Char × Cursor) := do
  let (name, c) := c.step.span isNameChar
  require !name.isEmpty
  require (isGap c.peek || "?:,]%@".contains c.peek || c.peek.toNat == 0x7d || c.peek.toNat == 0x60)
  return (name, c)

-- ===================================================== directives

/-- Reads a decimal number. One with too many digits cannot be built. -/
def number (c : Cursor) : Except Failure (Nat × Cursor) := do
  let (ds, c) := c.span Char.isDigit
  require !ds.isEmpty
  if Number.maxIntDigits < ds.length then throw (.accident .noSuchValue)
  return (Json.Reader.digitsValue ds, c)

/-- Reads a directive from its percent sign on, with the rest of its line. -/
def directive (c : Cursor) : Except Failure (Directive × Cursor) := do
  let (name, c) := c.step.span isNameChar
  require (!name.isEmpty && isTabFreeGap c.peek)
  let (found, c) ←
    if name == "YAML".toList then do
      let (major, c) ← number (c.skip (· == ' '))
      require (c.peek == '.')
      let (_, c) ← number c.step
      require (isTabFreeGap c.peek)
      pure (Directive.version major, c)
    else if name == "TAG".toList then do
      let (h, c) ← handle (c.skip (· == ' '))
      require (c.peek == ' ')
      let (stands, c) ← uri (c.skip (· == ' '))
      require (isTabFreeGap c.peek)
      pure (Directive.tag h stands, c)
    else pure (Directive.other, c.skip (!isBreakOrEnd ·))
  let c := c.skip (· == ' ')
  let c := if c.peek == '#' then c.skip (!isBreakOrEnd ·) else c
  require (isBreakOrEnd c.peek)
  return (found, c.lineBreak.2)

end PaneWatch.Yaml.Tag
