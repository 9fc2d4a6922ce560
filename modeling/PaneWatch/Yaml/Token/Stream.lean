/-
The tokens of a whole text.

The scanner keeps the indentation of the open block collections and, for each
level of brackets, the place where a key may have started: only the colon
behind it shows that it was one, and then the tokens for the key, and for the
block mapping it opens, are put in front of what was read meanwhile. Such a
key has to fit on one line and in 1024 characters; at the indentation of an
open block mapping it also has to be followed by its colon.
-/
import PaneWatch.Yaml.Token.Block
import PaneWatch.Yaml.Token.Plain
import PaneWatch.Yaml.Token.Quoted
import PaneWatch.Yaml.Token.Tag

namespace PaneWatch.Yaml

/-- A place where a key may have started. -/
structure KeyPlace where
  /-- The number of tokens before it. -/
  position : Nat
  /-- Whether only a key can stand there. -/
  required : Bool
  index : Nat
  line : Nat
  column : Nat

/-- The state of the scanner. -/
structure Scanner where
  /-- The place in the text. -/
  cursor : Cursor
  /-- The tokens read so far. -/
  tokens : Array Token := #[]
  /-- The column of the innermost open block collection; -1 outside all. -/
  indent : Int := -1
  /-- The columns of the collections around it. -/
  outer : List Int := []
  /-- The number of open brackets. -/
  flowLevel : Nat := 0
  /-- Whether a key may start right here. -/
  keyAllowed : Bool := true
  /-- The places where a key may have started, by level of brackets. -/
  keyPlaces : List (Nat × KeyPlace) := []
  /-- Whether the end of the text was reached. -/
  done : Bool := false

/-- The most characters of a key without a question mark. -/
def maxKeyLength : Nat := 1024

namespace Scanner

/-- A step of the scanner. -/
abbrev Step := Except Failure Scanner

/-- Appends a token. -/
def push (s : Scanner) (t : Token) : Scanner := { s with tokens := s.tokens.push t }

/-- Puts a token in front of those from a position on. -/
def pushAt (s : Scanner) (position : Nat) (t : Token) : Scanner :=
  { s with tokens := s.tokens.insertIdxIfInBounds position t }

/-- The column of the next character. -/
def column (s : Scanner) : Int := s.cursor.column

-- ===================================================== between tokens

/-- The scanner behind blanks, comments and line ends. Outside brackets a line end
allows a key. -/
def skipToToken : Nat → Scanner → Scanner
  | 0, s => s
  | fuel + 1, s =>
    let c := s.cursor.skip (· == ' ')
    let c := if c.peek == '#' then c.skip (!isBreakOrEnd ·) else c
    match c.lineBreak with
    | ([], _) => { s with cursor := c }
    | (_, c) =>
      skipToToken fuel { s with cursor := c, keyAllowed := s.keyAllowed || s.flowLevel == 0 }

/-- Whether a place can no longer be a key. -/
def isStale (s : Scanner) (k : KeyPlace) : Bool :=
  k.line != s.cursor.line || s.cursor.index - k.index > maxKeyLength

/-- Drops the places that can no longer be keys. -/
def dropStaleKeys (s : Scanner) : Step := do
  if s.keyPlaces.any fun (_, k) => s.isStale k && k.required then .error .malformed
  return { s with keyPlaces := s.keyPlaces.filter fun (_, k) => !s.isStale k }

/-- Closes the block collections that are indented more than a column. -/
def unwind (column : Int) : List Int → Scanner → Scanner
  | [], s => s
  | outer :: rest, s =>
    if s.flowLevel = 0 ∧ column < s.indent then
      unwind column rest { s.push .blockEnd with indent := outer, outer := rest }
    else s

/-- Closes the block collections that a column ends. -/
def unwindTo (s : Scanner) (column : Int) : Scanner := unwind column s.outer s

/-- Opens a block collection at a column that is indented more than the last. -/
def openBlock? (s : Scanner) (column : Int) : Option Scanner :=
  if s.indent < column then some { s with outer := s.indent :: s.outer, indent := column }
  else none

-- ===================================================== places of keys

/-- Forgets the place of a key at this level of brackets. -/
def forgetKey (s : Scanner) : Step :=
  match s.keyPlaces.lookup s.flowLevel with
  | some k =>
    if k.required then .error .malformed
    else .ok { s with keyPlaces := s.keyPlaces.filter (·.1 != s.flowLevel) }
  | none => .ok s

/-- Notes that a key may start here, if one is allowed. -/
def noteKey (s : Scanner) : Step := do
  if !s.keyAllowed then return s
  let s ← s.forgetKey
  let place : KeyPlace :=
    { position := s.tokens.size
      required := s.flowLevel = 0 ∧ s.indent = s.column
      index := s.cursor.index
      line := s.cursor.line
      column := s.cursor.column }
  return { s with keyPlaces := (s.flowLevel, place) :: s.keyPlaces }

-- ===================================================== tokens

/-- Reads the end of the text. -/
def fetchEnd (s : Scanner) : Step := do
  let s ← (s.unwindTo (-1)).forgetKey
  return { s with keyAllowed := false, keyPlaces := [], done := true }

/-- Reads a directive. -/
def fetchDirective (s : Scanner) : Step := do
  let s ← (s.unwindTo (-1)).forgetKey
  let (d, c) ← Tag.directive s.cursor
  return { s with cursor := c, keyAllowed := false }.push (.directive d)

/-- Reads three marks that start or end a document. -/
def fetchSeparator (s : Scanner) (t : Token) : Step := do
  let s ← (s.unwindTo (-1)).forgetKey
  return { s with cursor := s.cursor.advance 3, keyAllowed := false }.push t

/-- Reads an opening bracket. -/
def fetchOpening (s : Scanner) (t : Token) : Step := do
  let s ← s.noteKey
  return { s with cursor := s.cursor.step, keyAllowed := true, flowLevel := s.flowLevel + 1 }.push t

/-- Reads a closing bracket. Beyond the outermost bracket the text is malformed. -/
def fetchClosing (s : Scanner) (t : Token) : Step := do
  let s ← s.forgetKey
  if s.flowLevel = 0 then .error .malformed
  return { s with
    cursor := s.cursor.step, keyAllowed := false, flowLevel := s.flowLevel - 1 }.push t

/-- Reads a comma. -/
def fetchFlowEntry (s : Scanner) : Step := do
  let s ← s.forgetKey
  return { s with cursor := s.cursor.step, keyAllowed := true }.push .flowEntry

/-- Reads the dash before an element. -/
def fetchBlockEntry (s : Scanner) : Step := do
  let s ←
    if s.flowLevel = 0 then
      if s.keyAllowed then
        pure (match s.openBlock? s.column with
          | some s => s.push .blockSequenceStart
          | none => s)
      else .error .malformed
    else pure s
  let s ← s.forgetKey
  return { s with cursor := s.cursor.step, keyAllowed := true }.push .blockEntry

/-- Opens a block mapping here unless one is open; outside brackets a key has to be
allowed. -/
def openMapping (s : Scanner) : Step :=
  if s.flowLevel ≠ 0 then .ok s
  else if s.keyAllowed then
    .ok (match s.openBlock? s.column with
      | some s => s.push .blockMappingStart
      | none => s)
  else .error .malformed

/-- Reads the question mark before a key. -/
def fetchKey (s : Scanner) : Step := do
  let s ← (← s.openMapping).forgetKey
  return { s with cursor := s.cursor.step, keyAllowed := s.flowLevel == 0 }.push .key

/-- Reads the colon before a value. -/
def fetchValue (s : Scanner) : Step := do
  match s.keyPlaces.lookup s.flowLevel with
  | some k =>
    let s := { s with keyPlaces := s.keyPlaces.filter (·.1 != s.flowLevel) }
    let s := s.pushAt k.position .key
    let s :=
      if s.flowLevel = 0 then
        match s.openBlock? k.column with
        | some s => s.pushAt k.position .blockMappingStart
        | none => s
      else s
    return { s with cursor := s.cursor.step, keyAllowed := false }.push .value
  | none =>
    let s ← (← s.openMapping).forgetKey
    return { s with cursor := s.cursor.step, keyAllowed := s.flowLevel == 0 }.push .value

/-- Reads the name of an alias or an anchor. -/
def fetchName (s : Scanner) (t : List Char → Token) : Step := do
  let s ← s.noteKey
  let (name, c) ← Tag.anchorName s.cursor
  return { s with cursor := c, keyAllowed := false }.push (t name)

/-- Reads a tag. -/
def fetchTag (s : Scanner) : Step := do
  let s ← s.noteKey
  let (t, c) ← Tag.tag s.cursor
  return { s with cursor := c, keyAllowed := false }.push (.tag t)

/-- Reads a block scalar. -/
def fetchBlock (s : Scanner) : Step := do
  let s ← s.forgetKey
  let (text, c) ← Block.scalar (max (s.indent + 1) 1).toNat s.cursor
  return { s with cursor := c, keyAllowed := true }.push (.scalar text false)

/-- Reads a quoted scalar. -/
def fetchQuoted (s : Scanner) : Step := do
  let s ← s.noteKey
  let (text, c) ← Quoted.scalar s.cursor
  return { s with cursor := c, keyAllowed := false }.push (.scalar text false)

/-- Reads a plain scalar. -/
def fetchPlain (s : Scanner) : Step := do
  let s ← s.noteKey
  let found := Plain.scalar (s.flowLevel != 0) (s.indent + 1).toNat s.cursor
  return { s with cursor := found.next, keyAllowed := found.brokeLine }.push
    (.scalar found.text true)

/-- The characters that no plain scalar starts with, unless it goes on right behind them. -/
def indicators : List Char :=
  [0x2d, 0x3f, 0x3a, 0x2c, 0x5b, 0x5d, 0x23, 0x26, 0x2a, 0x21, 0x7c, 0x3e, 0x25, 0x40, 0x7b,
   0x7d, 0x27, 0x22, 0x60].map Char.ofNat

/-- Whether a plain scalar can start here. -/
def atPlain (s : Scanner) : Bool :=
  let ch := s.cursor.peek
  (!isGap ch && !indicators.contains ch)
    || (!isGap (s.cursor.peekAt 1) && (ch == '-' || (s.flowLevel == 0 && (ch == '?' || ch == ':'))))

/-- Reads one token; it starts right here. -/
def fetch (s : Scanner) : Step :=
  let c := s.cursor
  let ch := c.peek
  let n := ch.toNat
  let gapFollows := isGap (c.peekAt 1)
  let inFlow := s.flowLevel != 0
  if ch == endMark then s.fetchEnd
  else if ch == '%' && c.column == 0 then s.fetchDirective
  else if ch == '-' && c.column == 0 && c.atSeparator then s.fetchSeparator .documentStart
  else if ch == '.' && c.column == 0 && c.atSeparator then s.fetchSeparator .documentEnd
  else if ch == '[' then s.fetchOpening .flowSequenceStart
  else if n == 0x7b then s.fetchOpening .flowMappingStart
  else if ch == ']' then s.fetchClosing .flowSequenceEnd
  else if n == 0x7d then s.fetchClosing .flowMappingEnd
  else if ch == ',' then s.fetchFlowEntry
  else if ch == '-' && gapFollows then s.fetchBlockEntry
  else if ch == '?' && (inFlow || gapFollows) then s.fetchKey
  else if ch == ':' && (inFlow || gapFollows) then s.fetchValue
  else if ch == '*' then s.fetchName .alias
  else if ch == '&' then s.fetchName .anchor
  else if ch == '!' then s.fetchTag
  else if (ch == '|' || ch == '>') && !inFlow then s.fetchBlock
  else if n == 0x27 || n == 0x22 then s.fetchQuoted
  else if s.atPlain then s.fetchPlain
  else .error .malformed

/-- Moves to the next token and reads it. -/
def next (s : Scanner) : Step := do
  let s := s.skipToToken (s.cursor.rest.length + 1)
  let s ← s.dropStaleKeys
  (s.unwindTo s.column).fetch

/-- The tokens before all places that may yet turn out to be keys. The others cannot be used
before more is read. -/
def settled (s : Scanner) : List Token :=
  let open_ := (s.keyPlaces.filter fun (_, k) => !s.isStale k).map (·.2.position)
  s.tokens.toList.take (open_.foldl min s.tokens.size)

/-- Reads tokens up to the end of the text, or up to the first that cannot be read. -/
def run : Nat → Scanner → Tokens
  | 0, s => ⟨s.settled, some .malformed⟩
  | fuel + 1, s =>
    match s.next with
    | .error why => ⟨s.settled, some why⟩
    | .ok s => if s.done then ⟨s.tokens.toList, none⟩ else run fuel s

end Scanner

/-- The tokens of a text. A byte order mark at its start does not count. -/
def Tokens.ofText (text : List Char) : Tokens :=
  if text.all isAllowed then
    let start : Cursor := ⟨text, 0, 0, 0⟩
    let start := if start.peek == byteOrderMark then start.step else start
    Scanner.run (text.length + 2) { cursor := start }
  else ⟨[], some .malformed⟩

end PaneWatch.Yaml
