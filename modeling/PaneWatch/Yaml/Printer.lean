/-
YAML text of a plain data tree.

Collections are written in block form, one entry a line, indented by two;
empty ones are written in brackets. A list under a key is not indented any
further. A text is written plain where it reads back as the same text, else
between single quotes, and between double quotes if it holds characters that
have to be escaped or blanks that folding would lose. Lines are folded at
blanks once they are longer than eighty characters.

A `Pen` holds the lines written so far and what stands right before the next
character, which decides whether a blank or a line end is needed.
-/
import PaneWatch.Json
import PaneWatch.Yaml.Kind
import PaneWatch.Yaml.Cursor
import PaneWatch.Number.Shortest

namespace PaneWatch.Yaml

open Number (Double)

-- ===================================================== the pen

/-- Where the next character is written. -/
structure Pen where
  /-- The characters written, the last one first. -/
  written : List Char := []
  /-- How many of them stand on the current line. -/
  column : Nat := 0
  /-- Whether a blank or a line end was written last. -/
  afterBlank : Bool := true
  /-- Whether the line holds nothing but blanks and marks of entries. -/
  inIndent : Bool := true

namespace Pen

/-- The text written. -/
def text (p : Pen) : String := String.ofList p.written.reverse

/-- Writes characters that end no line. -/
def put (p : Pen) (cs : List Char) : Pen :=
  { p with written := cs.reverse ++ p.written, column := p.column + cs.length }

/-- Ends the line. -/
def newLine (p : Pen) : Pen := ⟨'\n' :: p.written, 0, true, true⟩

/-- Goes to a column, on a new line unless only blanks and marks stand before it. -/
def indent (p : Pen) (column : Nat) : Pen :=
  let stays := p.inIndent && (p.column < column || (p.column == column && p.afterBlank))
  let p := if stays then p else p.newLine
  if p.column < column then
    { p.put (List.replicate (column - p.column) ' ') with afterBlank := true }
  else p

/-- Says that text was written last. -/
def inText (p : Pen) : Pen := { p with afterBlank := false, inIndent := false }

/-- Writes a blank unless one stands there. -/
def space (p : Pen) : Pen := if p.afterBlank then p else p.put [' ']

/-- Writes the mark of an entry, behind a blank. -/
def mark (p : Pen) (cs : List Char) : Pen := { p.space.put cs with afterBlank := false }

end Pen

-- ===================================================== scalars

/-- How a scalar is written. -/
inductive Style where
  | plain
  | single
  | double
  deriving DecidableEq, Repr

/-- The greatest length of a line that is not folded. -/
def lineWidth : Nat := 80

/-- The greatest length of a text that can be a key on one line with its value. -/
def maxSimpleKey : Nat := 122

/-- The single quote. -/
def singleQuote : Char := Char.ofNat 0x27

/-- The double quote. -/
def doubleQuote : Char := Char.ofNat 0x22

/-- The backslash. -/
def backslash : Char := Char.ofNat 0x5c

namespace Style

/-- The characters that give the start of a text a meaning. -/
def startMarks : List Char :=
  [0x23, 0x2c, 0x5b, 0x5d, 0x7b, 0x7d, 0x26, 0x2a, 0x21, 0x7c, 0x3e, 0x27, 0x22, 0x25, 0x40,
   0x60].map Char.ofNat

/-- Whether a text starts with a mark of the format. -/
def startsWithMark (cs : List Char) : Bool :=
  let before := cs.take 3
  before == "---".toList || before == "...".toList
    || (match cs with
      | [] => false
      | c :: rest =>
        startMarks.contains c
          || ((c == '?' || c == ':' || c == '-') && isGap (rest.headD endMark)))

/-- Whether a colon before a gap or a comment behind one stands in a text. -/
def holdsMark : List Char → Bool
  | c :: d :: rest =>
    (c == ':' && isGap d) || (isGap c && d == '#') || holdsMark (d :: rest)
  | [c] => c == ':'
  | [] => false

/-- Whether a character can only be written escaped. -/
def needsEscape (c : Char) : Bool := c != '\n' && !(0x20 ≤ c.toNat && c.toNat ≤ 0x7e)

/-- Whether a blank and a line end stand side by side. -/
def mixesBlanks : List Char → Bool
  | c :: d :: rest =>
    (c == ' ' && d == '\n') || (c == '\n' && d == ' ') || mixesBlanks (d :: rest)
  | _ => false

/-- Whether a blank or a line end stands at one of the ends. -/
def hasOuterBlank (cs : List Char) : Bool :=
  let isOuter (c : Char) := c == ' ' || c == '\n'
  cs.head?.any isOuter || cs.getLast?.any isOuter

/-- Whether a text can be written plain without reading as something else. -/
def isPlain (cs : List Char) : Bool :=
  Kind.ofLook cs == .str && !cs.any needsEscape && !cs.contains '\n' && !hasOuterBlank cs
    && !startsWithMark cs && !holdsMark cs

/-- How a text is written. -/
def ofText (cs : List Char) : Style :=
  if isPlain cs then .plain
  else if cs.any needsEscape || mixesBlanks cs then .double
  else .single

/-- How a text is written as a key on one line with its value. -/
def isSimpleKey (cs : List Char) : Bool :=
  !cs.isEmpty && cs.length ≤ maxSimpleKey && !cs.any fun c => isBreak c && c != '\r'

end Style

/-- The characters with an escape of their own. -/
def escapeLetters : List (Nat × Char) :=
  [(0x0, '0'), (0x7, 'a'), (0x8, 'b'), (0x9, 't'), (0xa, 'n'), (0xb, 'v'), (0xc, 'f'),
   (0xd, 'r'), (0x1b, 'e'), (0x22, doubleQuote), (0x5c, backslash), (0x85, 'N'), (0xa0, '_'),
   (0x2028, 'L'), (0x2029, 'P')]

/-- A number in upper case hexadecimal digits of a fixed width. -/
def hexText (width n : Nat) : List Char :=
  let ds := (Nat.toDigits 16 n).map Char.toUpper
  List.replicate (width - ds.length) '0' ++ ds

/-- A character written as an escape. -/
def escape (c : Char) : List Char :=
  let n := c.toNat
  backslash :: match escapeLetters.lookup n with
    | some letter => [letter]
    | none =>
      if n ≤ 0xff then 'x' :: hexText 2 n
      else if n ≤ 0xffff then 'u' :: hexText 4 n
      else 'U' :: hexText 8 n

namespace Pen

/-- Writes blanks, or a new line in place of a single one on a full line. -/
def fold (p : Pen) (folds : Bool) (column count : Nat) : Pen :=
  if folds && count == 1 && lineWidth < p.column then p.indent column
  else p.put (List.replicate count ' ')

/-- Writes the words of a plain text and the blanks between them; `blanks` of them
have been met since the last word. -/
def plainFrom (folds : Bool) (column : Nat) : Nat → Pen → List Char → Pen
  | blanks, p, [] => p.put (List.replicate blanks ' ')
  | blanks, p, c :: rest =>
    if c == ' ' then plainFrom folds column (blanks + 1) p rest
    else
      let p := if blanks = 0 then p else (p.fold folds column blanks).inText
      plainFrom folds column 0 (p.put [c]) rest

/-- What of a text between single quotes waits to be written: a number of blanks or
of line ends. -/
inductive Waiting where
  | nothing
  | blanks (count : Nat)
  | breaks (count : Nat)

/-- Writes what waits. One line end more than there are is written, since a single
one reads as a blank. A blank at the start or the end of the text is never folded. -/
def release (p : Pen) (folds : Bool) (column : Nat) : Waiting → Pen
  | .nothing => p
  | .blanks count => p.fold folds column count
  | .breaks count => (List.replicate (count + 1) ()).foldl (fun p _ => p.newLine) p |>.indent column

/-- Writes a text between single quotes from some character on. -/
def singleFrom (folds : Bool) (column : Nat) (atStart : Bool) : Waiting → Pen → List Char → Pen
  | waiting, p, [] => p.release false column waiting
  | waiting, p, c :: rest =>
    if c == ' ' then
      match waiting with
      | .blanks n => singleFrom folds column atStart (.blanks (n + 1)) p rest
      | _ => singleFrom folds column atStart (.blanks 1) (p.release folds column waiting) rest
    else if c == '\n' then
      match waiting with
      | .breaks n => singleFrom folds column false (.breaks (n + 1)) p rest
      | _ =>
        singleFrom folds column false (.breaks 1)
          (p.release (folds && !atStart) column waiting) rest
    else
      let p := p.release (folds && !atStart) column waiting
      let written := if c == singleQuote then [c, c] else [c]
      singleFrom folds column false .nothing (p.put written) rest

/-- Breaks a text between double quotes, so that its next character is `next`. -/
def breakQuoted (p : Pen) (column : Nat) (next : Char) : Pen :=
  let p := ((p.put [backslash]).indent column).inText
  if next == ' ' then p.put [backslash] else p

/-- Writes a text between double quotes from some character on. `run` holds what has
been met since the last escape or line end, the last character first. -/
def doubleFrom (folds : Bool) (column : Nat) (atStart : Bool) (run : List Char) :
    Pen → List Char → Pen
  | p, [] => p.put run.reverse
  | p, c :: rest =>
    let mayBreak := folds && !atStart && !rest.isEmpty
    if Style.needsEscape c || c == '\n' || c == doubleQuote || c == backslash then
      let p := (p.put run.reverse).put (escape c)
      let p := if mayBreak && lineWidth + 1 < p.column then p.breakQuoted column (rest.headD 'x')
        else p
      doubleFrom folds column false [] p rest
    else if mayBreak && (c == ' ' || run.isEmpty) && lineWidth < p.column + run.length then
      doubleFrom folds column false [c] ((p.put run.reverse).breakQuoted column c) rest
    else doubleFrom folds column false (c :: run) p rest

/-- Writes a scalar in a style. Lines that it is folded into start at a column. -/
def scalar (p : Pen) (style : Style) (folds : Bool) (column : Nat) (cs : List Char) : Pen :=
  match style with
  | .plain =>
    if cs.isEmpty then p else plainFrom folds column 0 p.space.inText cs
  | .single =>
    let p := singleFrom folds column true .nothing (p.mark [singleQuote]).inText cs
    (p.put [singleQuote]).inText
  | .double =>
    let p := doubleFrom folds column true [] (p.mark [doubleQuote]).inText cs
    (p.put [doubleQuote]).inText

-- ===================================================== collections

/-- How far an entry is indented beyond what it belongs to. -/
def indentStep : Nat := 2

/-- A number. One with an exponent has a point too. -/
def realText : Double → String
  | .nan => ".nan"
  | .infinite false => ".inf"
  | .infinite true => "-.inf"
  | x =>
    let cs := x.toText.toList
    if cs.contains '.' then String.ofList cs
    else
      String.ofList (cs.takeWhile (· != 'e') ++ ".0".toList ++ cs.dropWhile (· != 'e'))

/-- Writes the key of an entry and the colon behind it. A key that cannot stand on one
line with its value has a line of its own. -/
def key (p : Pen) (column : Nat) (k : String) : Pen :=
  let cs := k.toList
  let style := Style.ofText cs
  let p := p.indent column
  if Style.isSimpleKey cs then (p.scalar style false (column + indentStep) cs).put [':']
  else
    let p := (p.mark ['?']).scalar style true (column + indentStep) cs
    (p.indent column).mark [':']

mutual

/-- Writes a tree that belongs to something at a column. -/
def tree (column : Nat) (underKey : Bool) : Json → Pen → Pen
  | .null, p => p.scalar .plain true (column + indentStep) "null".toList
  | .bool b, p => p.scalar .plain true (column + indentStep) (if b then "true" else "false").toList
  | .int n, p => p.scalar .plain true (column + indentStep) (toString n).toList
  | .real x, p => p.scalar .plain true (column + indentStep) (realText x).toList
  | .text s, p => p.scalar (Style.ofText s.toList) true (column + indentStep) s.toList
  | .list [], p => (p.mark "[]".toList).inText
  | .list (e :: rest), p =>
    let column := if underKey && !p.inIndent then column else column + indentStep
    items column (e :: rest) p
  | .object [], p => (p.mark "\x7b\x7d".toList).inText
  | .object (m :: rest), p => entries (column + indentStep) (m :: rest) p

/-- Writes the items of a list, each behind a dash. -/
def items (column : Nat) : List Json → Pen → Pen
  | [], p => p
  | j :: rest, p => items column rest (tree column false j ((p.indent column).mark ['-']))

/-- Writes the entries of a mapping. -/
def entries (column : Nat) : List (String × Json) → Pen → Pen
  | [], p => p
  | (k, v) :: rest, p => entries column rest (tree column true v (p.key column k))

end

end Pen

/-- The text of a mapping. -/
def print (members : List (String × Json)) : String :=
  match members with
  | [] => "\x7b\x7d\n"
  | _ => (Pen.entries 0 members {}).newLine.text

end PaneWatch.Yaml
