/-
Plain scalars: text without quotes.

A plain scalar ends before a colon that a blank follows and before a comment.
Inside brackets it also ends before a comma, a question mark and a bracket.
Blanks at the end of a line do not count; line ends are folded as between
quotes. A line that is indented too little, or that separates documents, is
not part of the scalar.
-/
import PaneWatch.Yaml.Cursor

namespace PaneWatch.Yaml.Plain

/-- The characters that end a scalar inside brackets. -/
def isFlowEnd (c : Char) : Bool :=
  c == ',' || c == '?' || c == '[' || c == ']' || c.toNat == 0x7b || c.toNat == 0x7d

/-- The characters that make a colon inside brackets an indicator, blanks apart. -/
def isFlowBracket (c : Char) : Bool :=
  c == ',' || c == '[' || c == ']' || c.toNat == 0x7b || c.toNat == 0x7d

/-- The length of the run of ordinary characters at the start of a text. -/
def runLength (inFlow : Bool) : List Char → Nat
  | [] => 0
  | c :: rest =>
    let next := rest.headD endMark
    let isValueMark := c == ':' && (isGap next || (inFlow && isFlowBracket next))
    if isGap c || isValueMark || (inFlow && isFlowEnd c) then 0
    else runLength inFlow rest + 1

/-- What stands between two runs. -/
structure Gap where
  /-- What the gap is in the text of the scalar; nothing if the scalar ends. -/
  text : List Char
  /-- Whether a line ended. -/
  brokeLine : Bool
  /-- The place behind. -/
  next : Cursor

/-- Reads blanks and line ends behind the first line end of a gap; none if a
separator of documents comes. -/
def breaks : Nat → Cursor → Option (List Char) × Cursor
  | 0, c => (some [], c)
  | fuel + 1, c =>
    let c := c.skip (· == ' ')
    match c.lineBreak with
    | ([], _) => (some [], c)
    | (found, c) =>
      if c.atSeparator then (none, c)
      else
        let (more, c) := breaks fuel c
        (more.map (found ++ ·), c)

/-- Reads what stands between two runs. -/
def gap (c : Cursor) : Gap :=
  let (blanks, c) := c.span (· == ' ')
  match c.lineBreak with
  | ([], _) => ⟨blanks, false, c⟩
  | (first, c) =>
    if c.atSeparator then ⟨[], true, c⟩
    else
      match breaks (c.rest.length + 1) c with
      | (none, c) => ⟨[], true, c⟩
      | (some more, c) =>
        let text :=
          if first != ['\n'] then first ++ more
          else if more.isEmpty then [' '] else more
        ⟨text, true, c⟩

/-- A scalar read so far, whether its last gap ended a line, and the place behind. -/
structure Scalar where
  text : List Char
  brokeLine : Bool
  next : Cursor

/-- Reads runs and gaps. `before` is the gap before the next run, `brokeLine` whether
it ended a line. -/
def runs (inFlow : Bool) (indent : Nat) : Nat → List Char → Bool → Cursor → Scalar
  | 0, _, brokeLine, c => ⟨[], brokeLine, c⟩
  | fuel + 1, before, brokeLine, c =>
    let length := if c.peek == '#' then 0 else runLength inFlow c.rest
    if length = 0 then ⟨[], brokeLine, c⟩
    else
      let run := c.rest.take length
      let g := gap (c.advance length)
      if g.text.isEmpty || g.next.peek == '#' || (!inFlow && g.next.column < indent) then
        ⟨before ++ run, g.brokeLine, g.next⟩
      else
        let more := runs inFlow indent fuel g.text g.brokeLine g.next
        ⟨before ++ run ++ more.text, more.brokeLine, more.next⟩

/-- Reads a scalar. `indent` is the least column of a line that continues it. -/
def scalar (inFlow : Bool) (indent : Nat) (c : Cursor) : Scalar :=
  runs inFlow indent (c.rest.length + 1) [] false c

end PaneWatch.Yaml.Plain
