/-
Block scalars: lines that keep a common indentation.

The header tells how line ends are treated: `|` keeps them and `>` folds a
single one between two lines that start with no blank into a blank. An
indicator tells what becomes of the line ends at the end: `+` keeps all, `-`
none, and by default there is one. A digit gives the indentation; otherwise
the first line that is not empty does.
-/
import PaneWatch.Yaml.Cursor

namespace PaneWatch.Yaml.Block

/-- What becomes of the line ends at the end of a block. -/
inductive Chomping where
  | strip
  | clip
  | keep
  deriving DecidableEq, Repr

/-- Reads a chomping indicator if one stands here. -/
def chomping? (c : Cursor) : Option (Chomping × Cursor) :=
  if c.peek == '+' then some (.keep, c.step)
  else if c.peek == '-' then some (.strip, c.step)
  else none

/-- Reads an indentation indicator if one stands here; zero is refused. -/
def increment (c : Cursor) : Except Failure (Option Nat × Cursor) :=
  if c.peek.isDigit then
    if c.peek == '0' then .error .malformed else .ok (some (c.peek.toNat - 0x30), c.step)
  else .ok (none, c)

/-- Reads both indicators in either order. -/
def indicators (c : Cursor) : Except Failure (Chomping × Option Nat × Cursor) := do
  let (chomping, amount, c) ← match chomping? c with
    | some (chomping, c) =>
      let (amount, c) ← increment c
      pure (chomping, amount, c)
    | none =>
      let (amount, c) ← increment c
      match amount, chomping? c with
      | some _, some (chomping, c) => pure (chomping, amount, c)
      | _, _ => pure (Chomping.clip, amount, c)
  if isTabFreeGap c.peek then return (chomping, amount, c) else .error .malformed

/-- Reads the rest of a line that may only hold a comment. -/
def ignoredLine (c : Cursor) : Except Failure Cursor := do
  let c := c.skip (· == ' ')
  let c := if c.peek == '#' then c.skip (!isBreakOrEnd ·) else c
  if isBreakOrEnd c.peek then return c.lineBreak.2 else .error .malformed

/-- Reads empty lines before the first line of a block. The number is the widest
indentation met. -/
def leadingLines : Nat → Nat → Cursor → List Char × Nat × Cursor
  | 0, widest, c => ([], widest, c)
  | fuel + 1, widest, c =>
    if c.peek == ' ' then
      let c := c.step
      leadingLines fuel (max widest c.column) c
    else
      match c.lineBreak with
      | ([], _) => ([], widest, c)
      | (found, c) =>
        let (more, widest, c) := leadingLines fuel widest c
        (found ++ more, widest, c)

/-- The place behind blanks, at most at a column. -/
def skipTo (column : Nat) (c : Cursor) : Cursor :=
  let blanks := (c.rest.takeWhile (· == ' ')).length
  c.advance (min blanks (column - c.column))

/-- Reads the line ends of empty lines, up to a line of content. -/
def emptyLines (indent : Nat) : Nat → Cursor → List Char × Cursor
  | 0, c => ([], c)
  | fuel + 1, c =>
    let c := skipTo indent c
    match c.lineBreak with
    | ([], _) => ([], c)
    | (found, c) =>
      let (more, c) := emptyLines indent fuel c
      (found ++ more, c)

/-- Whether a blank stands here. -/
def atBlank (c : Cursor) : Bool := c.peek == ' ' || c.peek == '\t'

/-- Reads the lines of a block. `gap` holds the line ends of the empty lines before. -/
def lines (folded : Bool) (chomping : Chomping) (indent : Nat) :
    Nat → List Char → Cursor → List Char × Cursor
  | 0, _, c => ([], c)
  | fuel + 1, gap, c =>
    let startsDark := !atBlank c
    let (line, c) := c.span (!isBreakOrEnd ·)
    let (lineEnd, c) := c.lineBreak
    let (empty, c) := emptyLines indent (c.rest.length + 1) c
    if c.column = indent ∧ c.peek ≠ endMark then
      let joint :=
        if folded && lineEnd == ['\n'] && startsDark && !atBlank c then
          if empty.isEmpty then [' '] else []
        else lineEnd
      let (more, c) := lines folded chomping indent fuel empty c
      (gap ++ line ++ joint ++ more, c)
    else
      let tail := match chomping with
        | .strip => []
        | .clip => lineEnd
        | .keep => lineEnd ++ empty
      (gap ++ line ++ tail, c)

/-- Reads a block from its header on. `least` is the least indentation it may have. -/
def scalar (least : Nat) (c : Cursor) : Except Failure (List Char × Cursor) := do
  let folded := c.peek == '>'
  let (chomping, amount, c) ← indicators c.step
  let c ← ignoredLine c
  let (indent, empty, c) := match amount with
    | some n =>
      let indent := least + n - 1
      let (empty, c) := emptyLines indent (c.rest.length + 1) c
      (indent, empty, c)
    | none =>
      let (empty, widest, c) := leadingLines (c.rest.length + 1) 0 c
      (max least widest, empty, c)
  if c.column = indent ∧ c.peek ≠ endMark then
    return lines folded chomping indent (c.rest.length + 1) empty c
  else
    return (match chomping with
      | .keep => empty
      | _ => [], c)

end PaneWatch.Yaml.Block
