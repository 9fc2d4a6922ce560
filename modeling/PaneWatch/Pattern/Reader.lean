/-
Patterns read from their text.

A backslash in front of a mark makes it an ordinary character; in front of a
letter it stands for a set of characters, a control or an anchor, and most
letters mean nothing there. Repetition needs something to repeat that is
neither an anchor nor a repetition itself. Options in front of the pattern
hold for all of it, options in front of a group for the group.
-/
import PaneWatch.Failure
import PaneWatch.Pattern

namespace PaneWatch.Pattern

/-- The options that a pattern is read with. -/
structure Options where
  ignoresCase : Bool := false
  /-- Whether lines have starts and ends of their own. -/
  perLine : Bool := false
  /-- Whether a point stands for a line feed too. -/
  pointIsAny : Bool := false

namespace Reader

/-- What was read, and the rest. -/
abbrev Found (α : Type) := α × List Char

/-- Gives up. -/
def fail {α : Type} : Except Failure α := .error .badPattern

/-- The backslash. -/
def backslash : Char := Char.ofNat 0x5c

/-- The opening brace. -/
def openBrace : Char := Char.ofNat 0x7b

/-- The closing brace. -/
def closeBrace : Char := Char.ofNat 0x7d

/-- The counts from which on a repetition is too long. -/
def countLimit : Nat := 4294967295

-- ===================================================== characters

/-- The value of a hexadecimal digit. -/
def hexValue? (c : Char) : Option Nat :=
  let lower := c.toLower
  if c.isDigit then some (c.toNat - 0x30)
  else if 'a' ≤ lower ∧ lower ≤ 'f' then some (lower.toNat - 0x57)
  else none

/-- Whether a character is an octal digit. -/
def isOctal (c : Char) : Bool := '0' ≤ c && c ≤ '7'

/-- Reads a character by exactly so many hexadecimal digits. -/
def codePoint (count : Nat) (cs : List Char) : Except Failure (Found Char) :=
  match (cs.take count).mapM hexValue? with
  | none => fail
  | some ds =>
    let n := ds.foldl (fun n d => 16 * n + d) 0
    if ds.length = count ∧ n ≤ 0x10ffff then .ok (Char.ofNat n, cs.drop count) else fail

/-- Reads a character by its octal digits, the first of which is given. -/
def octal (first : Char) (cs : List Char) : Except Failure (Found Char) :=
  let ds := (cs.take 2).takeWhile isOctal
  let n := (first :: ds).foldl (fun n d => 8 * n + (d.toNat - 0x30)) 0
  if n ≤ 0xff then .ok (Char.ofNat n, cs.drop ds.length) else fail

/-- The controls by their letters. -/
def controls : List (Char × Nat) :=
  [('a', 0x7), ('b', 0x8), ('f', 0xc), ('n', 0xa), ('r', 0xd), ('t', 0x9), ('v', 0xb)]

/-- The named sets by their letters. -/
def sets : List (Char × Item) :=
  [('d', .named false .digit), ('D', .named true .digit), ('s', .named false .blank),
   ('S', .named true .blank), ('w', .named false .word), ('W', .named true .word)]

/-- The anchors by their letters. -/
def anchors : List (Char × Anchor) :=
  [('A', .textStart), ('Z', .textEnd), ('b', .wordEdge), ('B', .noWordEdge)]

/-- Reads what stands behind a backslash as an item. -/
def escapedItem (inClass : Bool) : List Char → Except Failure (Found Item)
  | [] => fail
  | c :: rest =>
    match sets.lookup c, controls.lookup c with
    | some item, _ => .ok (item, rest)
    | none, some n => .ok (.one (Char.ofNat n), rest)
    | none, none =>
      let one (r : Except Failure (Found Char)) : Except Failure (Found Item) :=
        r.map fun (d, rest) => (.one d, rest)
      if c == 'x' then one (codePoint 2 rest)
      else if c == 'u' then one (codePoint 4 rest)
      else if c == 'U' then one (codePoint 8 rest)
      else if c == '0' || (inClass && isOctal c) then one (octal c rest)
      else if c.isDigit then
        match rest with
        | d :: e :: _ =>
          if isOctal c && isOctal d && isOctal e then one (octal c rest) else fail
        | _ => fail
      else if c.isAlpha then fail
      else .ok (.one c, rest)

/-- Reads one end of a range, or an item alone. -/
def classItem : List Char → Except Failure (Found Item)
  | [] => fail
  | c :: rest => if c == backslash then escapedItem true rest else .ok (.one c, rest)

/-- Reads the items of a class up to its closing bracket. A bracket right at the start
is an item. -/
def classItems : Nat → List Item → List Char → Except Failure (Found (List Item))
  | 0, _, _ => fail
  | fuel + 1, items, cs =>
    match items, cs with
    | _ :: _, ']' :: rest => .ok (items.reverse, rest)
    | _, _ => do
      let (item, rest) ← classItem cs
      match rest with
      | '-' :: ']' :: rest => return ((.one '-' :: item :: items).reverse, rest)
      | '-' :: rest =>
        let (last, rest) ← classItem rest
        match item, last with
        | .one a, .one b =>
          if b < a then fail else classItems fuel (.range a b :: items) rest
        | _, _ => fail
      | _ => classItems fuel (item :: items) rest

/-- Reads a class behind its opening bracket. -/
def charClass (o : Options) (cs : List Char) : Except Failure (Found Pattern) := do
  let (isNegated, cs) := match cs with
    | '^' :: rest => (true, rest)
    | _ => (false, cs)
  let (items, rest) ← classItems (cs.length + 1) [] cs
  return (.char ⟨items, isNegated, o.ignoresCase⟩, rest)

/-- A character that stands for itself. -/
def literal (o : Options) (c : Char) : Pattern := .char ⟨[.one c], false, o.ignoresCase⟩

/-- Reads what stands behind a backslash. -/
def escaped (o : Options) (cs : List Char) : Except Failure (Found Pattern) := do
  match cs.head?.bind fun c => anchors.lookup c with
  | some a => return (.at_ a, cs.tail)
  | none =>
    let (item, rest) ← escapedItem false cs
    return (.char ⟨[item], false, o.ignoresCase⟩, rest)

/-- The characters that a point stands for. -/
def point (o : Options) : Pattern :=
  .char (if o.pointIsAny then ⟨[], true, false⟩ else ⟨[.one '\n'], true, false⟩)

-- ===================================================== repetition

/-- Reads a count of repetitions. -/
def count (ds : List Char) : Except Failure Nat :=
  let n := ds.foldl (fun n d => 10 * n + (d.toNat - 0x30)) 0
  if countLimit ≤ n then .error (.accident .outOfRange) else .ok n

/-- Reads the bounds of a repetition behind their opening brace. There are none if the
brace stands for itself. -/
def bounds? (cs : List Char) : Except Failure (Option ((Nat × Option Nat) × List Char)) := do
  if cs.head? == some closeBrace then return none
  let low := cs.takeWhile Char.isDigit
  let rest := cs.dropWhile Char.isDigit
  let (high, rest) := match rest with
    | ',' :: rest => (rest.takeWhile Char.isDigit, rest.dropWhile Char.isDigit)
    | _ => (low, rest)
  match rest with
  | c :: rest =>
    if c != closeBrace then return none
    let least ← if low.isEmpty then pure 0 else count low
    let most ← if high.isEmpty then pure none else some <$> count high
    if most.any (· < least) then fail
    return some ((least, most), rest)
  | [] => return none

/-- The repetition of the item read last. -/
def repeatLast (bounds : Nat × Option Nat) : List Pattern → Except Failure (List Pattern)
  | [] | .at_ _ :: _ | .repeated .. :: _ | .atomic _ :: _ => fail
  | p :: items => .ok (.repeated bounds.1 bounds.2 false p :: items)

/-- Reads the mark behind a repetition. A question mark asks for few repetitions first. A plus
sign settles each repetition, and how many there are, by the match that is found first. -/
def withMark (items : List Pattern) (cs : List Char) : Found (List Pattern) :=
  match items, cs with
  | .repeated least most _ p :: items, '?' :: rest => (.repeated least most true p :: items, rest)
  | .repeated least most _ p :: items, '+' :: rest =>
    (.atomic (.repeated least most false (.atomic p)) :: items, rest)
  | _, _ => (items, cs)

-- ===================================================== options and groups

/-- The option of a letter, set or cleared. -/
def Options.set? (o : Options) (on : Bool) (c : Char) : Option Options :=
  if c == 'i' then some { o with ignoresCase := on }
  else if c == 'm' then some { o with perLine := on }
  else if c == 's' then some { o with pointIsAny := on }
  else if c == 'u' && on then some o
  else none

/-- Sets or clears options. -/
def Options.setAll? (o : Options) (on : Bool) (cs : List Char) : Option Options :=
  cs.foldlM (fun o c => Options.set? o on c) o

/-- The options in front of a pattern that hold for all of it, and the rest. Comments
may stand between them. -/
def leadingOptions : Nat → Options → List Char → Options × List Char
  | 0, o, cs => (o, cs)
  | fuel + 1, o, cs =>
    match cs with
    | '(' :: '?' :: '#' :: rest =>
      match rest.dropWhile (· != ')') with
      | ')' :: rest => leadingOptions fuel o rest
      | _ => (o, cs)
    | '(' :: '?' :: rest =>
      let letters := rest.takeWhile Char.isAlpha
      match rest.drop letters.length, Options.setAll? o true letters with
      | ')' :: rest, some o' =>
        if letters.isEmpty then (o, cs) else leadingOptions fuel o' rest
      | _, _ => (o, cs)
    | _ => (o, cs)

/-- Whether a text can be the name of a group. -/
def isGroupName (cs : List Char) : Bool :=
  !cs.isEmpty && cs.all Text.isWord && !(cs.head?.any Text.isDecimal)

/-- Reads the options of a group behind its question mark, up to its content. -/
def groupOptions (o : Options) (cs : List Char) : Except Failure (Found Options) :=
  let on := cs.takeWhile Char.isAlpha
  let rest := cs.drop on.length
  let off := match rest with
    | '-' :: rest => rest.takeWhile Char.isAlpha
    | _ => []
  let rest := if rest.head? == some '-' then rest.drop (off.length + 1) else rest
  let isClean := on.all (!off.contains ·) && !(off.isEmpty && cs.drop on.length != rest)
  match rest, Options.setAll? o true on >>= fun o => Options.setAll? o false off with
  | ':' :: rest, some o => if isClean then .ok (o, rest) else fail
  | _, _ => fail

/-- Reads the start of a group behind its opening bracket: the options for it, unless it
is a comment, and whether the group is atomic. -/
def groupStart (o : Options) : List Char → Except Failure (Found (Option (Options × Bool)))
  | '?' :: '#' :: rest =>
    match rest.dropWhile (· != ')') with
    | ')' :: rest => .ok (none, rest)
    | _ => fail
  | '?' :: '>' :: rest => .ok (some (o, true), rest)
  | '?' :: 'P' :: '<' :: rest =>
    let name := rest.takeWhile (· != '>')
    if isGroupName name && (rest.drop name.length).head? == some '>' then
      .ok (some (o, false), rest.drop (name.length + 1))
    else fail
  | '?' :: rest => (groupOptions o rest).map fun (o, rest) => (some (o, false), rest)
  | cs => .ok (some (o, false), cs)

mutual

/-- Reads patterns between bars, up to a closing bracket or the end. -/
def ways : Nat → Options → List Char → Except Failure (Found (List Pattern))
  | 0, _, _ => fail
  | fuel + 1, o, cs => do
    let (parts, rest) ← parts fuel o [] cs
    match rest with
    | '|' :: rest =>
      let (more, rest) ← ways fuel o rest
      return (.sequence parts :: more, rest)
    | _ => return ([.sequence parts], rest)

/-- Reads patterns in a row, up to a bar, a closing bracket or the end. `items` holds
those read, the last one first. -/
def parts : Nat → Options → List Pattern → List Char → Except Failure (Found (List Pattern))
  | 0, _, _, _ => fail
  | _ + 1, _, items, [] => .ok (items.reverse, [])
  | fuel + 1, o, items, c :: rest =>
    let add (r : Except Failure (Found Pattern)) : Except Failure (Found (List Pattern)) := do
      let (p, rest) ← r
      parts fuel o (p :: items) rest
    let repeated (bounds : Nat × Option Nat) (rest : List Char) :
        Except Failure (Found (List Pattern)) := do
      let (items, rest) := withMark (← repeatLast bounds items) rest
      parts fuel o items rest
    if c == '|' || c == ')' then .ok (items.reverse, c :: rest)
    else if c == backslash then add (escaped o rest)
    else if c == '[' then add (charClass o rest)
    else if c == '.' then add (.ok (point o, rest))
    else if c == '^' then add (.ok (.at_ (if o.perLine then .lineStart else .textStart), rest))
    else if c == '$' then
      add (.ok (.at_ (if o.perLine then .lineEnd else .lastLineEnd), rest))
    else if c == '*' then repeated (0, none) rest
    else if c == '+' then repeated (1, none) rest
    else if c == '?' then repeated (0, some 1) rest
    else if c == openBrace then do
      match ← bounds? rest with
      | some (bounds, rest) => repeated bounds rest
      | none => add (.ok (literal o c, rest))
    else if c == '(' then do
      match ← groupStart o rest with
      | (none, rest) => parts fuel o items rest
      | (some (o', isAtomic), rest) =>
        match ← ways fuel o' rest with
        | (ps, ')' :: rest) =>
          -- a choice of one can be repeated, which a settled repetition cannot
          add (.ok (if isAtomic then .choice [.atomic (.choice ps)] else .choice ps, rest))
        | _ => fail
    else add (.ok (literal o c, rest))

end

end Reader

/-- The pattern that a text spells. -/
def ofText (text : String) : Except Failure Pattern :=
  let cs := text.toList
  let (o, cs) := Reader.leadingOptions (cs.length + 1) {} cs
  match Reader.ways (2 * cs.length + 2) o cs with
  | .ok (ps, []) => .ok (.choice ps)
  | .ok _ => .error .badPattern
  | .error f => .error f

end PaneWatch.Pattern
