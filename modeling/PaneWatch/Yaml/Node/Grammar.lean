/-
The node that the tokens of a text spell.

A text holds at most one document. Values that are left out are empty
scalars. An alias has to follow its anchor, an anchor may be set once, and a
handle of tags has to be known. Each function takes the tokens it needs and
leaves the rest; the recursion is bounded by the number of tokens. A fault
found in the tokens comes before whatever keeps further ones from being read.
-/
import PaneWatch.Yaml.Node
import PaneWatch.Yaml.Token
import PaneWatch.Yaml.Cursor

namespace PaneWatch.Yaml

/-- What is left to read. -/
structure Remainder extends Tokens where
  /-- The anchors set so far. -/
  anchors : List (List Char) := []

namespace Grammar

/-- A reader of tokens that can fail. -/
abbrev Reads (α : Type) := StateT Remainder (Except Failure) α

/-- Gives up. -/
def fail {α : Type} : Reads α := throw .malformed

/-- The next token; none behind the last one. -/
def peek : Reads (Option Token) := do
  match (← get).toTokens with
  | ⟨[], some why⟩ => throw why
  | ⟨tokens, _⟩ => return tokens.head?

/-- Drops the next token. -/
def drop : Reads Unit := modify fun r => { r with tokens := r.tokens.tail }

/-- Whether the next token is one of some. -/
def nextIs (ts : List Token) : Reads Bool := do return (← peek).any ts.contains

/-- Drops the next token if it is the given one. -/
def accept (t : Token) : Reads Bool := do
  if ← nextIs [t] then drop; return true else return false

/-- Drops the next token, which has to be the given one. -/
def expect (t : Token) : Reads Unit := do
  if !(← accept t) then fail

-- ===================================================== properties

/-- The handles of tags that need no directive. -/
def defaultHandles : List (List Char × List Char) :=
  [(['!'], ['!']), (['!', '!'], Kind.tagStem)]

/-- The tag that a handle and a suffix spell. -/
def resolveTag (handles : List (List Char × List Char)) (t : TagText) : Reads (List Char) :=
  match t.handle with
  | none => return t.suffix
  | some h =>
    match handles.lookup h with
    | some stem => return stem ++ t.suffix
    | none => fail

/-- Reads an anchor if one comes. -/
def anchor? : Reads (Option (List Char)) := do
  match ← peek with
  | some (.anchor name) => drop; return some name
  | _ => return none

/-- Reads a tag if one comes. -/
def tag? : Reads (Option TagText) := do
  match ← peek with
  | some (.tag t) => drop; return some t
  | _ => return none

/-- Reads an anchor and a tag in either order. -/
def properties (handles : List (List Char × List Char)) :
    Reads (Option (List Char) × Option (List Char)) := do
  let first ← anchor?
  let tag ← tag?
  let anchor ← if first.isNone && tag.isSome then anchor? else pure first
  match tag with
  | none => return (anchor, none)
  | some t => return (anchor, some (← resolveTag handles t))

/-- Notes an anchor, which may not be set yet. -/
def setAnchor (anchor : Option (List Char)) : Reads Unit := do
  match anchor with
  | none => return
  | some name =>
    if (← get).anchors.contains name then fail
    modify fun r => { r with anchors := name :: r.anchors }

/-- The mark that asks for the kind by look. -/
def isOpenTag (tag : Option (List Char)) : Bool := tag.isNone || tag == some ['!']

/-- The kind of a collection with an optional tag. -/
def collectionKind (tag : Option (List Char)) (default : Kind) : Kind :=
  match tag with
  | some t => if t == ['!'] then default else Kind.ofTag t
  | none => default

/-- The kind of a scalar with an optional tag. -/
def scalarKind (tag : Option (List Char)) (text : List Char) (plain : Bool) : Kind :=
  match tag with
  | none => if plain then Kind.ofLook text else .str
  | some t => if t == ['!'] then Kind.ofLook (Kind.dropLineFeed text) else Kind.ofTag t

-- ===================================================== nodes

/-- Where a node stands decides which collections it may be. -/
inductive Place where
  /-- Inside brackets. -/
  | flow
  /-- Outside brackets. -/
  | block
  /-- Outside brackets, where a sequence need not be indented. -/
  | blockOrSequence
  deriving DecidableEq

mutual

/-- Reads a node. -/
def node (handles : List (List Char × List Char)) : Nat → Place → Reads Node
  | 0, _ => fail
  | fuel + 1, place => do
    if let some (.alias name) ← peek then
      drop
      if (← get).anchors.contains name then return .alias name else fail
    let (anchor, tag) ← properties handles
    let next ← peek
    setAnchor anchor
    match next with
    | some (.scalar text plain) => drop; return .scalar anchor (scalarKind tag text plain) text
    | some .flowSequenceStart =>
      drop
      return .sequence anchor (collectionKind tag .seq) (← flowItems handles fuel true)
    | some .flowMappingStart =>
      drop
      return .mapping anchor (collectionKind tag .map) (← flowEntries handles fuel true)
    | _ =>
      if place = .blockOrSequence ∧ next = some .blockEntry then
        return .sequence anchor (collectionKind tag .seq) (← looseItems handles fuel)
      else if place ≠ .flow ∧ next = some .blockSequenceStart then
        drop
        return .sequence anchor (collectionKind tag .seq) (← blockItems handles fuel)
      else if place ≠ .flow ∧ next = some .blockMappingStart then
        drop
        return .mapping anchor (collectionKind tag .map) (← blockEntries handles fuel)
      else if anchor.isSome || tag.isSome then
        return .scalar anchor (if isOpenTag tag then .null else scalarKind tag [] false) []
      else fail

/-- Reads a node unless one of some tokens comes, which leave it out. -/
def nodeUnless (handles : List (List Char × List Char)) :
    Nat → Place → List Token → Reads Node
  | 0, _, _ => fail
  | fuel + 1, place, enders => do
    if ← nextIs enders then return .empty else node handles fuel place

/-- Reads the elements of an indented block sequence and its end. -/
def blockItems (handles : List (List Char × List Char)) : Nat → Reads (List Node)
  | 0 => fail
  | fuel + 1 => do
    if ← accept .blockEntry then
      let item ← nodeUnless handles fuel .block [.blockEntry, .blockEnd]
      return item :: (← blockItems handles fuel)
    else
      expect .blockEnd
      return []

/-- Reads the elements of a block sequence that is not indented. -/
def looseItems (handles : List (List Char × List Char)) : Nat → Reads (List Node)
  | 0 => fail
  | fuel + 1 => do
    if ← accept .blockEntry then
      let item ← nodeUnless handles fuel .block [.blockEntry, .key, .value, .blockEnd]
      return item :: (← looseItems handles fuel)
    else return []

/-- Reads the entries of a block mapping and its end. -/
def blockEntries (handles : List (List Char × List Char)) : Nat → Reads (List (Node × Node))
  | 0 => fail
  | fuel + 1 => do
    let enders := [Token.key, .value, .blockEnd]
    if ← accept .key then
      let key ← nodeUnless handles fuel .blockOrSequence enders
      let value ←
        if ← accept .value then nodeUnless handles fuel .blockOrSequence enders
        else pure .empty
      return (key, value) :: (← blockEntries handles fuel)
    else
      expect .blockEnd
      return []

/-- Reads a value behind its colon inside brackets; without a colon it is left out. -/
def flowValue (handles : List (List Char × List Char)) (closing : Token) : Nat → Reads Node
  | 0 => fail
  | fuel + 1 => do
    if ← accept .value then nodeUnless handles fuel .flow [.flowEntry, closing]
    else return .empty

/-- Reads the elements of a sequence in brackets and its end. An entry with a key is
a mapping of its own. -/
def flowItems (handles : List (List Char × List Char)) : Nat → Bool → Reads (List Node)
  | 0, _ => fail
  | fuel + 1, first => do
    if ← accept .flowSequenceEnd then return []
    if !first then expect .flowEntry
    if ← accept .key then
      let key ← nodeUnless handles fuel .flow [.value, .flowEntry, .flowSequenceEnd]
      let value ← flowValue handles .flowSequenceEnd fuel
      return .mapping none .map [(key, value)] :: (← flowItems handles fuel false)
    else if ← accept .flowSequenceEnd then return []
    else
      let item ← node handles fuel .flow
      return item :: (← flowItems handles fuel false)

/-- Reads the entries of a mapping in braces and its end. -/
def flowEntries (handles : List (List Char × List Char)) :
    Nat → Bool → Reads (List (Node × Node))
  | 0, _ => fail
  | fuel + 1, first => do
    if ← accept .flowMappingEnd then return []
    if !first then expect .flowEntry
    if ← accept .key then
      let key ← nodeUnless handles fuel .flow [.value, .flowEntry, .flowMappingEnd]
      let value ← flowValue handles .flowMappingEnd fuel
      return (key, value) :: (← flowEntries handles fuel false)
    else if ← accept .flowMappingEnd then return []
    else
      let key ← node handles fuel .flow
      return (key, .empty) :: (← flowEntries handles fuel false)

end

-- ===================================================== documents

/-- Reads the directives before a document: the handles of tags they set. Versions
other than 1 and directives given twice are refused. -/
def directives : Nat → Bool → List (List Char × List Char) → Reads (List (List Char × List Char))
  | 0, _, _ => fail
  | fuel + 1, versioned, handles => do
    match ← peek with
    | some (.directive d) =>
      drop
      match d with
      | .version major =>
        if versioned || major != 1 then fail
        directives fuel true handles
      | .tag handle stands =>
        if (handles.lookup handle).isSome then fail
        directives fuel versioned (handles ++ [(handle, stands)])
      | .other => directives fuel versioned handles
    | _ => return handles

/-- Drops the marks that end documents. -/
def dropEnds : Nat → Reads Unit
  | 0 => return
  | fuel + 1 => do
    if ← accept .documentEnd then dropEnds fuel

/-- Reads the document of a text; there is none if the text holds nothing. -/
def document (size : Nat) : Reads (Option Node) := do
  match ← peek with
  | none => return none
  | some (.directive _) | some .documentStart =>
    let own ← directives size false []
    expect .documentStart
    let handles := own ++ defaultHandles
    match ← peek with
    | none | some (.directive _) | some .documentStart | some .documentEnd => return some .empty
    | some _ => return some (← node handles size .block)
  | some _ => return some (← node defaultHandles size .block)

/-- Reads the document of a text and its end, behind which nothing may come. Whatever comes
is looked at up to where another document would start. -/
def onlyDocument (size : Nat) : Reads (Option Node) := do
  let found ← document size
  if found.isSome then dropEnds size
  if (← peek).isSome then
    let _ ← directives size false []
    fail
  return found

end Grammar

/-- The node that the tokens of a text spell; none if the text holds no document. -/
def Node.ofTokens (ts : Tokens) : Except Failure (Option Node) :=
  (Grammar.onlyDocument (4 * ts.tokens.length + 8)).run' { ts with }

end PaneWatch.Yaml
