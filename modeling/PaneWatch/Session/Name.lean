/-
Session names.

A name encodes a project, a worktree and a branch as
`ccmgr-<project>-<worktree>-<branch>`. Each component is first sanitized to
letters, digits and underscores, so a dash only ever separates components;
the branch takes everything after the third dash.

A name has at most fifty characters. Longer ones are cut in proportion: what
is left after the marker `ccmgr` and the three dashes is shared out evenly,
a component over its share loses its end to a tilde, and what the others
leave unused goes back to the cut components, the branch first, then the
worktree, then the project. Cutting loses information: two long triples can
share one name.
-/
import PaneWatch.Failure
import PaneWatch.Text.Blank

namespace PaneWatch.Session.Name

-- ===================================================== the measures

/-- The word every name starts with. -/
def marker : List Char := "ccmgr".toList

/-- The most characters a name has. -/
def maxLength : Nat := 50

/-- The most characters a sanitized component has. -/
def maxComponent : Nat := 20

/-- What stands in for a component with nothing usable in it. -/
def fallback : List Char := "unnamed".toList

/-- What ends a component that was cut. -/
def cutMark : Char := '~'

-- ===================================================== sanitizing

/-- The characters that sanitizing keeps: ASCII letters, digits, underscore. -/
def isKept (c : Char) : Bool := c.isAlphanum || c == '_'

/-- The characters that may not stand at either end of a component. -/
def isSeparator (c : Char) : Bool := c == '_' || c == '-'

/-- A component with every other character replaced, separators stripped from
both ends, and its length capped. It is never empty. -/
def sanitizeChars (cs : List Char) : List Char :=
  let clean := Text.strip isSeparator (cs.map fun c => if isKept c then c else '_')
  if clean.isEmpty then fallback
  else if clean.length > maxComponent then
    Text.dropTrailing isSeparator (clean.take maxComponent)
  else clean

/-- A project, worktree or branch as it may stand in a name. -/
def sanitize (component : String) : String :=
  String.ofList (sanitizeChars component.toList)

-- ===================================================== cutting

/-- Three components of a name, each a list of characters. -/
structure Triple where
  project : List Char
  worktree : List Char
  branch : List Char
  deriving DecidableEq, Repr

namespace Triple

/-- The number of characters of the three components together. -/
def size (t : Triple) : Nat := t.project.length + t.worktree.length + t.branch.length

/-- The same change to each component. -/
def map (f : List Char → List Char) (t : Triple) : Triple :=
  ⟨f t.project, f t.worktree, f t.branch⟩

end Triple

/-- What the components may take up together. -/
def budget : Nat := maxLength - marker.length - 3

/-- What each component may take up before unused room is handed back. -/
def share : Nat := budget / 3

/-- The first `length` characters, the last of them replaced by the cut mark. -/
def cutTo (length : Nat) (full : List Char) : List Char :=
  full.take (length - 1) ++ [cutMark]

/-- A component within its share, or cut down to it. -/
def cutToShare (full : List Char) : List Char :=
  if full.length ≤ share then full else cutTo share full

/-- Hands back as much of `slack` as a cut component can use. The result is the
component's new form and the slack that remains. -/
def handBack (full part : List Char) (slack : Nat) : List Char × Nat :=
  if slack = 0 ∨ part = full then (part, slack)
  else
    let target := min full.length (part.length + slack)
    let restored := if target = full.length then full else cutTo target full
    (restored, slack - (restored.length - part.length))

/-- Shrinks sanitized components so that together they fit the budget. -/
def truncate (t : Triple) : Triple :=
  let cut := t.map cutToShare
  let branch := handBack t.branch cut.branch (budget - cut.size)
  let worktree := handBack t.worktree cut.worktree branch.2
  let project := handBack t.project cut.project worktree.2
  ⟨project.1, worktree.1, branch.1⟩

-- ===================================================== names

/-- The marker and the components, joined by dashes. -/
def join (t : Triple) : List Char :=
  marker ++ '-' :: t.project ++ '-' :: t.worktree ++ '-' :: t.branch

/-- The name of sanitized components. -/
def ofTriple (t : Triple) : List Char :=
  let full := join t
  if full.length > maxLength then join (truncate t) else full

/-- The name of a project, a worktree and a branch. -/
def generate (project worktree branch : String) : String :=
  let given : Triple := ⟨project.toList, worktree.toList, branch.toList⟩
  String.ofList (ofTriple (given.map sanitizeChars))

/-- Splits off a non-empty component that ends before the next dash. -/
def splitComponent? (cs : List Char) : Option (List Char × List Char) :=
  match cs.span (· != '-') with
  | (component, '-' :: rest) => if component.isEmpty then none else some (component, rest)
  | _ => none

/-- The branch at the end of a name: one line, with or without its line end. -/
def lastComponent? (cs : List Char) : Option (List Char) :=
  let line := cs.takeWhile (· != '\n')
  let rest := cs.drop line.length
  if line.isEmpty then none
  else if rest.isEmpty || rest == ['\n'] then some line
  else none

/-- What follows the marker and its dash. -/
def afterMarker? (cs : List Char) : Option (List Char) :=
  let opening := marker ++ ['-']
  if opening.isPrefixOf cs then some (cs.drop opening.length) else none

/-- The components of a name, whatever its length. -/
def split? (cs : List Char) : Option Triple := do
  let rest ← afterMarker? cs
  let (project, rest) ← splitComponent? rest
  let (worktree, rest) ← splitComponent? rest
  let branch ← lastComponent? rest
  return ⟨project, worktree, branch⟩

/-- The components of a well-formed name. -/
def parseChars? (cs : List Char) : Option Triple :=
  if cs.length > maxLength then none else split? cs

/-- The project, worktree and branch of a well-formed name. -/
def parse? (name : String) : Option (String × String × String) :=
  (parseChars? name.toList).map fun t =>
    (String.ofList t.project, String.ofList t.worktree, String.ofList t.branch)

/-- The project, worktree and branch of a name, which has to be well formed. -/
def parse (name : String) : Except Failure (String × String × String) :=
  (parse? name).elim (.error (.invalidName name)) .ok

/-- Whether a text is a well-formed name. -/
def isValid (name : String) : Bool := (parseChars? name.toList).isSome

end PaneWatch.Session.Name
