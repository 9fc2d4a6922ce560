/-
The tokens of a YAML text.

Beside what is written, tokens mark where a block collection starts and ends,
which the indentation tells, and where a key starts, which is known only once
the colon behind it is seen. They are read one after the other as they are
needed, so a text with a fault at one place counts for what it is up to there.
-/
import PaneWatch.Yaml.Cursor

namespace PaneWatch.Yaml

/-- A handle and the rest of a tag; a tag written in full has no handle. -/
structure TagText where
  handle : Option (List Char)
  suffix : List Char
  deriving DecidableEq, Repr

/-- A line that concerns the document and not its content. -/
inductive Directive where
  /-- The version of the format that the document is written in. -/
  | version (major : Nat)
  /-- What a handle of tags stands for. -/
  | tag (handle stands : List Char)
  /-- Anything else. -/
  | other
  deriving DecidableEq, Repr

/-- A token. -/
inductive Token where
  | directive (d : Directive)
  | documentStart
  | documentEnd
  | blockSequenceStart
  | blockMappingStart
  | blockEnd
  | flowSequenceStart
  | flowSequenceEnd
  | flowMappingStart
  | flowMappingEnd
  | blockEntry
  | flowEntry
  | key
  | value
  | alias (name : List Char)
  | anchor (name : List Char)
  | tag (t : TagText)
  /-- A scalar; plain ones are those without quotes that are no block. -/
  | scalar (text : List Char) (plain : Bool)
  deriving DecidableEq, Repr

/-- The tokens that can be read of a text. -/
structure Tokens where
  tokens : List Token
  /-- Why no more can be read, unless they are all. -/
  trouble : Option Failure := none

end PaneWatch.Yaml
