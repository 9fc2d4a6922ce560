/-
The nodes of a YAML document.

Each node has a kind and may have an anchor; an alias stands for the node
with that anchor, which may be a node around the alias itself.
-/
import PaneWatch.Yaml.Kind

namespace PaneWatch.Yaml

/-- A node of a document. -/
inductive Node where
  | scalar (anchor : Option (List Char)) (kind : Kind) (text : List Char)
  | sequence (anchor : Option (List Char)) (kind : Kind) (items : List Node)
  | mapping (anchor : Option (List Char)) (kind : Kind) (entries : List (Node × Node))
  | alias (name : List Char)

namespace Node

/-- What stands where a value was left out. -/
def empty : Node := .scalar none .null []

/-- The anchor of a node. -/
def anchor? : Node → Option (List Char)
  | .scalar a .. | .sequence a .. | .mapping a .. => a
  | .alias _ => none

mutual

/-- A node and all nodes in it. -/
def all : Node → List Node
  | .scalar a k t => [.scalar a k t]
  | .sequence a k items => .sequence a k items :: allItems items
  | .mapping a k entries => .mapping a k entries :: allEntries entries
  | .alias name => [.alias name]

/-- The nodes in a list of nodes. -/
def allItems : List Node → List Node
  | [] => []
  | n :: rest => all n ++ allItems rest

/-- The nodes in a list of entries. -/
def allEntries : List (Node × Node) → List Node
  | [] => []
  | (k, v) :: rest => all k ++ all v ++ allEntries rest

end

end Node

end PaneWatch.Yaml
