/-
The value of a YAML document.

Scalars spell values by their kind; sequences and mappings hold the values of
their nodes. Before a mapping is built, the mappings that it merges are put
in front of its own entries, so that its own values win. An alias stands for
the value of the node it names. One that names a node around itself is
followed once more and then left as `Value.loop`.

Values are built level by level, the root first, and the first fault met in
that order is the fault of the document. `Built` therefore keeps each fault
with its depth. How deep nodes are nested is not bounded.
-/
import PaneWatch.Yaml.Scalar
import PaneWatch.Yaml.Node.Grammar
import PaneWatch.Yaml.Token.Stream

namespace PaneWatch.Yaml

/-- The nodes that have anchors. -/
abbrev Anchors := List (List Char × Node)

/-- A value, and what went wrong in building it with the depth where it did. -/
structure Built where
  value : Value
  faults : List (Nat × Failure) := []

namespace Built

/-- A value that could not be built. -/
def failed (depth : Nat) (why : Failure) : Built := ⟨.null, [(depth, why)]⟩

/-- The fault of the least depth, the first of several. -/
def firstFault? (b : Built) : Option (Nat × Failure) :=
  b.faults.foldl (fun best f => match best with
    | none => some f
    | some g => if f.1 < g.1 then some f else some g) none

/-- The value, unless something went wrong. -/
def result (b : Built) : Except Failure Value :=
  match b.firstFault? with
  | none => .ok b.value
  | some (_, why) => .error why

/-- The list of some values. -/
def ofList (bs : List Built) : Built := ⟨.list (bs.map (·.value)), bs.flatMap (·.faults)⟩

/-- The mapping of some entries at a depth. A collection cannot be a key. -/
def ofEntries (depth : Nat) (es : List (Built × Built)) : Built where
  value := .map (es.foldl (fun m (k, v) => Value.insert k.value v.value m) [])
  faults := es.flatMap fun (k, v) =>
    k.faults ++ (if k.value.isKey then [] else [(depth, .malformed)]) ++ v.faults

/-- The set of the keys of a mapping. -/
def keySet (b : Built) : Built :=
  match b.value with
  | .map es => { b with value := .set (es.map (·.1)) }
  | _ => b

end Built

namespace Node

/-- The node itself, or the node that an alias names. -/
def resolve (anchors : Anchors) : Node → Node
  | .alias name => (anchors.lookup name).getD .empty
  | node => node

/-- The kind of a node. -/
def kind : Node → Kind
  | .scalar _ k _ | .sequence _ k _ | .mapping _ k _ => k
  | .alias _ => .unknown

/-- Whether a node is a key of some kind. -/
def hasKind (anchors : Anchors) (kind : Kind) (node : Node) : Bool :=
  (node.resolve anchors).kind == kind

/-- A key that stands for a default value is an ordinary string among other keys. -/
def asKey (anchors : Anchors) (node : Node) : Node :=
  match node.resolve anchors with
  | .scalar a .value text => .scalar a .str text
  | _ => node

/-- The entries of a mapping, behind those of the mappings that it merges. Of several
mappings that one key merges the last comes first. A mapping that merges itself adds
its own entries again. -/
def entries (anchors : Anchors) : Nat → List (List Char) → Node →
    Except Failure (List (Node × Node))
  | 0, _, _ => .ok []
  | fuel + 1, within, node =>
    match node.resolve anchors with
    | .mapping anchor _ es => do
      let own := (es.filter fun e => !e.1.hasKind anchors .merge).map
        fun e => (e.1.asKey anchors, e.2)
      if anchor.any within.contains then return own
      let within := anchor.toList ++ within
      let merged ← (es.filter fun e => e.1.hasKind anchors .merge).mapM fun e =>
        match e.2.resolve anchors with
        | .sequence _ _ items => do
          let groups ← items.mapM (entries anchors fuel within)
          return groups.reverse.flatten
        | other => entries anchors fuel within other
      return merged.flatten ++ own
    | _ => .error .malformed

/-- The text of a scalar, or of the default value of a mapping. -/
def scalarText (anchors : Anchors) : Nat → Node → Except Failure (List Char)
  | 0, _ => .error .malformed
  | fuel + 1, node =>
    match node.resolve anchors with
    | .scalar _ _ text => .ok text
    | .mapping _ _ es =>
      match es.find? fun e => e.1.hasKind anchors .value with
      | some (_, value) => scalarText anchors fuel value
      | none => .error .malformed
    | _ => .error .malformed

/-- The single entry of a mapping that is one. -/
def singleEntry (anchors : Anchors) (node : Node) : Except Failure (Node × Node) :=
  match node.resolve anchors with
  | .mapping _ _ [e] => .ok e
  | _ => .error .malformed

/-- Builds the value of a node at a depth. `within` names the nodes around it, a node
as often as it has been entered. -/
def build (anchors : Anchors) : Nat → List (List Char) → Nat → Node → Built
  | 0, _, _, _ => ⟨.loop, []⟩
  | fuel + 1, within, depth, .alias name =>
    if 2 ≤ within.count name then ⟨.loop, []⟩
    else build anchors fuel within depth (Node.resolve anchors (.alias name))
  | fuel + 1, within, depth, node =>
    let within := node.anchor?.toList ++ within
    let child := build anchors fuel within (depth + 1)
    let badShape := Built.failed (depth + 1) .malformed
    match node.kind with
    | .seq =>
      match node with
      | .sequence _ _ items => .ofList (items.map child)
      | _ => badShape
    | .omap | .pairs =>
      match node with
      | .sequence _ _ items =>
        .ofList (items.map fun item =>
          match item.singleEntry anchors with
          | .ok (k, v) => .ofList [child k, child v]
          | .error why => .failed (depth + 1) why)
      | _ => badShape
    | .map | .set =>
      match entries anchors fuel [] node with
      | .error why => .failed (depth + 1) why
      | .ok es =>
        let mapping := Built.ofEntries (depth + 1) (es.map fun (k, v) => (child k, child v))
        if node.kind == .set then mapping.keySet else mapping
    | kind =>
      match node.scalarText anchors fuel >>= Scalar.value kind with
      | .ok value => ⟨value, []⟩
      | .error why => .failed depth why

/-- The value of a document. No chain of nodes and aliases is longer than the bound,
because it enters a node with an anchor at most twice. -/
def value (root : Node) : Except Failure Value :=
  let nodes := root.all
  let anchors : Anchors := nodes.filterMap fun n => n.anchor?.map (·, n)
  (build anchors (2 * nodes.length * (2 * anchors.length + 2) + 2) [] 0 root).result

end Node

/-- The value of a text. One without a document is null. -/
def load (text : String) : Except Failure Value := do
  match ← Node.ofTokens (.ofText text.toList) with
  | none => return .null
  | some root => root.value

end PaneWatch.Yaml
