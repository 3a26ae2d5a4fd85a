import Conform.Document.Yaml.Merging
import Conform.Document.Yaml.ScalarValue
import Conform.Document.Yaml.Structure
import Conform.Value.Equality

/-!
# Contents of Documents

The value that the graph of a document stands for. A sequence is a list, a mapping keeps the
order of its keys, and of several entries with one key the last wins at the place of the
first.

The content of a node is made when a place is first met that leads to it. Collections are
made empty and filled later, in the order in which they were met, so that a circle is no
hindrance; mappings are flattened when they are filled. Of several troubles the one that is
met first in this order is reported.

`Document.Yaml.read` is one loader of YAML documents, and what is loaded from files does not depend
on it. Since values hold no circles, a collection inside itself stands for an empty one here.
-/

namespace Conform.Document.Yaml

/-- What is known of the content of a node: the value of a scalar, or the parts of a
collection. Parts that may be collections themselves are known by their numbers. -/
inductive Content where
  | value (v : Value)
  | list (items : List Nat)
  | pairs (items : List (Nat × Nat))
  | set (keys : List Value)
  | mapping (entries : List (Value × Nat))

/-- The kinds of collections. -/
inductive CollectionKind where
  | list
  | pairs
  | set
  | mapping
  deriving DecidableEq, Repr

namespace CollectionKind

/-- The kind of collections that a tag stands for. -/
def ofTag? (tag : String) : Option CollectionKind :=
  [(coreTag "seq", .list), (coreTag "omap", .pairs), (coreTag "pairs", .pairs),
    (coreTag "set", .set), (coreTag "map", .mapping)].lookup tag

/-- The content of an empty collection. -/
def empty : CollectionKind → Content
  | .list => .list []
  | .pairs => .pairs []
  | .set => .set []
  | .mapping => .mapping []

end CollectionKind

namespace Graph

/-- How often a text may be looked for in a mapping in place of a scalar. -/
def textLimit : Nat := 980

/-- The text of a node that should be a scalar: a mapping stands for the text under the first
equals sign among its keys. -/
def text (g : Graph) : Nat → Nat → Except Trouble String
  | 0, _ => .error (.fault .tooDeep)
  | depth + 1, id =>
    match (g.node id).shape with
    | .scalar text => .ok text
    | .sequence _ => .error .malformed
    | .mapping record =>
      match (g.record record).find? fun (key, _) => g.tag key == coreTag "value" with
      | some (_, item) => g.text depth item
      | none => .error .malformed

/-- The value of a node whose tag is not that of a collection. A date cannot be read off a
mapping. -/
def scalarValue (g : Graph) (id : Nat) : Except Trouble Value := do
  let read ← Trouble.required (Scalar.readers.lookup (g.tag id))
  let text ← g.text textLimit id
  match (g.node id).shape with
  | .mapping _ =>
    if g.tag id = coreTag "timestamp" then .error (.fault .typeMismatch) else read text
  | _ => read text

end Graph

/-- The state of making contents. -/
structure Maker where
  /-- The graph of the document. -/
  graph : Graph
  /-- What is known of the contents of the nodes, under their numbers. -/
  contents : Array (Option Content)
  /-- The collections in the order in which they were met. -/
  met : Array Nat := #[]

/-- Making contents. -/
abbrev Making := StateT Maker (Except Trouble)

namespace Making

/-- Let a node have a content. -/
def put (id : Nat) (c : Content) : Making Unit :=
  modify fun m => { m with contents := m.contents.setIfInBounds id (some c) }

/-- Make the content of a node unless it is known; a collection is left to be filled. -/
def meet (id : Nat) : Making Content := do
  let m ← get
  match m.contents[id]?.getD none with
  | some c => return c
  | none =>
    match CollectionKind.ofTag? (m.graph.tag id) with
    | some kind =>
      set { m with met := m.met.push id }
      put id kind.empty
      return kind.empty
    | none =>
      let c := Content.value (← m.graph.scalarValue id)
      put id c
      return c

/-- Make the content of a key, which must not be a collection. -/
def meetKey (id : Nat) : Making Value := do
  match ← meet id with
  | .value v => return v
  | _ => throw .malformed

/-- Make the contents of the parts of a mapping, which is flattened. -/
def fillEntries (id : Nat) : Making (List (Value × Nat)) := do
  let m ← get
  match (m.graph.node id).shape with
  | .mapping _ =>
    let g ← m.graph.flatten id
    set { m with graph := g }
    (g.entries id).mapM fun (key, item) => do
      let key ← meetKey key
      let _ ← meet item
      return (key, item)
  | _ => throw .malformed

/-- Make the contents of the parts of a mapping that stands for a pair. It has one entry, and
its key may be anything. -/
def fillPair (id : Nat) : Making (Nat × Nat) := do
  match (← get).graph.entries id with
  | [(key, item)] =>
    let _ ← meet key
    let _ ← meet item
    return (key, item)
  | _ => throw .malformed

/-- Make the contents of the parts of a sequence. -/
def fillItems {α : Type} (part : Nat → Making α) (id : Nat) : Making (List α) := do
  match ((← get).graph.node id).shape with
  | .sequence items => items.mapM part
  | _ => throw .malformed

/-- Fill a collection. -/
def fill (id : Nat) : Making Unit := do
  match CollectionKind.ofTag? ((← get).graph.tag id) with
  | some .list => put id (.list (← fillItems (fun item => do let _ ← meet item; return item) id))
  | some .pairs => put id (.pairs (← fillItems fillPair id))
  | some .set => put id (.set ((← fillEntries id).map Prod.fst))
  | some .mapping => put id (.mapping (← fillEntries id))
  | none => return ()

/-- Fill the collections from the one with the given place on, in the order in which they
were met. Each node is met once, so their number bounds the steps. -/
def fillFrom : Nat → Nat → Making Unit
  | 0, _ => return ()
  | left + 1, place => do
    match (← get).met[place]? with
    | none => return ()
    | some id =>
      fill id
      fillFrom left (place + 1)

end Making

/-- Values of nodes as far as they are known. -/
abbrev Values := Array (Option Value)

/-- The value of a node, given the contents of all nodes and how many nodes may lie in it.
Inside itself a collection stands for an empty one. -/
def Content.valueOf (contents : Array (Option Content)) : Nat → Nat → StateM Values Value
  | 0, _ => return .null
  | depth + 1, id => do
    match (← get)[id]?.getD none with
    | some v => return v
    | none =>
      let known (v : Value) : StateM Values Unit := modify fun vs => vs.setIfInBounds id (some v)
      let v ←
        match contents[id]?.getD none with
        | none => pure .null
        | some (.value v) => pure v
        | some (.list items) =>
          known (.list none [])
          pure (.list none (← items.mapM (valueOf contents depth)))
        | some (.pairs items) =>
          known (.list none [])
          let pairs ← items.mapM fun (key, item) => do
            let key ← valueOf contents depth key
            return .tuple none [key, ← valueOf contents depth item]
          pure (.list none pairs)
        | some (.set keys) =>
          pure (.set none (Entries.keys (Entries.ofPairs (keys.map fun key => (key, .null)))))
        | some (.mapping entries) =>
          known (.mapping none [])
          let pairs ← entries.mapM fun (key, item) => return (key, ← valueOf contents depth item)
          pure (.mapping none (Entries.ofPairs pairs))
      known v
      return v

/-- The value that a node of a graph stands for. -/
def Graph.value (g : Graph) (root : Nat) : Except Trouble Value := do
  let count := g.nodes.size
  let making : Making Unit := do
    let _ ← Making.meet root
    Making.fillFrom count 0
  let (_, m) ← making.run { graph := g, contents := Array.replicate count none }
  return ((Content.valueOf m.contents (count + 1) root).run (Array.replicate count none)).1

/-- The value of the one document that bytes hold; the absent value for bytes that hold
none. -/
def read (bytes : List UInt8) : Except Trouble Value := do
  match ← Graph.ofLoaded (Loaded.ofBytes bytes) with
  | none => return .null
  | some (g, root) => g.value root

end Conform.Document.Yaml
