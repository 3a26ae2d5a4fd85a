/-!
# Node Graphs

The parts of a document as nodes. A node has a tag, which says what kind of value it stands
for, and is a scalar, a sequence or a mapping. An alias leads to the very node that it names,
so the nodes form a graph, which may run in a circle; a node is known by its number.

The entries of a mapping are kept apart from it, in a record that is known by a number as
well. To take an entry out changes the record, for everyone who looks at it. To put entries
in gives the mapping a new record and leaves the old one as it is.
-/

namespace Conform.Document.Yaml

/-- What a node is made of: text, other nodes, or the entries of a record. -/
inductive Shape where
  | scalar (text : String)
  | sequence (items : List Nat)
  | mapping (record : Nat)
  deriving DecidableEq, Repr

/-- A part of a document. -/
structure Node where
  /-- The tag, which says what kind of value the node stands for. -/
  tag : String
  /-- What the node is made of. -/
  shape : Shape
  deriving DecidableEq, Repr

/-- The parts of a document. -/
structure Graph where
  /-- The nodes under their numbers. -/
  nodes : Array Node := #[]
  /-- The records under their numbers: keys and items, which are numbers of nodes. -/
  records : Array (List (Nat × Nat)) := #[]

namespace Graph

/-- The node with a number; the absent value where there is none. -/
def node (g : Graph) (id : Nat) : Node := g.nodes[id]?.getD ⟨"", .scalar ""⟩

/-- The tag of a node. -/
def tag (g : Graph) (id : Nat) : String := (g.node id).tag

/-- The entries in a record. -/
def record (g : Graph) (id : Nat) : List (Nat × Nat) := g.records[id]?.getD []

/-- The entries of a mapping; no other node has any. -/
def entries (g : Graph) (id : Nat) : List (Nat × Nat) :=
  match (g.node id).shape with
  | .mapping record => g.record record
  | _ => []

/-- Add a node, which gets the next number. -/
def add (g : Graph) (n : Node) : Graph := { g with nodes := g.nodes.push n }

/-- Give a node another tag. -/
def retag (g : Graph) (id : Nat) (tag : String) : Graph :=
  { g with nodes := g.nodes.modify id fun n => { n with tag } }

/-- Make a node a sequence. -/
def setItems (g : Graph) (id : Nat) (items : List Nat) : Graph :=
  { g with nodes := g.nodes.modify id fun n => { n with shape := .sequence items } }

/-- Make a node a mapping, with a new record. -/
def setEntries (g : Graph) (id : Nat) (entries : List (Nat × Nat)) : Graph :=
  { nodes := g.nodes.modify id fun n => { n with shape := .mapping g.records.size }
    records := g.records.push entries }

/-- Take an entry out of the record of a mapping. -/
def removeEntry (g : Graph) (id index : Nat) : Graph :=
  match (g.node id).shape with
  | .mapping record => { g with records := g.records.modify record fun es => es.eraseIdx index }
  | _ => g

/-- The node added last has the number that was next. -/
theorem node_add (g : Graph) (n : Node) : (g.add n).node g.nodes.size = n := by
  simp [add, node]

/-- A node keeps its number when another is added. -/
theorem node_add_of_lt {g : Graph} {id : Nat} (n : Node) (h : id < g.nodes.size) :
    (g.add n).node id = g.node id := by
  simp [add, node, Array.getElem?_push, Nat.ne_of_lt h]

/-- The entries of a mapping are those last put in. -/
theorem entries_setEntries {g : Graph} {id : Nat} (entries : List (Nat × Nat))
    (h : id < g.nodes.size) : (g.setEntries id entries).entries id = entries := by
  simp [setEntries, Graph.entries, node, record, h, Array.getElem_modify]

/-- Other records keep their entries when a mapping gets a new one. -/
theorem record_setEntries_of_lt {g : Graph} {id record : Nat} (entries : List (Nat × Nat))
    (h : record < g.records.size) : (g.setEntries id entries).record record = g.record record := by
  simp [setEntries, Graph.record, Array.getElem?_push, Nat.ne_of_lt h]

end Graph

end Conform.Document.Yaml
