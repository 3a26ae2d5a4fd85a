import Conform.Document.Trouble
import Conform.Document.Yaml.Graph
import Conform.Document.Yaml.Resolution

/-!
# Merge Keys

The entries under a merge key are those of a mapping, or those of the mappings in a sequence.
To flatten a mapping is to take its merge keys out and to put before its entries what they
bring in, flattened first; an equals sign as a key then stands for itself. The nodes
themselves change, and so does whatever an alias shows of them.

A mapping may be merged into itself. It then brings in what it holds at that moment, and it
has no merge keys left when its turn comes again.
-/

namespace Conform.Document.Yaml

namespace Graph

/-- Work on a graph that may meet a trouble. -/
abbrev Merging := StateT Graph (Except Trouble)

namespace Merging

/-- The entries that an item under a merge key brings in. Given is how to flatten a mapping.
Of the mappings in a sequence the earlier ones prevail, so the last one comes first; all of
them are flattened before any of them is read. -/
def broughtBy (flatten : Nat → Merging Unit) (item : Nat) : Merging (List (Nat × Nat)) := do
  match ((← get).node item).shape with
  | .mapping _ =>
    flatten item
    return (← get).entries item
  | .sequence items =>
    let records ← items.mapM fun id => do
      match ((← get).node id).shape with
      | .mapping _ =>
        flatten id
        return ((← get).node id).shape
      | _ => throw .malformed
    let g ← get
    return records.reverse.flatMap fun
      | .mapping record => g.record record
      | _ => []
  | .scalar _ => throw .malformed

/-- Take the merge keys out of a mapping, from an entry on, and give the entries that they
bring in. Given are how to flatten a mapping and how many entries are left. -/
def takeOut (flatten : Nat → Merging Unit) (id : Nat) : Nat → Nat → Merging (List (Nat × Nat))
  | 0, _ => return []
  | left + 1, index => do
    let g ← get
    match (g.entries id)[index]? with
    | none => return []
    | some (key, item) =>
      if g.tag key = coreTag "merge" then
        set (g.removeEntry id index)
        let brought ← broughtBy flatten item
        return brought ++ (← takeOut flatten id left index)
      else
        if g.tag key = coreTag "value" then set (g.retag key (coreTag "str"))
        takeOut flatten id left (index + 1)

/-- Flatten a mapping. Mappings are merged into others only so deep. -/
def flatten : Nat → Nat → Merging Unit
  | 0, _ => throw (.fault .tooDeep)
  | depth + 1, id => do
    let brought ← takeOut (flatten depth) id ((← get).entries id).length 0
    let g ← get
    unless brought.isEmpty do set (g.setEntries id (brought ++ g.entries id))

end Merging

/-- How deep mappings may be merged into others. -/
def mergeLimit : Nat := 980

/-- The graph in which a mapping is flattened. -/
def flatten (g : Graph) (id : Nat) : Except Trouble Graph := do
  let (_, g) ← (Merging.flatten mergeLimit id).run g
  return g

end Graph

end Conform.Document.Yaml
