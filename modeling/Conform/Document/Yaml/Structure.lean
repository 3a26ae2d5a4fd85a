import Conform.Document.Yaml.Graph
import Conform.Document.Yaml.Resolution
import Conform.Document.Yaml.Token

/-!
# Structures of Documents

The graph of nodes that the tokens of a document stand for. Every node gets its tag: the one
that is given, or the one that its kind or its text resolves to. A node is named before its
parts are read, so that an alias among them finds it. Nodes lie only so deep in others.
-/

namespace Conform.Document.Yaml

/-- The state of reading nodes. -/
structure Reader where
  /-- The tokens left to read. -/
  tokens : List Token
  /-- What reading on after them meets. -/
  trouble : Trouble
  /-- The nodes found so far. -/
  graph : Graph := {}
  /-- The nodes that have been named. -/
  anchors : List (String × Nat) := []
  /-- What the handles of tags stand for. -/
  handles : List (String × String) := []
  /-- In how many nodes the next one lies. -/
  depth : Nat := 0

/-- Reading off tokens. -/
abbrev Reading := StateT Reader (Except Trouble)

namespace Reading

/-- The document is malformed here. -/
def malformed {α : Type} : Reading α := throw .malformed

/-- The next token. -/
def peek : Reading Token := do
  let r ← get
  match r.tokens with
  | t :: _ => return t
  | [] => throw r.trouble

/-- Go on to the token after the next one. -/
def advance : Reading Unit := modify fun r => { r with tokens := r.tokens.tail }

/-- Whether the next token is one of the given ones. -/
def nextIs (ts : List Token) : Reading Bool := return ts.contains (← peek)

/-- Read the next token if it is the given one. -/
def accept (t : Token) : Reading Bool := do
  let found ← nextIs [t]
  if found then advance
  return found

/-- Read the given token. -/
def demand (t : Token) : Reading Unit := do
  unless ← accept t do malformed

/-- Add a node, which is named if it has an anchor. A name is given only once. -/
def addNode (anchor : Option String) (n : Node) : Reading Nat := do
  let r ← get
  let id := r.graph.nodes.size
  match anchor with
  | none =>
    set { r with graph := r.graph.add n }
    return id
  | some name =>
    if (r.anchors.lookup name).isSome then malformed
    else
      set { r with graph := r.graph.add n, anchors := (name, id) :: r.anchors }
      return id

/-- Add the node that stands where nothing is written. -/
def empty : Reading Nat := addNode none ⟨coreTag "null", .scalar ""⟩

/-- How deep nodes may lie in others. -/
def depthLimit : Nat := 487

/-- Read the parts of a node. -/
def inside {α : Type} (parts : Reading α) : Reading α := do
  let depth := (← get).depth
  if depthLimit ≤ depth then throw (.fault .tooDeep)
  modify fun r => { r with depth := depth + 1 }
  let found ← parts
  modify fun r => { r with depth }
  return found

/-- The whole tag that a handle and a suffix stand for. -/
def wholeTag (handle : Option String) (suffix : String) : Reading String := do
  match handle with
  | none => return suffix
  | some handle =>
    match (← get).handles.lookup handle with
    | some start => return start ++ suffix
    | none => malformed

/-- The anchor and the tag before a node; either may come first. -/
def properties : Reading (Option String × Option String) := do
  match ← peek with
  | .anchor name =>
    advance
    match ← peek with
    | .tag handle suffix =>
      advance
      return (some name, some (← wholeTag handle suffix))
    | _ => return (some name, none)
  | .tag handle suffix =>
    advance
    match ← peek with
    | .anchor name =>
      advance
      return (some name, some (← wholeTag handle suffix))
    | _ => return (none, some (← wholeTag handle suffix))
  | _ => return (none, none)

/-- The tag of a collection: the given one, or that of its kind. -/
def collectionTag (tag : Option String) (kind : String) : String :=
  match tag with
  | none | some "!" => coreTag kind
  | some tag => tag

/-- The tag of a scalar: the given one, or else the resolved one if it is plain, and that of
texts if it is not. A lone exclamation mark resolves a scalar as if it were plain. -/
def scalarTag (tag : Option String) (text : String) (plain : Bool) : String :=
  match tag with
  | some "!" => Plain.resolve text
  | some tag => tag
  | none => if plain then Plain.resolve text else coreTag "str"

/-- Read a sequence, given how to read its items. -/
def sequenceOf (anchor tag : Option String) (items : Reading (List Nat)) : Reading Nat := do
  let id ← addNode anchor ⟨collectionTag tag "seq", .sequence []⟩
  let items ← inside items
  modify fun r => { r with graph := r.graph.setItems id items }
  return id

/-- Read a mapping, given how to read its entries. -/
def mappingOf (anchor tag : Option String) (entries : Reading (List (Nat × Nat))) :
    Reading Nat := do
  let id ← addNode anchor ⟨collectionTag tag "map", .sequence []⟩
  let entries ← inside entries
  modify fun r => { r with graph := r.graph.setEntries id entries }
  return id

/-- Read a scalar of the given text. -/
def scalarOf (anchor tag : Option String) (text : String) (plain : Bool) : Reading Nat :=
  addNode anchor ⟨scalarTag tag text plain, .scalar text⟩

mutual

/-- Read a node. Block collections can stand only in a block, and a sequence without
indentation only where it is let in. -/
def node (inBlock dashes : Bool) : Nat → Reading Nat
  | 0 => malformed
  | fuel + 1 => do
    match ← peek with
    | .alias name =>
      advance
      match (← get).anchors.lookup name with
      | some id => return id
      | none => malformed
    | _ =>
      let (anchor, tag) ← properties
      match ← peek with
      | .scalar text plain =>
        advance
        scalarOf anchor tag text plain
      | .flowSequenceStart =>
        advance
        sequenceOf anchor tag (flowItems true fuel)
      | .flowMappingStart =>
        advance
        mappingOf anchor tag (flowEntries true fuel)
      | t =>
        if t = .blockEntry ∧ dashes then sequenceOf anchor tag (dashItems fuel)
        else if t = .blockSequenceStart ∧ inBlock then
          advance
          sequenceOf anchor tag (blockItems fuel)
        else if t = .blockMappingStart ∧ inBlock then
          advance
          mappingOf anchor tag (blockEntries fuel)
        else if anchor.isSome ∨ tag.isSome then scalarOf anchor tag "" true
        else malformed

/-- Read a node unless one of the given tokens comes next. -/
def nodeUnless (stops : List Token) (inBlock dashes : Bool) : Nat → Reading Nat
  | 0 => malformed
  | fuel + 1 => do
    if ← nextIs stops then empty else node inBlock dashes fuel

/-- Read the items of a block sequence up to its end. -/
def blockItems : Nat → Reading (List Nat)
  | 0 => malformed
  | fuel + 1 => do
    if ← accept .blockEntry then
      let item ← nodeUnless [.blockEntry, .blockEnd] true false fuel
      return item :: (← blockItems fuel)
    else
      demand .blockEnd
      return []

/-- Read the items of a sequence without indentation, which ends where no dash follows. -/
def dashItems : Nat → Reading (List Nat)
  | 0 => malformed
  | fuel + 1 => do
    if ← accept .blockEntry then
      let item ← nodeUnless [.blockEntry, .key, .value, .blockEnd] true false fuel
      return item :: (← dashItems fuel)
    else return []

/-- Read the entries of a block mapping up to its end. -/
def blockEntries : Nat → Reading (List (Nat × Nat))
  | 0 => malformed
  | fuel + 1 => do
    let stops := [Token.key, .value, .blockEnd]
    if ← accept .key then
      let key ← nodeUnless stops true true fuel
      let item ← if ← accept .value then nodeUnless stops true true fuel else empty
      return (key, item) :: (← blockEntries fuel)
    else
      demand .blockEnd
      return []

/-- Read the items of a flow sequence up to its end. A comma comes between them, and an item
with a colon in it is a mapping of one entry. -/
def flowItems (first : Bool) : Nat → Reading (List Nat)
  | 0 => malformed
  | fuel + 1 => do
    if ← accept .flowSequenceEnd then return []
    unless first do demand .flowEntry
    if ← accept .flowSequenceEnd then return []
    if ← accept .key then
      let pair ← mappingOf none none do
        let key ← nodeUnless [.value, .flowEntry, .flowSequenceEnd] false false fuel
        let item ←
          if ← accept .value then nodeUnless [.flowEntry, .flowSequenceEnd] false false fuel
          else empty
        return [(key, item)]
      return pair :: (← flowItems false fuel)
    else
      let item ← node false false fuel
      return item :: (← flowItems false fuel)

/-- Read the entries of a flow mapping up to its end. A comma comes between them, and a node
alone is a key without a value. -/
def flowEntries (first : Bool) : Nat → Reading (List (Nat × Nat))
  | 0 => malformed
  | fuel + 1 => do
    if ← accept .flowMappingEnd then return []
    unless first do demand .flowEntry
    if ← accept .flowMappingEnd then return []
    if ← accept .key then
      let key ← nodeUnless [.value, .flowEntry, .flowMappingEnd] false false fuel
      let item ←
        if ← accept .value then nodeUnless [.flowEntry, .flowMappingEnd] false false fuel
        else empty
      return (key, item) :: (← flowEntries false fuel)
    else
      let key ← node false false fuel
      let item ← empty
      return (key, item) :: (← flowEntries false fuel)

end

/-! ## Documents -/

/-- Read the directives before a document. Each handle is declared at most once, and so is
the version, which must be one that can be read. -/
def directives : Nat → Bool → List (String × String) → Reading (List (String × String))
  | 0, _, _ => malformed
  | fuel + 1, versioned, handles => do
    match ← peek with
    | .version major =>
      advance
      if versioned || major ≠ 1 then malformed else directives fuel true handles
    | .tagHandle handle start =>
      advance
      if (handles.lookup handle).isSome then malformed
      else directives fuel versioned ((handle, start) :: handles)
    | .otherDirective =>
      advance
      directives fuel versioned handles
    | _ => return handles

/-- What the handles of tags stand for unless a directive says otherwise. -/
def defaultHandles : List (String × String) := [("!", "!"), ("!!", coreTag "")]

/-- Whether the start of a document is marked here, be it by a directive. -/
def atStart : Reading Bool := do
  match ← peek with
  | .version _ | .tagHandle .. | .otherDirective | .documentStart => return true
  | _ => return false

/-- Pass over the markers that end a document. -/
def documentEnds : Nat → Reading Unit
  | 0 => return ()
  | fuel + 1 => do
    if ← accept .documentEnd then documentEnds fuel

/-- Read the root of a document. Only a document whose start is marked may be empty. -/
def root (fuel : Nat) : Reading Nat := do
  if ← atStart then
    let declared ← directives fuel false []
    modify fun r => { r with handles := declared ++ defaultHandles }
    demand .documentStart
    if (← atStart) || (← nextIs [.documentEnd, .streamEnd]) then empty
    else node true false fuel
  else
    modify fun r => { r with handles := defaultHandles }
    node true false fuel

/-- Read the one document that the tokens hold; nothing if they hold none. -/
def document (fuel : Nat) : Reading (Option Nat) := do
  if ← nextIs [.streamEnd] then return none
  else
    let root ← root fuel
    documentEnds fuel
    demand .streamEnd
    return some root

end Reading

/-- The graph of a document and the number of its root; nothing for a text without a document.
Each step reads a token or goes one level into a node, which bounds their number. -/
def Graph.ofLoaded (loaded : Loaded) : Except Trouble (Option (Graph × Nat)) := do
  let (tokens, trouble) := Token.ofLoaded loaded
  let (root, r) ← (Reading.document (3 * tokens.length + 3)).run { tokens, trouble }
  return root.map fun id => (r.graph, id)

end Conform.Document.Yaml
