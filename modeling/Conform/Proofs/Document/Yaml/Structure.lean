import Conform.Document.Yaml.Structure
import Conform.Proofs.Document.Yaml.Tokens

/-!
# Reading nodes off tokens

What reading the structure of a document off its tokens comes to (`Graph.ends_ofLoaded`). It fails
with the trouble that cutting the text stopped at, where the tokens are not in order, or where nodes
lie too deep in others. It only succeeds where it comes to the end of the document.
-/

namespace Conform.Document.Yaml

/-- The faults that a document can have before its parts are given values. -/
def syntaxFaults : List Fault := [.overflow, .badValue, .tooDeep]

/-- A reader that has come some way through tokens, and meets a trouble of the syntax after them. -/
structure Reader.Within (ts : List Token) (r : Reader) : Prop where
  /-- What is left are the last of the tokens. -/
  suffix : r.tokens <:+ ts
  /-- The trouble after them. -/
  trouble : r.trouble.Among syntaxFaults

namespace Reading

open Reader (Within)

/-- Reading that goes some way through tokens, or meets a trouble of the syntax. -/
abbrev Keeps {α : Type} (ts : List Token) (act : Reading α) : Prop :=
  EndsFrom (Within ts) (fun _ => Within ts) (Trouble.Among syntaxFaults) act

variable {α : Type} {ts : List Token}

/-! ## Single tokens -/

theorem keeps_malformed : Keeps ts (malformed : Reading α) := .throw trivial

/-- The next token is one of the tokens. -/
theorem peek_spec :
    EndsFrom (Within ts) (fun t r => Within ts r ∧ t ∈ ts) (Trouble.Among syntaxFaults) peek := by
  refine EndsFrom.read.bind fun r => .of_and fun hr => ?_
  split
  next t rest htokens =>
    have ht : t ∈ ts := hr.suffix.subset (htokens ▸ List.mem_cons_self)
    exact .pure fun _ hs => ⟨hs, ht⟩
  next => exact .throw hr.trouble

theorem keeps_peek : Keeps ts peek := peek_spec.mono fun _ _ h => h.1

theorem keeps_advance : Keeps ts advance :=
  .modify fun r hr => ⟨(List.tail_suffix r.tokens).trans hr.suffix, hr.trouble⟩

/-- One of the tokens that are looked for is among the tokens if it comes next. -/
theorem nextIs_spec (wanted : List Token) :
    EndsFrom (Within ts) (fun found r => Within ts r ∧ (found = true → ∃ t ∈ wanted, t ∈ ts))
      (Trouble.Among syntaxFaults) (nextIs wanted) :=
  peek_spec.bind fun t => .pure fun _ hr =>
    ⟨hr.1, fun hfound => ⟨t, List.contains_iff_mem.1 hfound, hr.2⟩⟩

theorem keeps_nextIs (wanted : List Token) : Keeps ts (nextIs wanted) :=
  (nextIs_spec wanted).mono fun _ _ h => h.1

/-- A token that is accepted is among the tokens. -/
theorem accept_spec (t : Token) :
    EndsFrom (Within ts) (fun found r => Within ts r ∧ (found = true → t ∈ ts))
      (Trouble.Among syntaxFaults) (accept t) := by
  refine (nextIs_spec [t]).bind fun found => .of_and fun hfound => ?_
  have ht : found = true → t ∈ ts := by simpa using hfound
  refine .ite (fun _ => ?_) fun _ => .pure fun _ hr => ⟨hr, ht⟩
  exact keeps_advance.bind fun _ => .pure fun _ hr => ⟨hr, ht⟩

theorem keeps_accept (t : Token) : Keeps ts (accept t) := (accept_spec t).mono fun _ _ h => h.1

/-- A token that is demanded is among the tokens. -/
theorem demand_spec (t : Token) :
    EndsFrom (Within ts) (fun _ r => Within ts r ∧ t ∈ ts) (Trouble.Among syntaxFaults)
      (demand t) := by
  refine (accept_spec t).bind fun found => .of_and fun hfound => ?_
  exact .ite (fun h => .pure fun _ hr => ⟨hr, hfound h⟩) fun _ => .throw trivial

theorem keeps_demand (t : Token) : Keeps ts (demand t) := (demand_spec t).mono fun _ _ h => h.1

/-! ## Nodes -/

theorem keeps_addNode (anchor : Option String) (n : Node) : Keeps ts (addNode anchor n) := by
  refine EndsFrom.read.bind fun r => .of_and fun hr => ?_
  dsimp only
  split
  · refine EndsFrom.bind (.set fun _ _ => ?_) fun _ => .pure fun _ hs => hs
    exact ⟨hr.suffix, hr.trouble⟩
  · refine .ite (fun _ => keeps_malformed) fun _ => ?_
    refine EndsFrom.bind (.set fun _ _ => ?_) fun _ => .pure fun _ hs => hs
    exact ⟨hr.suffix, hr.trouble⟩

theorem keeps_empty : Keeps ts empty := keeps_addNode none _

/-- Going into a node may go too deep. -/
theorem keeps_inside {parts : Reading α} (h : Keeps ts parts) : Keeps ts (inside parts) := by
  refine EndsFrom.read.bind fun r => .of_and fun _ => ?_
  -- The depth is put up for the parts and put back after them.
  have hdepth (depth : Nat) : Keeps ts (modify fun r => { r with depth } : Reading Unit) :=
    .modify fun r hr => ⟨hr.suffix, hr.trouble⟩
  refine .ite (fun _ => .fault (by decide)) fun _ => ?_
  refine (hdepth _).bind fun _ => h.bind fun found => ?_
  exact (hdepth _).bind fun _ => .pure fun _ hr => hr

theorem keeps_wholeTag (handle : Option String) (suffix : String) :
    Keeps ts (wholeTag handle suffix) := by
  unfold wholeTag
  split
  · exact .pure fun _ hr => hr
  · refine EndsFrom.read.bind fun r => .of_and fun _ => ?_
    split
    · exact .pure fun _ hr => hr
    · exact keeps_malformed

theorem keeps_properties : Keeps ts properties := by
  unfold properties
  refine keeps_peek.bind fun t => ?_
  split
  · refine keeps_advance.bind fun _ => keeps_peek.bind fun t => ?_
    split
    · exact keeps_advance.bind fun _ => (keeps_wholeTag _ _).bind fun _ => .pure fun _ hr => hr
    · exact .pure fun _ hr => hr
  · refine keeps_advance.bind fun _ => keeps_peek.bind fun t => ?_
    split
    · exact keeps_advance.bind fun _ => (keeps_wholeTag _ _).bind fun _ => .pure fun _ hr => hr
    · exact (keeps_wholeTag _ _).bind fun _ => .pure fun _ hr => hr
  · exact .pure fun _ hr => hr

theorem keeps_sequenceOf (anchor tag : Option String) {items : Reading (List Nat)}
    (h : Keeps ts items) : Keeps ts (sequenceOf anchor tag items) := by
  -- The node is there before its items are read, and gets them in the end.
  refine (keeps_addNode anchor _).bind fun id => (keeps_inside h).bind fun items => ?_
  refine EndsFrom.bind (.modify fun r hr => ?_) fun _ => .pure fun _ hr => hr
  exact ⟨hr.suffix, hr.trouble⟩

theorem keeps_mappingOf (anchor tag : Option String) {entries : Reading (List (Nat × Nat))}
    (h : Keeps ts entries) : Keeps ts (mappingOf anchor tag entries) := by
  refine (keeps_addNode anchor _).bind fun id => (keeps_inside h).bind fun items => ?_
  refine EndsFrom.bind (.modify fun r hr => ?_) fun _ => .pure fun _ hr => hr
  exact ⟨hr.suffix, hr.trouble⟩

/-- What is kept by all readers of nodes with a bound on the steps. -/
structure AllKeep (ts : List Token) (fuel : Nat) : Prop where
  node (inBlock dashes : Bool) : Keeps ts (node inBlock dashes fuel)
  nodeUnless (stops : List Token) (inBlock dashes : Bool) :
    Keeps ts (nodeUnless stops inBlock dashes fuel)
  blockItems : Keeps ts (blockItems fuel)
  dashItems : Keeps ts (dashItems fuel)
  blockEntries : Keeps ts (blockEntries fuel)
  flowItems (first : Bool) : Keeps ts (flowItems first fuel)
  flowEntries (first : Bool) : Keeps ts (flowEntries first fuel)

namespace AllKeep

variable {fuel : Nat}

theorem zero : AllKeep ts 0 where
  node _ _ := keeps_malformed
  nodeUnless _ _ _ := keeps_malformed
  blockItems := keeps_malformed
  dashItems := keeps_malformed
  blockEntries := keeps_malformed
  flowItems _ := keeps_malformed
  flowEntries _ := keeps_malformed

/-- Going on after an item that may be left out behind an indicator. -/
theorem optional (h : AllKeep ts fuel) (found : Bool) (stops : List Token) (inBlock dashes : Bool)
    {next : Nat → Reading α} (hnext : ∀ item, Keeps ts (next item)) :
    Keeps ts (if found then Reading.nodeUnless stops inBlock dashes fuel >>= next
      else Reading.empty >>= next) :=
  .ite (fun _ => (h.nodeUnless stops inBlock dashes).bind hnext) fun _ => keeps_empty.bind hnext

/-- Going on after the comma between the parts of a flow collection. -/
theorem comma (first : Bool) {next : PUnit → Reading α} (hnext : ∀ u, Keeps ts (next u)) :
    Keeps ts (if first then next ⟨⟩ else demand .flowEntry >>= next) :=
  .ite (fun _ => hnext ⟨⟩) fun _ => (keeps_demand _).bind hnext

theorem node_succ (h : AllKeep ts fuel) (inBlock dashes : Bool) :
    Keeps ts (Reading.node inBlock dashes (fuel + 1)) := by
  unfold Reading.node
  refine keeps_peek.bind fun t => ?_
  split
  · refine keeps_advance.bind fun _ => EndsFrom.read.bind fun r => .of_and fun _ => ?_
    split
    · exact .pure fun _ hr => hr
    · exact keeps_malformed
  refine keeps_properties.bind fun ⟨anchor, tag⟩ => keeps_peek.bind fun t => ?_
  split
  · exact keeps_advance.bind fun _ => keeps_addNode _ _
  · exact keeps_advance.bind fun _ => keeps_sequenceOf _ _ (h.flowItems true)
  · exact keeps_advance.bind fun _ => keeps_mappingOf _ _ (h.flowEntries true)
  · refine .ite (fun _ => keeps_sequenceOf _ _ h.dashItems) fun _ => ?_
    refine .ite (fun _ => ?_) fun _ => .ite (fun _ => ?_) fun _ => ?_
    · exact keeps_advance.bind fun _ => keeps_sequenceOf _ _ h.blockItems
    · exact keeps_advance.bind fun _ => keeps_mappingOf _ _ h.blockEntries
    · exact .ite (fun _ => keeps_addNode _ _) fun _ => keeps_malformed

theorem blockItems_succ (h : AllKeep ts fuel) : Keeps ts (Reading.blockItems (fuel + 1)) := by
  refine (keeps_accept _).bind fun _ => .ite (fun _ => ?_) fun _ => ?_
  · refine (h.nodeUnless _ _ _).bind fun _ => h.blockItems.bind fun _ => .pure fun _ hr => hr
  · exact (keeps_demand _).bind fun _ => .pure fun _ hr => hr

theorem dashItems_succ (h : AllKeep ts fuel) : Keeps ts (Reading.dashItems (fuel + 1)) := by
  refine (keeps_accept _).bind fun _ => .ite (fun _ => ?_) fun _ => .pure fun _ hr => hr
  exact (h.nodeUnless _ _ _).bind fun _ => h.dashItems.bind fun _ => .pure fun _ hr => hr

theorem blockEntries_succ (h : AllKeep ts fuel) : Keeps ts (Reading.blockEntries (fuel + 1)) := by
  refine (keeps_accept _).bind fun _ => .ite (fun _ => ?_) fun _ => ?_
  · refine (h.nodeUnless _ _ _).bind fun _ => (keeps_accept _).bind fun _ => ?_
    refine h.optional _ _ _ _ fun _ => h.blockEntries.bind fun _ => .pure fun _ hr => hr
  · exact (keeps_demand _).bind fun _ => .pure fun _ hr => hr

theorem flowItems_succ (h : AllKeep ts fuel) (first : Bool) :
    Keeps ts (Reading.flowItems first (fuel + 1)) := by
  refine (keeps_accept _).bind fun _ => .ite (fun _ => .pure fun _ hr => hr) fun _ => ?_
  refine comma first fun _ => ?_
  refine (keeps_accept _).bind fun _ => .ite (fun _ => .pure fun _ hr => hr) fun _ => ?_
  refine (keeps_accept _).bind fun _ => .ite (fun _ => ?_) fun _ => ?_
  · refine (keeps_mappingOf none none ?_).bind fun _ => (h.flowItems false).bind fun _ =>
      .pure fun _ hr => hr
    refine (h.nodeUnless _ _ _).bind fun _ => (keeps_accept _).bind fun _ => ?_
    exact h.optional _ _ _ _ fun _ => .pure fun _ hr => hr
  · exact (h.node _ _).bind fun _ => (h.flowItems false).bind fun _ => .pure fun _ hr => hr

theorem flowEntries_succ (h : AllKeep ts fuel) (first : Bool) :
    Keeps ts (Reading.flowEntries first (fuel + 1)) := by
  refine (keeps_accept _).bind fun _ => .ite (fun _ => .pure fun _ hr => hr) fun _ => ?_
  refine comma first fun _ => ?_
  refine (keeps_accept _).bind fun _ => .ite (fun _ => .pure fun _ hr => hr) fun _ => ?_
  refine (keeps_accept _).bind fun _ => .ite (fun _ => ?_) fun _ => ?_
  · refine (h.nodeUnless _ _ _).bind fun _ => (keeps_accept _).bind fun _ => ?_
    refine h.optional _ _ _ _ fun _ => (h.flowEntries false).bind fun _ => .pure fun _ hr => hr
  · refine (h.node _ _).bind fun _ => keeps_empty.bind fun _ => ?_
    exact (h.flowEntries false).bind fun _ => .pure fun _ hr => hr

end AllKeep

/-- All readers of nodes go some way through the tokens, whatever the bound on their steps. -/
theorem allKeep (ts : List Token) (fuel : Nat) : AllKeep ts fuel := by
  induction fuel with
  | zero => exact .zero
  | succ fuel ih =>
    -- Every reader calls the others with one step less.
    exact {
      node := ih.node_succ
      nodeUnless := fun stops inBlock dashes =>
        (keeps_nextIs stops).bind fun _ =>
          .ite (fun _ => keeps_empty) fun _ => ih.node inBlock dashes
      blockItems := ih.blockItems_succ
      dashItems := ih.dashItems_succ
      blockEntries := ih.blockEntries_succ
      flowItems := ih.flowItems_succ
      flowEntries := ih.flowEntries_succ }

/-! ## Documents -/

theorem keeps_directives (fuel : Nat) (versioned : Bool) (handles : List (String × String)) :
    Keeps ts (directives fuel versioned handles) := by
  induction fuel generalizing versioned handles with
  | zero => exact keeps_malformed
  | succ fuel ih =>
    unfold directives
    refine keeps_peek.bind fun t => ?_
    split
    · exact keeps_advance.bind fun _ => .ite (fun _ => keeps_malformed) fun _ => ih _ _
    · exact keeps_advance.bind fun _ => .ite (fun _ => keeps_malformed) fun _ => ih _ _
    · exact keeps_advance.bind fun _ => ih _ _
    · exact .pure fun _ hr => hr

theorem keeps_atStart : Keeps ts atStart := by
  refine keeps_peek.bind fun t => ?_
  split <;> exact .pure fun _ hr => hr

theorem keeps_documentEnds (fuel : Nat) : Keeps ts (documentEnds fuel) := by
  induction fuel with
  | zero => exact .pure fun _ hr => hr
  | succ fuel ih =>
    exact (keeps_accept _).bind fun _ => .ite (fun _ => ih) fun _ => .pure fun _ hr => hr

theorem keeps_root (fuel : Nat) : Keeps ts (root fuel) := by
  have hhandles (handles : List (String × String)) :
      Keeps ts (modify fun r => { r with handles } : Reading Unit) :=
    .modify fun r hr => ⟨hr.suffix, hr.trouble⟩
  refine keeps_atStart.bind fun _ => .ite (fun _ => ?_) fun _ => ?_
  · refine (keeps_directives _ _ _).bind fun declared => (hhandles _).bind fun _ => ?_
    refine (keeps_demand _).bind fun _ => keeps_atStart.bind fun started => ?_
    refine (keeps_nextIs _).bind fun _ => .ite (fun _ => keeps_empty) fun _ => ?_
    exact (allKeep ts fuel).node _ _
  · exact (hhandles _).bind fun _ => (allKeep ts fuel).node _ _

/-- Reading a document that succeeds has come to the end of it. -/
theorem document_spec (fuel : Nat) :
    EndsFrom (Within ts) (fun _ _ => .streamEnd ∈ ts) (Trouble.Among syntaxFaults)
      (document fuel) := by
  refine (nextIs_spec _).bind fun found => .of_and fun hfound => .ite (fun h => ?_) fun _ => ?_
  -- The end comes at once, in a text without a document, or is demanded after the root.
  · obtain ⟨t, ht, hmem⟩ := hfound h
    obtain rfl := List.mem_singleton.1 ht
    exact .pure fun _ _ => hmem
  · refine (keeps_root fuel).bind fun root => (keeps_documentEnds fuel).bind fun _ => ?_
    exact (demand_spec .streamEnd).bind fun _ => .pure fun _ hr => hr.2

end Reading

/-- Making the graph of a document ends with one, or with a trouble of the syntax. It only ends with
one, or with none, if the text is all of the document. -/
theorem Graph.ends_ofLoaded (loaded : Loaded) :
    Ends (fun _ => loaded.complete = true) (Trouble.Among syntaxFaults) (Graph.ofLoaded loaded) := by
  obtain ⟨htrouble, hopen⟩ := Token.ofLoaded_spec loaded
  unfold Graph.ofLoaded
  generalize Token.ofLoaded loaded = found at htrouble hopen
  obtain ⟨tokens, trouble⟩ := found
  have hwithin : Reader.Within tokens { tokens, trouble } :=
    ⟨List.suffix_rfl, htrouble.mono (by decide)⟩
  refine (Reading.document_spec _ _ hwithin).bind fun result hend => ?_
  -- The end was found, so nothing is missing from the text.
  have hcomplete : loaded.complete = true := eq_true_of_ne_false fun hnot => hopen hnot hend
  exact hcomplete

end Conform.Document.Yaml
