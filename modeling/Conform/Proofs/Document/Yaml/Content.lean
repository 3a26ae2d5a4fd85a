import Conform.Document.Yaml.Content
import Conform.Proofs.Document.Yaml.Structure
import Conform.Proofs.Value.Documents

/-!
# Reading YAML documents

What reading a YAML document ends with, whatever the bytes (`Document.Yaml.ends_read`): a value that
a document can hold, if the bytes are a text, or the trouble that the document is malformed or has a
part with one of a few faults. Most of them are those of scalars that do not fit their tags
(`Scalar.ends_readers`).
-/

namespace Conform.Document.Yaml

open Value (IsScalar IsDocument)

/-- The faults that a part of a document can have: texts that do not fit their tags, dates under
merged keys, and parts that lie too deep in others. -/
def partFaults : List Fault :=
  [.badValue, .overflow, .noIndex, .noKey, .noAttribute, .typeMismatch, .tooDeep]

/-- The troubles that a document can have. -/
abbrev Lawful : Trouble → Prop := Trouble.Among partFaults

/-! ## Scalars -/

namespace Scalar

theorem ends_signed (cs : List Char) : Ends (fun _ => True) Lawful (signed cs) :=
  .ite (fun _ => ends_fault (by decide)) fun _ => trivial

theorem ends_integer (s : String) : Ends (fun _ => True) Lawful (integer s) := by
  unfold integer
  split
  · trivial
  · exact ends_fault (by decide)

theorem ends_inBase (base : Nat) (cs : List Char) : Ends (fun _ => True) Lawful (inBase base cs) := by
  unfold inBase
  split
  · trivial
  · exact ends_fault (by decide)

theorem ends_int (s : String) : Ends (fun _ => True) Lawful (int s) := by
  unfold int
  refine (ends_signed _).bind fun ⟨negative, body⟩ _ => ?_
  dsimp only
  split
  · exact Ends.bind (ends_fault (by decide)) fun (_ : Int) (_ : True) => trivial
  · trivial
  · exact (ends_inBase _ _).bind fun _ _ => trivial
  · exact (ends_inBase _ _).bind fun _ _ => trivial
  · exact (ends_inBase _ _).bind fun _ _ => trivial
  · refine .ite (fun _ => ?_) fun _ => (ends_integer _).bind fun _ _ => trivial
    exact (Ends.mapM fun part _ => ends_integer part).bind fun _ _ => trivial

theorem ends_double (s : String) : Ends (fun _ => True) Lawful (double s) := by
  unfold double
  split
  · trivial
  · exact ends_fault (by decide)

theorem ends_sixties (sum : Binary64) (weight : Nat) (digits : List Binary64) :
    Ends (fun _ => True) Lawful (sixties sum weight digits) := by
  induction digits generalizing sum weight with
  | nil => trivial
  | cons d rest ih => exact .ite (fun _ => ends_fault (by decide)) fun _ => ih _ _

theorem ends_float (s : String) : Ends (fun _ => True) Lawful (float s) := by
  unfold float
  refine (ends_signed _).bind fun ⟨negative, body⟩ _ => ?_
  dsimp only
  refine .ite (fun _ => trivial) fun _ => .ite (fun _ => trivial) fun _ => ?_
  refine .ite (fun _ => ?_) fun _ => (ends_double _).bind fun _ _ => trivial
  refine (Ends.mapM fun part _ => ends_double part).bind fun digits _ => ?_
  exact (ends_sixties _ _ _).bind fun _ _ => trivial

theorem ends_bool (s : String) : Ends (fun _ => True) Lawful (bool s) :=
  .ite (fun _ => trivial) fun _ => .ite (fun _ => trivial) fun _ => ends_fault (by decide)

theorem ends_timestamp (s : String) : Ends (fun _ => True) Lawful (timestamp s) := by
  unfold timestamp
  split
  · exact .ite (fun _ => trivial) fun _ => ends_fault (by decide)
  · exact ends_fault (by decide)

theorem ends_sixBitBytes (place left fill : Nat) (cs : List Char) :
    Ends (fun _ => True) Lawful (sixBitBytes place left fill cs) := by
  induction cs generalizing place left fill with
  | nil =>
    unfold sixBitBytes
    exact .ite (fun _ => trivial) fun _ => trivial
  | cons c rest ih =>
    unfold sixBitBytes
    refine .ite (fun _ => .ite (fun _ => trivial) fun _ => ih _ _ _) fun _ => ?_
    split
    · exact ih _ _ _
    split
    · exact ih _ _ _
    all_goals exact (ih _ _ _).bind fun _ _ => trivial

theorem ends_binary (s : String) : Ends (fun _ => True) Lawful (binary s) :=
  .ite (fun _ => ends_sixBitBytes _ _ _ _) fun _ => trivial

/-- What the text under a tag of scalars is read as is a scalar. -/
theorem ends_readers {tag : String} {read : String → Except Trouble Value}
    (h : (tag, read) ∈ readers) (s : String) : Ends IsScalar Lawful (read s) := by
  obtain ⟨⟨name, read⟩, hmem, heq⟩ := List.mem_map.1 h
  obtain ⟨-, rfl⟩ := Prod.mk.inj heq
  simp only [List.mem_cons, Prod.mk.injEq, List.not_mem_nil, or_false] at hmem
  rcases hmem with ⟨-, rfl⟩ | ⟨-, rfl⟩ | ⟨-, rfl⟩ | ⟨-, rfl⟩ | ⟨-, rfl⟩ | ⟨-, rfl⟩ | ⟨-, rfl⟩
  · exact .text s
  · exact .null
  · exact .map ((ends_bool s).mono fun b _ => .bool b)
  · exact .map ((ends_int s).mono fun n _ => .int n)
  · exact .map ((ends_float s).mono fun found _ => .float found.1 found.2)
  · exact .map ((ends_timestamp s).mono fun m _ => .moment m)
  · exact .map ((ends_binary s).mono fun content _ => .bytes content)

theorem ends_of_lookup {tag : String} {read : String → Except Trouble Value}
    (h : readers.lookup tag = some read) (s : String) : Ends IsScalar Lawful (read s) := by
  obtain ⟨earlier, later, hreaders, -⟩ := List.lookup_eq_some_iff.1 h
  exact ends_readers (hreaders ▸ List.mem_append_right earlier List.mem_cons_self) s

end Scalar

/-! ## Merged mappings -/

namespace Graph

namespace Merging

/-- Work on a graph that only has troubles that a document can have. -/
abbrev Works {α : Type} (act : Merging α) : Prop :=
  EndsFrom (fun _ => True) (fun _ _ => True) Lawful act

theorem works_set (g : Graph) : Works (set g) := .set fun _ _ => trivial

section

variable {flatten : Nat → Merging Unit}

theorem works_broughtBy (hflatten : ∀ id, Works (flatten id)) (item : Nat) :
    Works (broughtBy flatten item) := by
  unfold broughtBy
  refine EndsFrom.read.bind fun g => .of_and fun _ => ?_
  split
  · exact (hflatten item).bind fun _ => EndsFrom.read.bind fun g => .pure fun _ _ => trivial
  · -- All mappings in the sequence are flattened before any of them is read.
    refine (EndsFrom.mapM_keeps fun id => ?_).bind fun records => EndsFrom.read.bind fun g =>
      .pure fun _ _ => trivial
    refine EndsFrom.read.bind fun g => .of_and fun _ => ?_
    split
    · exact (hflatten id).bind fun _ => EndsFrom.read.bind fun g => .pure fun _ _ => trivial
    · exact .throw trivial
  · exact .throw trivial

theorem works_takeOut (hflatten : ∀ id, Works (flatten id)) (id left index : Nat) :
    Works (takeOut flatten id left index) := by
  induction left generalizing index with
  | zero => exact .pure fun _ _ => trivial
  | succ left ih =>
    unfold takeOut
    refine EndsFrom.read.bind fun g => .of_and fun _ => ?_
    dsimp only
    split
    · exact .pure fun _ _ => trivial
    next key item _ =>
      -- An entry under the merge key is taken out, and its place is looked at again.
      refine .ite (fun _ => ?_) fun _ => ?_
      · refine (works_set _).bind fun _ => (works_broughtBy hflatten item).bind fun brought => ?_
        exact (ih index).bind fun _ => .pure fun _ _ => trivial
      · refine .ite (fun _ => ?_) fun _ => ih (index + 1)
        exact (works_set _).bind fun _ => ih (index + 1)

end

/-- Flattening a mapping may go too deep. -/
theorem works_flatten (depth id : Nat) : Works (flatten depth id) := by
  induction depth generalizing id with
  | zero => exact .fault (by decide)
  | succ depth ih =>
    unfold flatten
    refine EndsFrom.read.bind fun g => .of_and fun _ => ?_
    refine (works_takeOut ih id _ _).bind fun brought => EndsFrom.read.bind fun g => ?_
    exact .ite (fun _ => .pure fun _ _ => trivial) fun _ => fun _ _ => trivial

end Merging

theorem ends_flatten (g : Graph) (id : Nat) : Ends (fun _ => True) Lawful (g.flatten id) := by
  have hflatten := Merging.works_flatten mergeLimit id g trivial
  exact hflatten.bind fun _ _ => trivial

/-! ## Values of nodes -/

/-- A text may be looked for too deep. -/
theorem ends_text (g : Graph) (depth id : Nat) :
    Ends (fun _ => True) Lawful (g.text depth id) := by
  induction depth generalizing id with
  | zero => exact ends_fault (by decide)
  | succ depth ih =>
    unfold text
    split
    · trivial
    · trivial
    · split
      · exact ih _
      · trivial

/-- The value of a node that is no collection is a scalar. -/
theorem ends_scalarValue (g : Graph) (id : Nat) : Ends IsScalar Lawful (g.scalarValue id) := by
  unfold scalarValue
  have hread : Ends (fun read => ∀ s, Ends IsScalar Lawful (read s)) Lawful
      (Trouble.required (Scalar.readers.lookup (g.tag id))) :=
    ends_required trivial fun read hread => Scalar.ends_of_lookup hread
  refine hread.bind fun read hread => (ends_text g textLimit id).bind fun text _ => ?_
  split
  · exact .ite (fun _ => ends_fault (by decide)) fun _ => hread text
  · exact hread text

end Graph

/-! ## Contents -/

/-- A content has scalars where a document can hold nothing else: the value of a scalar, and the
keys of sets and mappings. -/
def Content.HasScalars : Content → Prop
  | .value v => IsScalar v
  | .set keys => ∀ key ∈ keys, IsScalar key
  | .mapping entries => ∀ entry ∈ entries, IsScalar entry.1
  | .list _ | .pairs _ => True

/-- All contents that are known have scalars where they should. -/
def Maker.Sound (m : Maker) : Prop := ∀ c, some c ∈ m.contents → c.HasScalars

theorem CollectionKind.hasScalars_empty (kind : CollectionKind) : kind.empty.HasScalars := by
  cases kind <;> simp [empty, Content.HasScalars]

theorem mem_of_getD_eq_some {α : Type} {xs : Array (Option α)} {i : Nat} {a : α}
    (h : xs[i]?.getD none = some a) : some a ∈ xs := by
  cases hget : xs[i]? with
  | none =>
    rw [hget] at h
    cases h
  | some found =>
    rw [hget] at h
    obtain rfl : found = some a := h
    exact Array.mem_of_getElem? hget

namespace Making

/-- Making contents keeps them sound, and only has troubles that a document can have. -/
abbrev Keeps {α : Type} (act : Making α) : Prop :=
  EndsFrom Maker.Sound (fun _ => Maker.Sound) Lawful act

theorem keeps_put (id : Nat) {c : Content} (hc : c.HasScalars) : Keeps (put id c) := by
  refine .modify fun m hm c' hc' => ?_
  rcases Array.mem_or_eq_of_mem_setIfInBounds hc' with hmem | heq
  · exact hm c' hmem
  · obtain rfl := Option.some.inj heq
    exact hc

theorem keeps_set {m : Maker} (hm : m.Sound) : Keeps (set m) := .set fun _ _ => hm

/-- The content that is met has scalars where it should. -/
theorem meet_spec (id : Nat) :
    EndsFrom Maker.Sound (fun c m => m.Sound ∧ c.HasScalars) Lawful (meet id) := by
  unfold meet
  refine EndsFrom.read.bind fun m => .of_and fun hm => ?_
  dsimp only
  split
  next c hc => exact .pure fun _ hs => ⟨hs, hm c (mem_of_getD_eq_some hc)⟩
  next =>
    split
    next kind _ =>
      -- A collection is met for the first time, and is empty so far.
      have hempty := kind.hasScalars_empty
      have hmet : Keeps (set { m with met := m.met.push id }) := keeps_set hm
      refine hmet.bind fun _ => (keeps_put id hempty).bind fun _ => ?_
      exact .pure fun _ hs => ⟨hs, hempty⟩
    next =>
      have hvalue : EndsFrom Maker.Sound (fun v m => m.Sound ∧ IsScalar v) Lawful
          (liftM (m.graph.scalarValue id) : Making Value) :=
        .lift fun s hs => (m.graph.ends_scalarValue id).mono fun v hv => ⟨hs, hv⟩
      refine hvalue.bind fun v => .of_and fun hv => ?_
      have hcontent : (Content.value v).HasScalars := hv
      exact (keeps_put id hcontent).bind fun _ => .pure fun _ hs => ⟨hs, hcontent⟩

theorem keeps_meet (id : Nat) : Keeps (meet id) := (meet_spec id).mono fun _ _ h => h.1

/-- A key is a scalar, since it must not be a collection. -/
theorem meetKey_spec (id : Nat) :
    EndsFrom Maker.Sound (fun v m => m.Sound ∧ IsScalar v) Lawful (meetKey id) := by
  refine (meet_spec id).bind fun c => .of_and fun hc => ?_
  split
  · exact .pure fun _ hm => ⟨hm, hc⟩
  · exact .throw trivial

theorem fillEntries_spec (id : Nat) :
    EndsFrom Maker.Sound (fun entries m => m.Sound ∧ ∀ entry ∈ entries, IsScalar entry.1) Lawful
      (fillEntries id) := by
  unfold fillEntries
  refine EndsFrom.read.bind fun m => .of_and fun hm => ?_
  dsimp only
  split
  · have hflatten : Keeps (liftM (m.graph.flatten id) : Making Graph) :=
      .lift fun s hs => (m.graph.ends_flatten id).mono fun _ _ => hs
    have hgraph (g : Graph) : Keeps (set { m with graph := g }) := keeps_set hm
    refine hflatten.bind fun g => (hgraph g).bind fun _ => .mapM fun entry _ => ?_
    refine (meetKey_spec _).bind fun key => .of_and fun hkey => (keeps_meet _).bind fun _ => ?_
    exact .pure fun _ hs => ⟨hs, hkey⟩
  · exact .throw trivial

theorem keeps_fillPair (id : Nat) : Keeps (fillPair id) := by
  refine EndsFrom.read.bind fun m => .of_and fun _ => ?_
  split
  · exact (keeps_meet _).bind fun _ => (keeps_meet _).bind fun _ => .pure fun _ hm => hm
  · exact .throw trivial

theorem keeps_fillItems {α : Type} {part : Nat → Making α} (h : ∀ id, Keeps (part id)) (id : Nat) :
    Keeps (fillItems part id) := by
  refine EndsFrom.read.bind fun m => .of_and fun _ => ?_
  split
  · exact .mapM_keeps h
  · exact .throw trivial

theorem keeps_fill (id : Nat) : Keeps (fill id) := by
  refine EndsFrom.read.bind fun m => .of_and fun _ => ?_
  split
  · refine (keeps_fillItems (fun item => ?_) id).bind fun _ => keeps_put id trivial
    exact (keeps_meet item).bind fun _ => .pure fun _ hm => hm
  · exact (keeps_fillItems keeps_fillPair id).bind fun _ => keeps_put id trivial
  · refine (fillEntries_spec id).bind fun entries => .of_and fun hentries => keeps_put id ?_
    intro key hkey
    obtain ⟨entry, hentry, rfl⟩ := List.mem_map.1 hkey
    exact hentries entry hentry
  · exact (fillEntries_spec id).bind fun entries => .of_and fun hentries => keeps_put id hentries
  · exact .pure fun _ hm => hm

theorem keeps_fillFrom (left place : Nat) : Keeps (fillFrom left place) := by
  induction left generalizing place with
  | zero => exact .pure fun _ hm => hm
  | succ left ih =>
    refine EndsFrom.read.bind fun m => .of_and fun _ => ?_
    split
    · exact .pure fun _ hm => hm
    · exact (keeps_fill _).bind fun _ => ih (place + 1)

end Making

/-! ## Values -/

/-- All values that are known can be held by a document. -/
def Known (vs : Values) : Prop := ∀ v, some v ∈ vs → IsDocument v

/-- Working out values of nodes gives something of a kind, and keeps what is known in order. -/
def Settles {α : Type} (good : α → Prop) (act : StateM Values α) : Prop :=
  ∀ vs, Known vs → good (act.run vs).1 ∧ Known (act.run vs).2

namespace Settles

variable {α β : Type}

theorem pure {good : α → Prop} {a : α} (h : good a) : Settles good (pure a) :=
  fun _ hvs => ⟨h, hvs⟩

theorem bind {mid : α → Prop} {good : β → Prop} {act : StateM Values α}
    {next : α → StateM Values β} (hact : Settles mid act)
    (hnext : ∀ a, mid a → Settles good (next a)) : Settles good (act >>= next) :=
  fun vs hvs => hnext _ (hact vs hvs).1 _ (hact vs hvs).2

theorem read : Settles Known (get : StateM Values Values) := fun _ hvs => ⟨hvs, hvs⟩

/-- A value of a document may become known. -/
theorem known (id : Nat) {v : Value} (hv : IsDocument v) :
    Settles (fun _ => True) (modify fun vs => vs.setIfInBounds id (some v) : StateM Values Unit) := by
  refine fun vs hvs => ⟨trivial, fun w hw => ?_⟩
  rcases Array.mem_or_eq_of_mem_setIfInBounds hw with hmem | heq
  · exact hvs w hmem
  · obtain rfl := Option.some.inj heq
    exact hv

theorem mapM {good : β → Prop} {f : α → StateM Values β} {items : List α}
    (h : ∀ a ∈ items, Settles good (f a)) :
    Settles (fun answers => ∀ b ∈ answers, good b) (items.mapM f) := by
  induction items with
  | nil => exact .pure (List.forall_mem_nil good)
  | cons a rest ih =>
    rw [List.mapM_cons]
    refine (h a List.mem_cons_self).bind fun b hb => ?_
    have hrest := ih fun c hc => h c (List.mem_cons_of_mem a hc)
    exact hrest.bind fun bs hbs => .pure (List.forall_mem_cons.2 ⟨hb, hbs⟩)

end Settles

/-- The value of a node can be held by a document. -/
theorem Content.settles_valueOf {contents : Array (Option Content)}
    (h : ∀ c, some c ∈ contents → c.HasScalars) (depth id : Nat) :
    Settles IsDocument (Content.valueOf contents depth id) := by
  induction depth generalizing id with
  | zero => exact .pure (.scalar .null)
  | succ depth ih =>
    unfold valueOf
    refine Settles.read.bind fun vs hvs => ?_
    split
    next v hv => exact .pure (hvs v (mem_of_getD_eq_some hv))
    next =>
      have hkept {v : Value} (hv : IsDocument v) :
          Settles IsDocument (do
            let v ← pure v
            modify fun vs => Array.setIfInBounds vs id (some v)
            pure v : StateM Values Value) :=
        (Settles.pure hv).bind fun v hv => (Settles.known id hv).bind fun _ _ => .pure hv
      dsimp only
      split
      next => exact hkept (.scalar .null)
      next v hcontent => exact hkept (.scalar (h _ (mem_of_getD_eq_some hcontent)))
      next items _ =>
        -- Until its items are known, the list stands for an empty one.
        refine (Settles.known id (.list none (List.forall_mem_nil _))).bind fun _ _ => ?_
        exact (Settles.mapM fun item _ => ih item).bind fun items hitems =>
          hkept (.list none hitems)
      next items _ =>
        refine (Settles.known id (.list none (List.forall_mem_nil _))).bind fun _ _ => ?_
        refine (Settles.mapM fun pair _ => ?_).bind fun pairs hpairs => hkept (.list none hpairs)
        refine (ih pair.1).bind fun key hkey => (ih pair.2).bind fun item hitem => .pure ?_
        exact .tuple none (List.forall_mem_cons.2 ⟨hkey, List.forall_mem_singleton.2 hitem⟩)
      next keys hcontent =>
        have hkeys : ∀ key ∈ keys, IsScalar key := h _ (mem_of_getD_eq_some hcontent)
        -- A set is read as a mapping of its items to the absent value is.
        have hpairs : ∀ pair ∈ keys.map fun key => (key, Value.null),
            IsScalar pair.1 ∧ IsDocument pair.2 := by
          intro pair hpair
          obtain ⟨key, hkey, rfl⟩ := List.mem_map.1 hpair
          exact ⟨hkeys key hkey, .scalar .null⟩
        refine hkept (.set none fun v hv => ?_)
        obtain ⟨entry, hentry, rfl⟩ := List.mem_map.1 hv
        exact .scalar (Value.entry_of_mem_ofPairs hpairs entry hentry).1
      next entries hcontent =>
        have hentries : ∀ entry ∈ entries, IsScalar entry.1 :=
          h _ (mem_of_getD_eq_some hcontent)
        have hempty : IsDocument (.mapping none []) :=
          .mapping none (List.forall_mem_nil _) (List.forall_mem_nil _)
        have hpair (entry : Value × Nat) (hentry : entry ∈ entries) :
            Settles (fun pair => IsScalar pair.1 ∧ IsDocument pair.2)
              (do return (entry.1, ← valueOf contents depth entry.2) :
                StateM Values (Value × Value)) :=
          (ih entry.2).bind fun item hitem => .pure ⟨hentries entry hentry, hitem⟩
        refine (Settles.known id hempty).bind fun _ _ => ?_
        exact (Settles.mapM hpair).bind fun pairs hpairs => hkept (.ofPairs none hpairs)

/-- Nodes stand for values that a document can hold, unless they have one of its troubles. -/
theorem Graph.ends_value (g : Graph) (root : Nat) : Ends IsDocument Lawful (g.value root) := by
  have hmaking : Making.Keeps (do
      let _ ← Making.meet root
      Making.fillFrom g.nodes.size 0) :=
    (Making.keeps_meet root).bind fun _ => Making.keeps_fillFrom _ _
  have hstart : Maker.Sound { graph := g, contents := Array.replicate g.nodes.size none } := by
    intro c hc
    cases (Array.mem_replicate.1 hc).2
  have hnone : Known (Array.replicate g.nodes.size none) := by
    intro v hv
    cases (Array.mem_replicate.1 hv).2
  -- All contents are made first, and the values are worked out from them.
  refine (hmaking _ hstart).bind fun ⟨_, m⟩ hm => ?_
  exact (Content.settles_valueOf hm _ root _ hnone).1

/-! ## Documents -/

/-- All of a document can only be taken if its bytes are a text. -/
theorem Loaded.isSome_textOf? {bytes : List UInt8} (h : (Loaded.ofBytes bytes).complete = true) :
    (textOf? bytes).isSome = true := by
  have hopen (cs : List Char) : (ofText cs false).complete = false := by
    unfold ofText
    split <;> rfl
  -- Bytes that are no text are only taken up to where they are broken.
  unfold ofBytes at h
  split at h
  next cs htext =>
    rw [htext]
    rfl
  next =>
    split at h <;> exact absurd h (by rw [hopen]; exact Bool.false_ne_true)

section

-- What is said of the two is enough here, and unfolding them on given bytes would run the reader.
attribute [local irreducible] Graph.ofLoaded Graph.value

/-- Reading a document ends with a value that it can hold, which takes bytes that are a text, or
with a trouble that it can have. -/
theorem ends_read (bytes : List UInt8) :
    Ends (fun v => IsDocument v ∧ (textOf? bytes).isSome = true) Lawful (read bytes) := by
  have hgraph : Ends (fun _ => (Loaded.ofBytes bytes).complete = true) Lawful
      (Graph.ofLoaded (Loaded.ofBytes bytes)) :=
    (Graph.ends_ofLoaded _).mono_trouble fun _ ht => ht.mono (by decide)
  refine hgraph.bind fun found hcomplete => ?_
  have htext := Loaded.isSome_textOf? hcomplete
  cases found with
  | none => exact ⟨.scalar .null, htext⟩
  | some node => exact (node.1.ends_value node.2).mono fun v hv => ⟨hv, htext⟩

end

end Conform.Document.Yaml
