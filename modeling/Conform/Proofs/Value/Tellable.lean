import Conform.Classifier
import Conform.Proofs.Value.Documents
import Conform.Proofs.Value.Texts
import Mathlib.Logic.Relation

/-!
# Values that can be told

A value of the host may refuse to be written or to tell its name, an integer may be too long to be
written, and so may a value that holds one of them. A value is tellable (`Value.Tellable`) if it has
a text and tells its name if it has one, and so does everything within it: the keys and the items of
mappings, and the names that objects have of their own.

* `Value.Tellable.exists_mention`: a tellable value can be mentioned under every level.
* `Value.Tellable.field`: what a tellable mapping holds is tellable.
* `Value.IsDocument.tellable`: the values of documents are tellable, long integers aside.
-/

namespace Conform

namespace Value

/-- The members of a mapping; other values have none. -/
def membersOf : Value → Entries
  | .mapping _ entries => entries
  | _ => []

theorem membersOf_mapping (mark : Mark) (entries : Entries) :
    (Value.mapping mark entries).membersOf = entries := rfl

theorem isMapping_iff {v : Value} :
    v.isMapping = true ↔ ∃ mark entries, v = .mapping mark entries := by
  cases v <;> simp [isMapping]

/-- A value is part of another: a key or an item of a mapping, or the name that it has of its
own. -/
inductive IsPart : Value → Value → Prop where
  | key (mark : Mark) {entries : Entries} {entry : Value × Value} (h : entry ∈ entries) :
    IsPart entry.1 (.mapping mark entries)
  | item (mark : Mark) {entries : Entries} {entry : Value × Value} (h : entry ∈ entries) :
    IsPart entry.2 (.mapping mark entries)
  | name {v name : Value} (h : v.ownName = .ok (some name)) : IsPart name v

/-- A value has a text and tells its name, and so does everything within it. -/
def Tellable (data : Value) : Prop :=
  ∀ v, Relation.ReflTransGen IsPart v data →
    (∃ text, v.message .unset = .ok text) ∧ ∃ name, v.ownName = .ok name

variable {data v w : Value} {level : Threshold}

theorem Tellable.part (h : Tellable data) (hpart : IsPart v data) : Tellable v :=
  fun w hw => h w (hw.tail hpart)

theorem Tellable.exists_message (h : Tellable v) (level : Threshold) :
    ∃ text, v.message level = .ok text :=
  (write_sameOutcome .unset level .message v).exists_ok (h v .refl).1

/-- A value that has a text is mentioned by it, or by its name, which is within the value. -/
theorem Tellable.exists_mention (h : Tellable v) (level : Threshold) :
    ∃ given, v.mention level = .ok given := by
  rw [mention_eq_message_shown, shown]
  split_ifs
  · obtain ⟨name, hname⟩ := (h v .refl).2
    rw [hname]
    cases name with
    | none => exact ⟨_, rfl⟩
    | some name => exact (h.part (.name hname)).exists_message level
  · exact h.exists_message level

theorem Tellable.null : Tellable .null := by
  intro v hv
  rcases hv.cases_tail with rfl | ⟨w, -, hpart⟩
  · exact ⟨⟨_, rfl⟩, _, rfl⟩
  · cases hpart with
    | name hname => cases hname

/-- The keys and the items of a tellable mapping are tellable. -/
theorem Tellable.entry (h : Tellable data) {entry : Value × Value}
    (hentry : entry ∈ data.membersOf) : Tellable entry.1 ∧ Tellable entry.2 := by
  cases data with
  | mapping mark entries => exact ⟨h.part (.key mark hentry), h.part (.item mark hentry)⟩
  | _ => cases hentry

/-- What a tellable mapping holds under a name is tellable, if what stands for a missing item is. -/
theorem Tellable.field (h : Tellable data) {default : Value} (hdefault : Tellable default)
    (name : String) : Tellable ((Entries.field? data.membersOf name).getD default) := by
  cases hfield : Entries.field? data.membersOf name with
  | none => exact hdefault
  | some v =>
    obtain ⟨entry, hentry, rfl⟩ := Option.map_eq_some_iff.1 hfield
    exact (h.entry (List.mem_of_find?_eq_some hentry)).2

/-- A value of a document has no name of its own. -/
theorem IsDocument.ownName (h : IsDocument data) : data.ownName = .ok none := by
  cases h with
  | scalar h => cases h <;> rfl
  | _ => rfl

/-- The parts of a value of a document are values of documents, with no integers that are too long
if the value has none. -/
theorem IsDocument.part (h : IsDocument data) (hshort : data.holdsLongInteger = false)
    (hpart : IsPart v data) : IsDocument v ∧ v.holdsLongInteger = false := by
  cases hpart with
  | key mark hentry =>
    exact ⟨.scalar (h.entries.1 _ hentry), (short_of_mem_entries hshort _ hentry).1⟩
  | item mark hentry => exact ⟨h.entries.2 _ hentry, (short_of_mem_entries hshort _ hentry).2⟩
  | name hname =>
    rw [h.ownName] at hname
    cases hname

/-- A value of a document without integers that are too long is tellable. -/
theorem IsDocument.tellable (h : IsDocument data) (hshort : data.holdsLongInteger = false) :
    Tellable data := by
  intro v hv
  -- Going down from the document, only such values of documents are met.
  have hdocument : IsDocument v ∧ v.holdsLongInteger = false := by
    induction hv using Relation.ReflTransGen.head_induction_on with
    | refl => exact ⟨h, hshort⟩
    | head hpart _ ih => exact ih.1.part ih.2 hpart
  exact ⟨hdocument.1.exists_write hdocument.2 .message, none, hdocument.1.ownName⟩

end Value

end Conform
