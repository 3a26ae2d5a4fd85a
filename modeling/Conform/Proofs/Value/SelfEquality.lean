import Conform.Proofs.Value.Tellable
import Conform.Value.Equality

/-!
# Values that are equal to themselves

A value counts as equal to itself, with two exceptions. A number that is not one, and of which it is
not known which object it is, equals nothing; and in a mapping that has a key twice, the second
entry is not found. A value is well made (`Value.WellMade`) if there is neither in it.

* `Exact.equal_self`: exact values that are numbers.
* `Value.alike_self_of_single`: values that are no collections.
* `Entries.find?_of_mem_of_distinct`: where no key is there twice, every entry is found.
* `Value.WellMade.alike_self`: well-made values.
* `Value.WellMade.equal?_mapping`: well-made mappings that are not known to be one object.
-/

namespace Conform

namespace Exact

/-- An exact value that is a number equals itself. -/
theorem equal_self {x : Exact} (h : x.isNaN = false) : x.equal x = true := by
  cases x with
  | nan signals => cases h
  | infinite negative => simp [equal, order]
  | finite factor shift => simp [equal, order, orderFinite, orderRat]

/-- A signalling value is not a number. -/
theorem isSignalling_of_isNaN {x : Exact} (h : x.isNaN = false) : x.isSignalling = false := by
  cases x with
  | nan signals => cases h
  | infinite negative => rfl
  | finite factor shift => rfl

end Exact

namespace Entries

/-- No key is there twice: no later one counts as equal to an earlier one. -/
def Distinct (entries : Entries) : Prop :=
  entries.Pairwise fun earlier later => later.1.alike earlier.1 = false

/-- Whether a key is there twice can be decided. -/
instance (entries : Entries) : Decidable entries.Distinct :=
  inferInstanceAs (Decidable (List.Pairwise _ entries))

/-- Where no key is there twice, every entry is found under its key. -/
theorem find?_of_mem_of_distinct {entries : Entries} (hdistinct : entries.Distinct)
    {entry : Value × Value} (hmem : entry ∈ entries) (hself : entry.1.alike entry.1 = true) :
    List.find? (fun other => entry.1.alike other.1) entries = some entry := by
  induction entries with
  | nil => cases hmem
  | cons first rest ih =>
    obtain ⟨hlater, hrest⟩ := List.pairwise_cons.1 hdistinct
    rcases List.mem_cons.1 hmem with rfl | hmem
    · rw [List.find?_cons, hself]
    · rw [List.find?_cons, hlater entry hmem]
      exact ih hrest hmem

end Entries

namespace Value

variable {v w : Value}

/-! ## Values that are no collections -/

/-- Whether a value keeps others in it. -/
def isCollection : Value → Bool
  | .tuple .. | .list .. | .set .. | .mapping .. => true
  | _ => false

/-- Whether a value is no number, or has a part that is none, and is not known to be the object that
it is. -/
def isNamelessNaN : Value → Bool
  | .float none x => (Exact.ofDouble x).isNaN
  | .decimal none d => (Exact.ofScaled d).isNaN
  | .complex none re im => (Exact.ofDouble re).isNaN || (Exact.ofDouble im).isNaN
  | _ => false

/-- Numbers whose exact parts are numbers are equal to themselves. -/
theorem equalNumbers?_self {re im : Exact} (hparts : v.parts? = some (re, im))
    (hre : re.isNaN = false) (him : im.isNaN = false) : equalNumbers? v v = .ok true := by
  simp [equalNumbers?, hparts, Exact.isSignalling_of_isNaN hre, Exact.equal_self hre,
    Exact.equal_self him]

/-- Equal values count as equal. -/
theorem alike_of_equal? (h : v.equal? w = .ok true) : v.alike w = true := by
  simp [alike, equal, h, affirmed]

/-- Values that count as equal and are not one object are equal. -/
theorem equal?_of_alike (h : v.alike w = true) (hsame : v.same w = false) :
    v.equal? w = .ok true := by
  rw [alike, hsame, Bool.false_or, equal] at h
  cases hequal : v.equal? w with
  | error f =>
    rw [hequal] at h
    cases h
  | ok b =>
    rw [hequal] at h
    exact congrArg _ h

/-- An object is the one that it is. -/
theorem same_mark (n : Nat) : Mark.same (some n) (some n) = true := by
  simp [Mark.same]

/-- A value that is no collection counts as equal to itself, unless it is no number and not known to
be the object that it is. -/
theorem alike_self_of_single (hsingle : v.isCollection = false) (hnumber : v.isNamelessNaN = false) :
    v.alike v = true := by
  have hzero : (Exact.ofRat 0).isNaN = false := rfl
  -- Numbers that are not known to be one object are compared by their exact values; all else that is
  -- no collection is one object with itself.
  cases v with
  | float mark x =>
    cases mark with
    | some n => simp [alike, same, same_mark]
    | none => exact alike_of_equal? (equalNumbers?_self rfl hnumber hzero)
  | fraction mark q =>
    cases mark with
    | some n => simp [alike, same, same_mark]
    | none =>
      have hfraction : (Exact.ofRat q).isNaN = false := rfl
      exact alike_of_equal? (equalNumbers?_self rfl hfraction hzero)
  | decimal mark d =>
    cases mark with
    | some n => simp [alike, same, same_mark]
    | none => exact alike_of_equal? (equalNumbers?_self rfl hnumber hzero)
  | complex mark re im =>
    cases mark with
    | some n => simp [alike, same, same_mark]
    | none =>
      obtain ⟨hre, him⟩ := Bool.or_eq_false_iff.1 hnumber
      exact alike_of_equal? (equalNumbers?_self rfl hre him)
  | cls c =>
    have hclass : (c == c) = true :=
      Bool.and_eq_true_iff.2 ⟨beq_self_eq_true c.module, beq_self_eq_true c.name⟩
    simp [alike, same, hclass]
  | tuple | list | set | mapping => cases hsingle
  | _ => simp [alike, same]

/-! ## Collections -/

/-- Items that count as equal to themselves are equal one by one. -/
theorem equalAll?_self {items : List Value} (h : ∀ v ∈ items, v.alike v = true) :
    equal?.equalAll? items items = .ok true := by
  induction items with
  | nil => rfl
  | cons v rest ih =>
    obtain ⟨hself, hrest⟩ := List.forall_mem_cons.1 h
    rw [equal?.equalAll?]
    -- Items that are one object are not compared, and those that are not have to be equal.
    cases hsame : v.same v with
    | true => exact ih hrest
    | false =>
      rw [equal?_of_alike hself hsame]
      exact ih hrest

/-- Items that count as equal to themselves are contained wherever they are among the items. -/
theorem containedIn_of_subset {items others : List Value} (hsubset : ∀ v ∈ items, v ∈ others)
    (h : ∀ v ∈ items, v.alike v = true) : equal?.containedIn items others = true := by
  induction items with
  | nil => rfl
  | cons v rest ih =>
    obtain ⟨hself, hrest⟩ := List.forall_mem_cons.1 h
    obtain ⟨hmem, hsubset⟩ := List.forall_mem_cons.1 hsubset
    rw [equal?.containedIn, ih hsubset hrest, Bool.and_true, List.any_eq_true]
    exact ⟨v, hmem, hself⟩

/-- Entries whose items count as equal to themselves are included wherever each of them is found
under its key. -/
theorem includedIn?_of_found {entries others : Entries}
    (hfound : ∀ entry ∈ entries,
      List.find? (fun other => entry.1.alike other.1) others = some entry)
    (h : ∀ entry ∈ entries, entry.2.alike entry.2 = true) :
    equal?.includedIn? entries others = .ok true := by
  induction entries with
  | nil => rfl
  | cons entry rest ih =>
    obtain ⟨key, item⟩ := entry
    obtain ⟨hfirst, hothers⟩ := List.forall_mem_cons.1 hfound
    obtain ⟨hself, hrest⟩ := List.forall_mem_cons.1 h
    rw [equal?.includedIn?]
    -- The search is the one by which keys are looked up, in which `alike` stands unfolded.
    rw [show List.find? (fun other => same key other.1 || affirmed (equal? key other.1)) others =
      some (key, item) from hfirst]
    cases hsame : item.same item with
    | true => simpa [hsame] using ih hothers hrest
    | false => simpa [hsame, equal?_of_alike hself hsame] using ih hothers hrest

/-- A mapping is equal to every mapping of the same entries if its keys and items count as equal to
themselves and no key is there twice. -/
theorem equal?_mapping_of_alike {mark mark' : Mark} {entries : Entries}
    (hdistinct : entries.Distinct) (hkeys : ∀ entry ∈ entries, entry.1.alike entry.1 = true)
    (hitems : ∀ entry ∈ entries, entry.2.alike entry.2 = true) :
    (Value.mapping mark entries).equal? (.mapping mark' entries) = .ok true := by
  rw [equal?, if_pos (beq_self_eq_true _)]
  exact includedIn?_of_found
    (fun entry hentry => Entries.find?_of_mem_of_distinct hdistinct hentry (hkeys entry hentry))
    hitems

/-! ## Well-made values -/

/-- A value that is made as programs make them: of each number in it that is not one it is known
which object it is, and no mapping in it has a key twice. -/
inductive WellMade : Value → Prop where
  | single {v : Value} (hsingle : v.isCollection = false) (hnumber : v.isNamelessNaN = false) :
    WellMade v
  | tuple (mark : Mark) {items : List Value} (h : ∀ v ∈ items, WellMade v) :
    WellMade (.tuple mark items)
  | list (mark : Mark) {items : List Value} (h : ∀ v ∈ items, WellMade v) :
    WellMade (.list mark items)
  | set (mark : Mark) {items : List Value} (h : ∀ v ∈ items, WellMade v) :
    WellMade (.set mark items)
  | mapping (mark : Mark) {entries : Entries} (hdistinct : entries.Distinct)
    (hkeys : ∀ entry ∈ entries, WellMade entry.1) (h : ∀ entry ∈ entries, WellMade entry.2) :
    WellMade (.mapping mark entries)

/-- A well-made value counts as equal to itself. -/
theorem WellMade.alike_self (h : WellMade v) : v.alike v = true := by
  -- The parts of a collection count as equal to themselves, so the collection is equal to itself
  -- even where it is not known to be one object.
  induction h with
  | single hsingle hnumber => exact alike_self_of_single hsingle hnumber
  | tuple mark h ih => exact alike_of_equal? (equalAll?_self ih)
  | list mark h ih =>
    refine alike_of_equal? ?_
    rw [equal?, if_pos (beq_self_eq_true _)]
    exact equalAll?_self ih
  | set mark h ih =>
    refine alike_of_equal? ?_
    rw [equal?, beq_self_eq_true, containedIn_of_subset (fun _ hv => hv) ih]
    rfl
  | mapping mark hdistinct hkeys h ihkeys ih =>
    exact alike_of_equal? (equal?_mapping_of_alike hdistinct ihkeys ih)

variable {mark : Mark} {entries : Entries}

/-- What it takes for a mapping to be well made does not depend on which object it is. -/
theorem wellMade_mapping_iff :
    WellMade (.mapping mark entries) ↔ entries.Distinct ∧
      (∀ entry ∈ entries, WellMade entry.1) ∧ ∀ entry ∈ entries, WellMade entry.2 := by
  constructor
  · intro h
    cases h with
    | single hsingle _ => cases hsingle
    | mapping _ hdistinct hkeys h => exact ⟨hdistinct, hkeys, h⟩
  · rintro ⟨hdistinct, hkeys, h⟩
    exact .mapping mark hdistinct hkeys h

/-- A well-made mapping is equal to every mapping of the same entries. -/
theorem WellMade.equal?_mapping (h : WellMade (.mapping mark entries)) (mark' : Mark) :
    (Value.mapping mark entries).equal? (.mapping mark' entries) = .ok true := by
  obtain ⟨hdistinct, hkeys, hitems⟩ := wellMade_mapping_iff.1 h
  exact equal?_mapping_of_alike hdistinct (fun entry hentry => (hkeys entry hentry).alike_self)
    fun entry hentry => (hitems entry hentry).alike_self

/-- The members of a well-made value make up a well-made mapping. -/
theorem WellMade.members (h : WellMade v) : WellMade (.mapping none v.membersOf) := by
  cases v with
  | mapping mark entries => exact wellMade_mapping_iff.2 (wellMade_mapping_iff.1 h)
  | _ => exact .mapping none .nil (List.forall_mem_nil _) (List.forall_mem_nil _)

/-- What a well-made value holds under a name is well made. -/
theorem WellMade.field (h : WellMade v) (name : String) :
    WellMade ((Entries.field? v.membersOf name).getD .null) := by
  cases hfield : Entries.field? v.membersOf name with
  | none => exact .single rfl rfl
  | some found =>
    obtain ⟨entry, hentry, rfl⟩ := Option.map_eq_some_iff.1 hfield
    obtain ⟨-, -, hitems⟩ := wellMade_mapping_iff.1 h.members
    exact hitems entry (List.mem_of_find?_eq_some hentry)

end Value

end Conform
