import Conform.Value.Equality
import Conform.Value.Rendering

/-!
# Values of documents

The values that a document can hold (`IsDocument`): scalars, and collections of values of
documents. The keys of a mapping are scalars. Such a value can be written in every style unless it
holds an integer with too many digits (`holdsLongInteger`), and then in none
(`IsDocument.exists_write`, `IsDocument.write_of_long`).
-/

namespace Conform

namespace Value

/-- A value of a document that is no collection. -/
inductive IsScalar : Value → Prop where
  | null : IsScalar .null
  | bool (b : Bool) : IsScalar (.bool b)
  | int (n : Int) : IsScalar (.int n)
  | float (mark : Mark) (x : Binary64) : IsScalar (.float mark x)
  | text (s : String) : IsScalar (.text s)
  | bytes (content : List UInt8) : IsScalar (.bytes content)
  | moment (m : Moment) : IsScalar (.moment m)

/-- A value that a document can hold. -/
inductive IsDocument : Value → Prop where
  | scalar {v : Value} (h : IsScalar v) : IsDocument v
  | tuple (mark : Mark) {items : List Value} (h : ∀ v ∈ items, IsDocument v) :
    IsDocument (.tuple mark items)
  | list (mark : Mark) {items : List Value} (h : ∀ v ∈ items, IsDocument v) :
    IsDocument (.list mark items)
  | set (mark : Mark) {items : List Value} (h : ∀ v ∈ items, IsDocument v) :
    IsDocument (.set mark items)
  | mapping (mark : Mark) {entries : Entries} (hkeys : ∀ entry ∈ entries, IsScalar entry.1)
    (h : ∀ entry ∈ entries, IsDocument entry.2) : IsDocument (.mapping mark entries)

/-- Whether a value is an integer that is too long to be written, or a collection that holds one. -/
def holdsLongInteger : Value → Bool
  | .int n => isTooLong n
  | .tuple _ items | .list _ items | .set _ items => anyLong items
  | .mapping _ entries => anyEntryLong entries
  | _ => false
termination_by structural v => v
where
  /-- Whether one of the items of a collection holds such an integer. -/
  anyLong : List Value → Bool
    | [] => false
    | v :: rest => v.holdsLongInteger || anyLong rest
  termination_by structural items => items
  /-- Whether a key or a value of a mapping holds such an integer. -/
  anyEntryLong : List (Value × Value) → Bool
    | [] => false
    | (k, v) :: rest => k.holdsLongInteger || v.holdsLongInteger || anyEntryLong rest
  termination_by structural entries => entries

/-! ## Writing -/

/-- A text comes, or does not because of an integer that is too long. -/
def Comes {α : Type} (long : Bool) (made : Except TextFailure α) : Prop :=
  if long then made = .error (.fault .badValue) else ∃ a, made = .ok a

namespace Comes

variable {α β γ : Type} {long long' : Bool} {made : Except TextFailure α}
  {other : Except TextFailure β}

theorem ok (a : α) : Comes false (.ok a) := ⟨a, rfl⟩

theorem map (h : Comes long made) (f : α → β) : Comes long (made.map f) := by
  cases long with
  | false =>
    obtain ⟨a, rfl⟩ := h
    exact ok (f a)
  | true =>
    obtain rfl : made = .error (.fault .badValue) := h
    rfl

/-- What is made of two texts comes if both do. -/
theorem both (h : Comes long made) (h' : Comes long' other) (f : α → β → γ) :
    Comes (long || long') (do let a ← made; let b ← other; return f a b) := by
  cases long with
  | false =>
    obtain ⟨a, rfl⟩ := h
    exact h'.map (f a)
  | true =>
    obtain rfl : made = .error (.fault .badValue) := h
    rfl

end Comes

variable {level : Threshold}

/-- A numeral comes unless the integer is too long. -/
theorem comes_numeral (n : Int) : Comes (isTooLong n) (numeral n) := by
  rw [numeral]
  cases isTooLong n with
  | false => exact .ok _
  | true => rfl

/-- A scalar is written in every style, or in none if it is an integer that is too long. -/
theorem IsScalar.comes {v : Value} (h : IsScalar v) (style : Style) :
    Comes v.holdsLongInteger (v.write level style) := by
  cases h with
  | int n => exact comes_numeral n
  | _ => exact .ok _

/-- Items are written together as each of them is. -/
theorem comes_writeAll {items : List Value}
    (h : ∀ v ∈ items, Comes v.holdsLongInteger (v.write level .inner)) :
    Comes (holdsLongInteger.anyLong items) (write.writeAll level items) := by
  induction items with
  | nil => exact .ok []
  | cons v rest ih =>
    exact (h v List.mem_cons_self).both (ih fun w hw => h w (List.mem_cons_of_mem v hw)) List.cons

/-- Entries are written together as the keys and values are. -/
theorem comes_writeEntries {entries : Entries}
    (hkeys : ∀ entry ∈ entries, Comes entry.1.holdsLongInteger (entry.1.write level .inner))
    (h : ∀ entry ∈ entries, Comes entry.2.holdsLongInteger (entry.2.write level .inner)) :
    Comes (holdsLongInteger.anyEntryLong entries) (write.writeEntries level entries) := by
  induction entries with
  | nil => exact .ok []
  | cons entry rest ih =>
    have hrest := ih (fun e he => hkeys e (List.mem_cons_of_mem entry he)) fun e he =>
      h e (List.mem_cons_of_mem entry he)
    have hentry := (hkeys entry List.mem_cons_self).both (h entry List.mem_cons_self)
      fun key value => key ++ ": " ++ value
    have hall := hentry.both hrest List.cons
    simp only [bind_assoc, pure_bind] at hall
    exact hall

/-- A value of a document is written in every style, or in none if it holds an integer that is too
long. -/
theorem IsDocument.comes {v : Value} (h : IsDocument v) (style : Style) :
    Comes v.holdsLongInteger (v.write level style) := by
  -- The parts of a collection are written in their inner form, whatever the style of the whole.
  induction h generalizing style with
  | scalar h => exact h.comes style
  | tuple mark h ih => exact (comes_writeAll fun v hv => ih v hv .inner).map _
  | list mark h ih => exact (comes_writeAll fun v hv => ih v hv .inner).map _
  | set mark h ih => exact (comes_writeAll fun v hv => ih v hv .inner).map _
  | mapping mark hkeys h ih =>
    exact (comes_writeEntries (fun e he => (hkeys e he).comes .inner) fun e he =>
      ih e he .inner).map _

/-- A value of a document without integers that are too long can be written in every style. -/
theorem IsDocument.exists_write {v : Value} (h : IsDocument v) (hshort : v.holdsLongInteger = false)
    (style : Style) : ∃ text, v.write level style = .ok text := by
  have hcomes : Comes v.holdsLongInteger (v.write level style) := h.comes style
  rwa [hshort] at hcomes

/-- A value of a document with an integer that is too long cannot be written in any style. -/
theorem IsDocument.write_of_long {v : Value} (h : IsDocument v) (hlong : v.holdsLongInteger = true)
    (style : Style) : v.write level style = .error (.fault .badValue) := by
  have hcomes : Comes v.holdsLongInteger (v.write level style) := h.comes style
  rwa [hlong] at hcomes

/-! ## Parts of documents -/

/-- Some values are without integers that are too long if each of them is. -/
theorem anyLong_eq_false_iff {items : List Value} :
    holdsLongInteger.anyLong items = false ↔ ∀ v ∈ items, v.holdsLongInteger = false := by
  induction items with
  | nil => exact iff_of_true rfl (List.forall_mem_nil _)
  | cons v rest ih =>
    rw [holdsLongInteger.anyLong, Bool.or_eq_false_iff, ih, List.forall_mem_cons]

/-- Keys and values of a mapping without integers that are too long are without them. -/
theorem short_of_mem_entries {entries : Entries}
    (h : holdsLongInteger.anyEntryLong entries = false) :
    ∀ entry ∈ entries, entry.1.holdsLongInteger = false ∧ entry.2.holdsLongInteger = false := by
  induction entries with
  | nil => exact List.forall_mem_nil _
  | cons entry rest ih =>
    obtain ⟨hentry, hrest⟩ := Bool.or_eq_false_iff.1 h
    exact List.forall_mem_cons.2 ⟨Bool.or_eq_false_iff.1 hentry, ih hrest⟩

/-- The keys of a mapping of a document are scalars, and its items are values of the document. -/
theorem IsDocument.entries {mark : Mark} {entries : Entries}
    (h : IsDocument (.mapping mark entries)) :
    (∀ entry ∈ entries, IsScalar entry.1) ∧ ∀ entry ∈ entries, IsDocument entry.2 := by
  cases h with
  | scalar h => cases h
  | mapping _ hkeys hitems => exact ⟨hkeys, hitems⟩

/-- What a mapping of a document holds under a name is a value of the document, or there is
nothing. -/
theorem IsDocument.field {mark : Mark} {entries : Entries} (h : IsDocument (.mapping mark entries))
    {default : Value} (hdefault : IsDocument default) (name : String) :
    IsDocument ((Entries.field? entries name).getD default) := by
  cases hfield : Entries.field? entries name with
  | none => exact hdefault
  | some v =>
    obtain ⟨entry, hentry, rfl⟩ := Option.map_eq_some_iff.1 hfield
    exact h.entries.2 entry (List.mem_of_find?_eq_some hentry)

/-- What is said of the keys and of the items of pairs can be said of the entries that they are put
together to. -/
theorem entry_of_mem_ofPairs {keys items : Value → Prop} {pairs : List (Value × Value)}
    (h : ∀ pair ∈ pairs, keys pair.1 ∧ items pair.2) :
    ∀ entry ∈ Entries.ofPairs pairs, keys entry.1 ∧ items entry.2 := by
  -- An entry keeps its key when another item is put in its place.
  have hput {key item : Value} (hkey : keys key) (hitem : items item) (entries : Entries)
      (hentries : ∀ entry ∈ entries, keys entry.1 ∧ items entry.2) :
      ∀ entry ∈ Entries.put key item entries, keys entry.1 ∧ items entry.2 := by
    induction entries with
    | nil => exact List.forall_mem_singleton.2 ⟨hkey, hitem⟩
    | cons first rest ih =>
      obtain ⟨hfirst, hrest⟩ := List.forall_mem_cons.1 hentries
      rw [Entries.put]
      split
      · exact List.forall_mem_cons.2 ⟨⟨hfirst.1, hitem⟩, hrest⟩
      · exact List.forall_mem_cons.2 ⟨hfirst, ih hrest⟩
  unfold Entries.ofPairs
  exact List.foldlRecOn (motive := fun entries => ∀ entry ∈ entries, keys entry.1 ∧ items entry.2)
    pairs _ (List.forall_mem_nil _) fun entries hentries pair hpair =>
      hput (h pair hpair).1 (h pair hpair).2 entries hentries

/-- Pairs of scalars and values of a document are put together to a mapping of a document. -/
theorem IsDocument.ofPairs (mark : Mark) {pairs : List (Value × Value)}
    (h : ∀ pair ∈ pairs, IsScalar pair.1 ∧ IsDocument pair.2) :
    IsDocument (.mapping mark (Entries.ofPairs pairs)) :=
  .mapping mark (fun entry hentry => (entry_of_mem_ofPairs h entry hentry).1)
    fun entry hentry => (entry_of_mem_ofPairs h entry hentry).2

end Value

end Conform
