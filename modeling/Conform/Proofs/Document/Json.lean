import Conform.Document.Json
import Conform.Proofs.Document.Endings
import Conform.Proofs.Value.Documents

/-!
# Reading JSON documents

What reading a JSON document ends with, whatever the text (`Document.Json.ends_read`): a value that
a document can hold, or the trouble that the text is malformed, has arrays and objects too deep in
others or has an integer with too many digits.
-/

namespace Conform.Document.Json

open Value (IsScalar IsDocument)

/-- The faults that reading can come to: a text that goes too deep, and an integer with too many
digits. -/
def faults : List Fault := [.tooDeep, .badValue]

/-- What is read ends with something of a kind and what follows it, or with a trouble that a text
can have. -/
abbrev Reads {α : Type} (good : α → Prop) : Except Trouble (α × List Char) → Prop :=
  Ends (fun found => good found.1) (Trouble.Among faults)

/-! ## Values without parts -/

theorem isScalar_of_mem_words {word : String} {v : Value} (h : (word, v) ∈ words) : IsScalar v := by
  simp only [words, List.mem_cons, Prod.mk.injEq, List.not_mem_nil, or_false] at h
  rcases h with ⟨-, rfl⟩ | ⟨-, rfl⟩ | ⟨-, rfl⟩ | ⟨-, rfl⟩ | ⟨-, rfl⟩ | ⟨-, rfl⟩ <;> constructor

theorem ends_integer (negative : Bool) (digits : List Nat) :
    Ends IsScalar (Trouble.Among faults) (integer negative digits) :=
  .ite (fun _ => .int _) fun _ => ends_fault (by decide)

/-- A number is an integer or a double. -/
theorem reads_number (cs : List Char) : Reads IsScalar (number cs) := by
  have hwhole (rest : List Char) : Reads (fun _ => True) (Trouble.required (wholePart? rest)) :=
    ends_required trivial fun _ _ => trivial
  unfold number
  refine (hwhole _).bind fun found _ => ?_
  dsimp only
  split
  · exact (ends_integer _ _).bind fun v hv => hv
  · exact .float _ _

theorem reads_atom (cs : List Char) : Reads IsScalar (atom cs) := by
  unfold atom
  split
  next found hword =>
    obtain ⟨⟨word, w⟩, hmem, hafter⟩ := List.exists_of_findSome?_eq_some hword
    obtain ⟨after, -, rfl⟩ := Option.map_eq_some_iff.1 hafter
    exact isScalar_of_mem_words hmem
  next => exact reads_number cs

/-- A string that does not end makes the text malformed. -/
theorem reads_string (fuel : Nat) (cs : List Char) :
    Reads (fun _ => True) (Trouble.required (string? fuel cs)) :=
  ends_required trivial fun _ _ => trivial

/-! ## Values with parts -/

/-- The three readers together, since each reads parts by the others: a value, the items of an array
and the members of an object. -/
theorem reads_parts (fuel : Nat) :
    (∀ depth cs, Reads IsDocument (value depth fuel cs)) ∧
    (∀ depth cs, Reads (fun items => ∀ item ∈ items, IsDocument item) (items depth fuel cs)) ∧
    ∀ depth cs, Reads (fun members => ∀ member ∈ members, IsScalar member.1 ∧ IsDocument member.2)
      (members depth fuel cs) := by
  -- The bound on the steps goes down with every part, whatever the depth.
  induction fuel with
  | zero => exact ⟨fun _ _ => trivial, fun _ _ => trivial, fun _ _ => trivial⟩
  | succ fuel ih =>
    obtain ⟨hvalue, hitems, hmembers⟩ := ih
    refine ⟨fun depth cs => ?_, fun depth cs => ?_, fun depth cs => ?_⟩
    · unfold value
      split
      · exact (reads_string fuel _).bind fun found _ => .scalar (.text _)
      -- Arrays and objects that may not lie any deeper.
      · exact ends_fault (by decide)
      · exact ends_fault (by decide)
      · split
        · exact .list none (List.forall_mem_nil _)
        · exact (hitems _ _).bind fun found hfound => .list none hfound
      · split
        · exact .mapping none (List.forall_mem_nil _) (List.forall_mem_nil _)
        · exact (hmembers _ _).bind fun found hfound => .ofPairs none hfound
      · exact (reads_atom cs).mono fun found hfound => .scalar hfound
    · rw [items]
      refine (hvalue depth cs).bind fun found hfound => ?_
      dsimp only
      split
      · exact List.forall_mem_singleton.2 hfound
      · exact (hitems _ _).bind fun others hothers => List.forall_mem_cons.2 ⟨hfound, hothers⟩
      · trivial
    · unfold members
      split
      · refine (reads_string fuel _).bind fun ⟨key, after⟩ _ => ?_
        dsimp only
        split
        · refine (hvalue _ _).bind fun ⟨item, rest⟩ hitem => ?_
          have hmember : IsScalar (.text (String.ofList key)) ∧ IsDocument item :=
            ⟨.text _, hitem⟩
          dsimp only
          split
          · exact List.forall_mem_singleton.2 hmember
          · exact (hmembers _ _).bind fun others hothers =>
              List.forall_mem_cons.2 ⟨hmember, hothers⟩
          · trivial
        · trivial
      · trivial

/-- Reading a text ends with a value of a document, unless the text is malformed, goes too deep or
has an integer with too many digits. -/
theorem ends_read (cs : List Char) : Ends IsDocument (Trouble.Among faults) (read cs) := by
  unfold read
  refine ((reads_parts _).1 _ _).bind fun found hfound => ?_
  exact .ite (fun _ => hfound) fun _ => trivial

end Conform.Document.Json
