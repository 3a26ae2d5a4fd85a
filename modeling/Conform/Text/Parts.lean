/-!
# Parts of Texts

A text falls into the parts between the occurrences of a separator. There is always at
least one part, and joining the parts gives the text back.
-/

namespace Conform.Text

/-- The parts of a text between the occurrences of a separator. -/
def partsAt (separator : Char) : List Char → List (List Char)
  | [] => [[]]
  | c :: rest =>
    if c = separator then [] :: partsAt separator rest
    else
      match partsAt separator rest with
      | [] => [[c]]
      | part :: parts => (c :: part) :: parts

/-- Parts with a separator between them. -/
def joinParts (separator : Char) : List (List Char) → List Char
  | [] => []
  | [part] => part
  | part :: parts => part ++ separator :: joinParts separator parts

/-- The parts of a string between the occurrences of a separator. -/
def split (separator : Char) (s : String) : List String :=
  (partsAt separator s.toList).map String.ofList

/-- There is at least one part. -/
theorem partsAt_ne_nil (separator : Char) (cs : List Char) : partsAt separator cs ≠ [] := by
  cases cs with
  | nil => simp [partsAt]
  | cons c rest =>
    unfold partsAt
    split
    · simp
    · split <;> simp

/-- Joining the parts of a text gives it back. -/
theorem joinParts_partsAt (separator : Char) (cs : List Char) :
    joinParts separator (partsAt separator cs) = cs := by
  induction cs with
  | nil => rfl
  | cons c rest ih =>
    have hne := partsAt_ne_nil separator rest
    unfold partsAt
    split
    · rename_i hc
      cases hp : partsAt separator rest with
      | nil => exact absurd hp hne
      | cons part parts => rw [hp] at ih; simp [joinParts, ih, hc]
    · cases hp : partsAt separator rest with
      | nil => exact absurd hp hne
      | cons part parts =>
        rw [hp] at ih
        cases parts with
        | nil => simpa [joinParts] using ih
        | cons next more => simpa [joinParts] using ih

/-- No part holds the separator. -/
theorem separator_not_mem_of_mem_partsAt {separator : Char} {cs part : List Char}
    (h : part ∈ partsAt separator cs) : separator ∉ part := by
  induction cs generalizing part with
  | nil => simp_all [partsAt]
  | cons c rest ih =>
    unfold partsAt at h
    split at h
    · rcases List.mem_cons.1 h with rfl | h
      · simp
      · exact ih h
    · rename_i hc
      cases hp : partsAt separator rest with
      | nil => exact absurd hp (partsAt_ne_nil separator rest)
      | cons first parts =>
        rw [hp] at h ih
        rcases List.mem_cons.1 h with rfl | h
        · have := ih (List.mem_cons_self ..)
          simp [this, Ne.symm hc]
        · exact ih (List.mem_cons_of_mem _ h)

end Conform.Text
