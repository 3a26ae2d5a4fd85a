import Conform.Proofs.Registry.Contents

/-!
# Overwriting registrations

What becomes of a registry where validators are registered under texts, one after the other, and
replace what was there (`Registry.Overwritten`): they are found under their texts, everything else
is found as before, and the new texts come after the old keys. Nothing is asked of what the registry
held before; its other keys may be any values.

* `Registry.Overwritten.cons`: one registration before others.
* `Registry.Overwritten.again`: the same registrations once more.
-/

namespace Conform

namespace Entries

theorem find?_cons_text_of_ne {key : String} {v : Value} (hv : v ≠ .text key) (item : Value)
    (rest : Entries) : find? ((.text key, item) :: rest) v = find? rest v := by
  have hother : ¬ Value.alike v (.text key) = true := mt (Value.alike_text_right_iff v key).1 hv
  unfold find?
  rw [List.find?_cons]
  simp [hother]

/-- Putting an item under a text leaves what is found under any other value. -/
theorem find?_put_text_of_ne {key : String} {v : Value} (hv : v ≠ .text key) (item : Value)
    (entries : Entries) : find? (put (.text key) item entries) v = find? entries v := by
  induction entries with
  | nil => exact find?_cons_text_of_ne hv item []
  | cons entry rest ih =>
    by_cases h : entry.1 = .text key
    · obtain ⟨_, old⟩ := entry
      obtain rfl := h
      rw [put_cons_self, find?_cons_text_of_ne hv, find?_cons_text_of_ne hv]
    · rw [put_cons_of_ne h]
      -- The first entry is found in both, or in neither.
      unfold find? at ih ⊢
      rw [List.find?_cons, List.find?_cons]
      cases v.alike entry.1 with
      | true => rfl
      | false => exact ih

/-- Putting an item under a text leaves whether another text is present. -/
theorem has_put_text_of_ne {key key' : String} (hne : key ≠ key') (item : Value)
    (entries : Entries) :
    has (put (.text key) item entries) (.text key') = has entries (.text key') := by
  rw [has_text, has_text, find?_put_of_ne hne]

/-- Putting an item under a text puts the text after the keys, unless it is among them. -/
theorem keys_put_text (key : String) (item : Value) (entries : Entries) :
    keys (put (.text key) item entries) =
      keys entries ++ if has entries (.text key) then [] else [.text key] := by
  by_cases h : .text key ∈ keys entries
  · rw [keys_put_of_mem h, has_text, (mem_keys_text entries key).1 h]
    simp
  · have habsent : has entries (.text key) = false := by
      rw [has_text]
      simpa using mt (mem_keys_text entries key).2 h
    rw [keys_put_of_not_mem h, habsent]
    rfl

end Entries

namespace Registry

variable {r r' : Registry}

/-- A registry after registrations, from what it was before. -/
structure Overwritten (registrations : List (String × Registration)) (r r' : Registry) : Prop where
  /-- It keeps its name. -/
  name : r'.name = r.name
  /-- Every registration is found under its text. -/
  held : ∀ p ∈ registrations, ∃ item,
    Entries.find? r'.entries (.text p.1) = some item ∧ p.2.IsHeldBy item
  /-- What is found under other keys is what was found there before. -/
  kept : ∀ key, (∀ p ∈ registrations, key ≠ .text p.1) →
    Entries.find? r'.entries key = Entries.find? r.entries key
  /-- The keys that were there keep their places, and the new ones follow in order. -/
  keys : r'.keys = r.keys ++
    (registrations.map fun p => Value.text p.1).filter fun key => !Entries.has r.entries key

namespace Overwritten

theorem nil (r : Registry) : Overwritten [] r r where
  name := rfl
  held := by simp
  kept := fun _ _ => rfl
  keys := by simp

/-- A registration before others, under a text that they do not use. -/
theorem cons {registrations : List (String × Registration)} {key : String} {reg : Registration}
    {item : Value} (hitem : reg.IsHeldBy item) (hnew : ∀ p ∈ registrations, key ≠ p.1)
    (h : Overwritten registrations { r with entries := Entries.put (.text key) item r.entries } r') :
    Overwritten ((key, reg) :: registrations) r r' where
  name := h.name
  held := by
    intro p hp
    rcases List.mem_cons.1 hp with rfl | hp
    · -- The others leave what was put first.
      refine ⟨item, ?_, hitem⟩
      rw [h.kept _ fun p hp => by simpa using hnew p hp]
      exact Entries.find?_put_self r.entries key item
    · exact h.held p hp
  kept := by
    intro v hv
    rw [h.kept v fun p hp => hv p (List.mem_cons_of_mem _ hp)]
    exact Entries.find?_put_text_of_ne (hv _ List.mem_cons_self) item r.entries
  keys := by
    -- Which of the other texts are new does not depend on the one that was put first.
    have hothers : (registrations.map fun p => Value.text p.1).filter
          (fun k => !Entries.has (Entries.put (.text key) item r.entries) k) =
        (registrations.map fun p => Value.text p.1).filter fun k => !Entries.has r.entries k := by
      refine List.filter_congr fun k hk => ?_
      obtain ⟨p, hp, rfl⟩ := List.mem_map.1 hk
      rw [Entries.has_put_text_of_ne (hnew p hp)]
    have hkeys := h.keys
    unfold Registry.keys at hkeys ⊢
    -- The first text is among the new ones exactly if it was not there.
    rw [hkeys, hothers, Entries.keys_put_text, List.append_assoc, List.map_cons, List.filter_cons]
    cases Entries.has r.entries (.text key) <;> rfl

/-- A text is present after a registration under it. -/
theorem has_of_mem {registrations : List (String × Registration)}
    (h : Overwritten registrations r r') {p : String × Registration} (hp : p ∈ registrations) :
    Entries.has r'.entries (.text p.1) = true := by
  obtain ⟨item, hitem, -⟩ := h.held p hp
  rw [Entries.has_text, hitem]
  rfl

end Overwritten

/-- A registry holds the same as another, in the same order, but for the identities of
validators. -/
structure SameContents (r r' : Registry) : Prop where
  /-- The keys are the same. -/
  keys : r'.keys = r.keys
  /-- Under each key is the same item, or validators made of the same registration. -/
  items : ∀ key, Entries.find? r'.entries key = Entries.find? r.entries key ∨
    ∃ (reg : Registration) (item item' : Value), reg.IsHeldBy item ∧ reg.IsHeldBy item' ∧
      Entries.find? r.entries key = some item ∧ Entries.find? r'.entries key = some item'

/-- Making the same registrations again changes nothing but the identities of validators. -/
theorem Overwritten.again {registrations : List (String × Registration)} {r'' : Registry}
    (h : Overwritten registrations r r') (h' : Overwritten registrations r' r'') :
    SameContents r' r'' where
  keys := by
    -- All the texts are there after the first time, so none of them is new.
    rw [h'.keys, List.filter_eq_nil_iff.2, List.append_nil]
    intro key hkey
    obtain ⟨p, hp, rfl⟩ := List.mem_map.1 hkey
    simp [h.has_of_mem hp]
  items := by
    intro key
    by_cases hkey : ∃ p ∈ registrations, key = .text p.1
    · obtain ⟨p, hp, rfl⟩ := hkey
      obtain ⟨item, hfound, hitem⟩ := h.held p hp
      obtain ⟨item', hfound', hitem'⟩ := h'.held p hp
      exact .inr ⟨p.2, item, item', hitem, hitem', hfound, hfound'⟩
    · exact .inl (h'.kept key fun p hp heq => hkey ⟨p, hp, heq⟩)

end Registry

end Conform
