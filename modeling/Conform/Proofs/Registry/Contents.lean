import Conform.Registry
import Mathlib.Tactic.SplitIfs

/-!
# Contents of a registry of validators

What a registry of validators tells about text keys, without the identities of its validators and
without its order: for each key the function and the name that were registered (`Registration`).

* `Entries.find?_put_self` and `Entries.find?_put_of_ne`: putting an item under a text changes what
  is found under that text and nothing else.
* `Reflects`: the entries of a registry hold given contents.
* `Reflects.put` and `reflects_builtinEntries`: what a registration and filling a registry with the
  built-in kinds do to the contents.
-/

namespace Conform

namespace Value

/-- A text is alike nothing but itself. -/
theorem alike_text_iff (s : String) (v : Value) : alike (.text s) v = true ↔ v = .text s := by
  cases v with
  | text t =>
    rw [alike_text, beq_iff_eq, Value.text.injEq]
    exact eq_comm
  | _ => exact iff_of_false Bool.false_ne_true (by simp)

/-- Nothing but a text is alike it, whichever of the two is compared with the other. -/
theorem alike_text_right_iff (v : Value) (s : String) : alike v (.text s) = true ↔ v = .text s := by
  cases v with
  | text t => rw [alike_text, beq_iff_eq, Value.text.injEq]
  | _ => exact iff_of_false Bool.false_ne_true (by simp)

end Value

namespace Entries

/-! ## Text keys -/

theorem find?_cons_self (key : String) (item : Value) (rest : Entries) :
    find? ((.text key, item) :: rest) (.text key) = some item := by
  unfold find?
  rw [List.find?_cons_of_pos (by simp)]
  rfl

theorem find?_cons_of_ne {key : String} {entry : Value × Value} (h : entry.1 ≠ .text key)
    (rest : Entries) : find? (entry :: rest) (.text key) = find? rest (.text key) := by
  have hother : ¬ Value.alike (.text key) entry.1 = true :=
    mt (Value.alike_text_iff key entry.1).1 h
  unfold find?
  rw [List.find?_cons]
  simp [hother]

theorem put_cons_self (key : String) (item old : Value) (rest : Entries) :
    put (.text key) item ((.text key, old) :: rest) = (.text key, item) :: rest := by
  rw [put, if_pos (by simp)]

theorem put_cons_of_ne {key : String} {entry : Value × Value} (h : entry.1 ≠ .text key)
    (item : Value) (rest : Entries) :
    put (.text key) item (entry :: rest) = entry :: put (.text key) item rest := by
  rw [put, if_neg (mt (Value.alike_text_iff key entry.1).1 h)]

/-- What was put under a text is found under it. -/
theorem find?_put_self (entries : Entries) (key : String) (item : Value) :
    find? (put (.text key) item entries) (.text key) = some item := by
  -- The entries are gone through as `put` does it: up to the one under the key, if there is one.
  induction entries with
  | nil => exact find?_cons_self key item []
  | cons entry rest ih =>
    by_cases h : entry.1 = .text key
    · obtain ⟨_, old⟩ := entry
      obtain rfl := h
      rw [put_cons_self, find?_cons_self]
    · rw [put_cons_of_ne h, find?_cons_of_ne h, ih]

/-- Putting an item under another value leaves what is found under a text. -/
theorem find?_put_of_ne_text {v : Value} {key : String} (hv : v ≠ .text key) (item : Value)
    (entries : Entries) : find? (put v item entries) (.text key) = find? entries (.text key) := by
  induction entries with
  | nil =>
    rw [put]
    exact find?_cons_of_ne hv []
  | cons entry rest ih =>
    rw [put]
    split
    case isTrue halike =>
      -- The entry keeps its key, which is not the text, since nothing else is alike that.
      have hother : entry.1 ≠ .text key := by
        intro heq
        rw [heq] at halike
        exact hv ((Value.alike_text_right_iff v key).1 halike)
      have hput : ((entry.1, item) : Value × Value).1 ≠ .text key := hother
      rw [find?_cons_of_ne hput, find?_cons_of_ne hother]
    case isFalse =>
      -- The first entry may be the one that is looked for.
      by_cases hentry : entry.1 = .text key
      · obtain ⟨_, old⟩ := entry
        obtain rfl := hentry
        rw [find?_cons_self, find?_cons_self]
      · rw [find?_cons_of_ne hentry, find?_cons_of_ne hentry, ih]

/-- Putting an item under a text leaves what is found under another one. -/
theorem find?_put_of_ne {key key' : String} (hne : key ≠ key') (entries : Entries) (item : Value) :
    find? (put (.text key) item entries) (.text key') = find? entries (.text key') :=
  find?_put_of_ne_text (mt Value.text.inj hne) item entries

/-- A text is present exactly where something is found under it. -/
theorem has_text (entries : Entries) (key : String) :
    has entries (.text key) = (find? entries (.text key)).isSome := by
  unfold has find?
  rw [Option.isSome_map, List.isSome_find?]

/-- A text is among the keys exactly where something is found under it. -/
theorem mem_keys_text (entries : Entries) (key : String) :
    .text key ∈ keys entries ↔ (find? entries (.text key)).isSome = true := by
  rw [← has_text, has, List.any_eq_true, keys, List.mem_map]
  simp only [Value.alike_text_iff]

/-- Putting an item under a text that is there leaves the keys as they are. -/
theorem keys_put_of_mem {entries : Entries} {key : String} (h : .text key ∈ keys entries)
    (item : Value) : keys (put (.text key) item entries) = keys entries := by
  induction entries with
  | nil => cases h
  | cons entry rest ih =>
    by_cases hentry : entry.1 = .text key
    · obtain ⟨_, old⟩ := entry
      obtain rfl := hentry
      rw [put_cons_self]
      rfl
    · have hrest : .text key ∈ keys rest := by
        rcases List.mem_cons.1 h with hkey | hkey
        · exact absurd hkey.symm hentry
        · exact hkey
      rw [put_cons_of_ne hentry]
      exact congrArg (entry.1 :: ·) (ih hrest)

/-- An item under a text that is not there comes last. -/
theorem put_of_not_mem {entries : Entries} {key : String} (h : .text key ∉ keys entries)
    (item : Value) : put (.text key) item entries = entries ++ [(.text key, item)] := by
  induction entries with
  | nil => rfl
  | cons entry rest ih =>
    have hentry : entry.1 ≠ .text key := fun hkey => h (List.mem_cons.2 (.inl hkey.symm))
    have hrest : .text key ∉ keys rest := fun hkey => h (List.mem_cons.2 (.inr hkey))
    rw [put_cons_of_ne hentry, ih hrest]
    rfl

/-- Putting an item under a text that is not there puts the text after the keys. -/
theorem keys_put_of_not_mem {entries : Entries} {key : String} (h : .text key ∉ keys entries)
    (item : Value) : keys (put (.text key) item entries) = keys entries ++ [.text key] := by
  rw [put_of_not_mem h, keys, List.map_append]
  rfl

end Entries

/-! ## Contents -/

/-- What was registered under a key: a function, and the name that messages tell. -/
structure Registration where
  /-- The function. -/
  function : Value
  /-- The name. -/
  name : Value

namespace Registration

/-- An item holds a registration if it is a validator made of it. -/
def IsHeldBy (r : Registration) (item : Value) : Prop :=
  ∃ id, item = .validator id r.name r.function

/-- What stands under the built-in keys: the routine of the kind under its own key as name. -/
def builtin? (key : String) : Option Registration :=
  (Registry.builtins.lookup key).map fun routine => ⟨.routine routine, .text key⟩

end Registration

/-- The entries of a registry hold the given contents: validators made of them, under distinct
texts. -/
structure Reflects (entries : Entries) (contents : String → Option Registration) : Prop where
  /-- All keys are texts. -/
  text_of_mem : ∀ key ∈ Entries.keys entries, ∃ text, key = .text text
  /-- No key is there twice. -/
  nodup : (Entries.keys entries).Nodup
  /-- What stands under a key is found there. -/
  found : ∀ key r, contents key = some r →
    ∃ item, Entries.find? entries (.text key) = some item ∧ r.IsHeldBy item
  /-- Nothing is found under other texts. -/
  absent : ∀ key, contents key = none → Entries.find? entries (.text key) = none

namespace Reflects

variable {entries : Entries} {contents : String → Option Registration}

/-- Something is found under a key exactly where something stands. -/
theorem isSome_find? (h : Reflects entries contents) (key : String) :
    (Entries.find? entries (.text key)).isSome = (contents key).isSome := by
  cases hcontents : contents key with
  | none =>
    rw [h.absent key hcontents]
    rfl
  | some r =>
    obtain ⟨item, hitem, -⟩ := h.found key r hcontents
    rw [hitem]
    rfl

/-- Registering a validator under a key changes what stands under that key. -/
theorem put (h : Reflects entries contents) {contents' : String → Option Registration}
    {key : String} {r : Registration} {item : Value} (hitem : r.IsHeldBy item)
    (hself : contents' key = some r)
    (hothers : ∀ key', key ≠ key' → contents' key' = contents key') :
    Reflects (Entries.put (.text key) item entries) contents' := by
  have hfind (key' : String) (hne : key ≠ key') :
      Entries.find? (Entries.put (.text key) item entries) (.text key') =
        Entries.find? entries (.text key') := Entries.find?_put_of_ne hne entries item
  refine ⟨?_, ?_, ?_, ?_⟩
  -- The keys change only where the key was not there before.
  · intro k hk
    by_cases hmem : .text key ∈ Entries.keys entries
    · rw [Entries.keys_put_of_mem hmem] at hk
      exact h.text_of_mem k hk
    · rw [Entries.keys_put_of_not_mem hmem] at hk
      rcases List.mem_append.1 hk with hk | hk
      · exact h.text_of_mem k hk
      · exact ⟨key, List.mem_singleton.1 hk⟩
  · by_cases hmem : .text key ∈ Entries.keys entries
    · rw [Entries.keys_put_of_mem hmem]
      exact h.nodup
    · rw [Entries.keys_put_of_not_mem hmem, List.nodup_append]
      refine ⟨h.nodup, by simp, ?_⟩
      intro k hk l hl heq
      obtain rfl := List.mem_singleton.1 hl
      exact hmem (heq ▸ hk)
  -- What is found changes only under the key.
  · intro key' r' hr'
    by_cases hne : key = key'
    · subst hne
      obtain rfl : r = r' := Option.some.inj (hself.symm.trans hr')
      exact ⟨item, Entries.find?_put_self entries key item, hitem⟩
    · rw [hfind key' hne]
      exact h.found key' r' ((hothers key' hne).symm.trans hr')
  · intro key' hnone
    by_cases hne : key = key'
    · subst hne
      cases hself.symm.trans hnone
    · rw [hfind key' hne]
      exact h.absent key' ((hothers key' hne).symm.trans hnone)

end Reflects

theorem keys_builtinEntries (firstId : Nat) :
    Entries.keys (Registry.builtinEntries firstId) =
      Registry.builtins.map fun builtin => .text builtin.1 := rfl

/-- Validators made of routines, one under each key, are found where the routines are looked up. -/
theorem find?_validators {entries : Entries} (firstId : Nat) (key : String)
    (kinds : List (String × Routine)) (n : Nat) :
    ((kinds.zipIdx n).map fun ((key, routine), i) =>
        (Value.text key, Value.validator (firstId + i) (.text key) (.routine routine))) = entries →
      (∀ routine, kinds.lookup key = some routine →
        ∃ id, Entries.find? entries (.text key) =
          some (.validator id (.text key) (.routine routine))) ∧
      (kinds.lookup key = none → Entries.find? entries (.text key) = none) := by
  rintro rfl
  -- The places count on from `n`, which differs from kind to kind.
  induction kinds generalizing n with
  | nil => exact ⟨fun routine h => (by cases h), fun _ => rfl⟩
  | cons kind rest ih =>
    obtain ⟨key', routine'⟩ := kind
    rw [List.zipIdx_cons, List.map_cons]
    by_cases hkey : key = key'
    · subst hkey
      rw [List.lookup_cons_self, Entries.find?_cons_self]
      refine ⟨?_, fun h => (by cases h)⟩
      rintro routine ⟨rfl⟩
      exact ⟨_, rfl⟩
    · have hne : Value.text key' ≠ .text key := by simpa [eq_comm] using hkey
      rw [Entries.find?_cons_of_ne hne, List.lookup_cons, beq_false_of_ne hkey]
      exact ih (n + 1)

/-- A registry filled with the built-in kinds holds them and nothing else. -/
theorem reflects_builtinEntries (firstId : Nat) :
    Reflects (Registry.builtinEntries firstId) Registration.builtin? := by
  refine ⟨?_, ?_, ?_, ?_⟩
  · rw [keys_builtinEntries]
    intro key hkey
    obtain ⟨builtin, -, rfl⟩ := List.mem_map.1 hkey
    exact ⟨builtin.1, rfl⟩
  · rw [keys_builtinEntries]
    simp [Registry.builtins]
  · intro key r hr
    obtain ⟨routine, hroutine, rfl⟩ := Option.map_eq_some_iff.1 hr
    obtain ⟨id, hid⟩ := (find?_validators firstId key Registry.builtins 0 rfl).1 routine hroutine
    exact ⟨_, hid, id, rfl⟩
  · intro key hnone
    exact (find?_validators firstId key Registry.builtins 0 rfl).2 (Option.map_eq_none_iff.1 hnone)

end Conform
