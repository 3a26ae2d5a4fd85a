import Conform.Proofs.Registry.Commands
import Conform.Proofs.Settings.Application

/-!
# Keys of loaded settings

The entries of loaded settings are well typed, except that a key need not be a text where a name is
given (`Settings.WellTyped`). What applying the settings registers is found under its key, and a
type check by a text finds it too, if it was registered in the process registry.

* `Entries.has_put` and `Entries.has_put_self`: keys of any kind stay where items are put.
* `Registry.Served`: a registry after declared validators have been registered in it.
* `Act.served_of_applyValidators`: applying declared validators leaves such a registry.
* `Act.applySettings_lookedUp`: settings that were loaded and applied.
-/

namespace Conform

open Session (processRegistry)

namespace Entries

/-- Putting an item under a value leaves the keys that are present. -/
theorem has_put {v key : Value} {entries : Entries} (item : Value)
    (h : has entries key = true) : has (put v item entries) key = true := by
  unfold has at h ⊢
  induction entries with
  | nil => cases h
  | cons entry rest ih =>
    rw [List.any_cons, Bool.or_eq_true] at h
    rw [put]
    split
    · rw [List.any_cons, Bool.or_eq_true]
      exact h
    · rw [List.any_cons, Bool.or_eq_true]
      exact h.imp_right ih

/-- A value that is alike itself is present once an item is put under it. -/
theorem has_put_self {v : Value} (hv : v.alike v = true) (item : Value) (entries : Entries) :
    has (put v item entries) v = true := by
  unfold has
  induction entries with
  | nil => simpa [put] using hv
  | cons entry rest ih =>
    rw [put]
    split
    case isTrue halike =>
      rw [List.any_cons, halike]
      rfl
    case isFalse =>
      rw [List.any_cons, ih, Bool.or_true]

end Entries

/-! ## Registries -/

/-- A validator made of a declared one: of the function that is loaded, by the name that is
declared, or else by the key. -/
def MadeFrom (modules : Modules) (declared : Value × Value) (item : Value) : Prop :=
  ∃ object function, LoadsTo modules declared.2 (.ok function) ∧
    item = .validator object (declaredName declared.1 declared.2) function

namespace Registry

/-- A registry after declared validators have been registered in it, from what it was before. -/
structure Served (modules : Modules) (declared : Entries) (r r' : Registry) : Prop where
  /-- The keys that were there are there. -/
  kept : ∀ key, Entries.has r.entries key = true → Entries.has r'.entries key = true
  /-- Every declared key is one, and is there if it is alike itself. -/
  present : ∀ p ∈ declared, p.1.isHashable = true ∧
    (p.1.alike p.1 = true → Entries.has r'.entries p.1 = true)
  /-- Under a declared text is a validator made of what is declared under it. -/
  found : ∀ key, (∃ p ∈ declared, p.1 = .text key) → ∃ p ∈ declared, p.1 = .text key ∧
    ∃ item, Entries.find? r'.entries (.text key) = some item ∧ MadeFrom modules p item
  /-- What is found under other texts is what was found there before. -/
  others : ∀ key, (∀ p ∈ declared, p.1 ≠ .text key) →
    Entries.find? r'.entries (.text key) = Entries.find? r.entries (.text key)

namespace Served

variable {modules : Modules} {r r' : Registry}

theorem nil (modules : Modules) (r : Registry) : Served modules [] r r where
  kept := fun _ h => h
  present := by simp
  found := by simp
  others := fun _ _ => rfl

/-- One declared validator before others. -/
theorem cons {p : Value × Value} {rest : Entries} {item : Value} (hkey : p.1.isHashable = true)
    (hitem : MadeFrom modules p item)
    (h : Served modules rest { r with entries := Entries.put p.1 item r.entries } r') :
    Served modules (p :: rest) r r' where
  kept := fun key hhas => h.kept key (Entries.has_put item hhas)
  present := by
    intro q hq
    rcases List.mem_cons.1 hq with rfl | hq
    · exact ⟨hkey, fun halike => h.kept q.1 (Entries.has_put_self halike item r.entries)⟩
    · exact h.present q hq
  found := by
    rintro key ⟨q, hq, hqkey⟩
    -- What is declared later under the text counts, if there is something.
    by_cases hlater : ∃ q ∈ rest, q.1 = .text key
    · obtain ⟨q, hq, hfound⟩ := h.found key hlater
      exact ⟨q, List.mem_cons_of_mem p hq, hfound⟩
    · have hnot : ∀ q ∈ rest, q.1 ≠ .text key := fun q hq heq => hlater ⟨q, hq, heq⟩
      obtain rfl : q = p := (List.mem_cons.1 hq).resolve_right fun hq => hnot q hq hqkey
      refine ⟨q, List.mem_cons_self, hqkey, item, ?_, hitem⟩
      rw [h.others key hnot, hqkey]
      exact Entries.find?_put_self r.entries key item
  others := by
    intro key hnot
    rw [h.others key fun q hq => hnot q (List.mem_cons_of_mem p hq)]
    exact Entries.find?_put_of_ne_text (hnot p List.mem_cons_self) item r.entries

end Served

end Registry

namespace Act

variable {modules : Modules} {s s' : Session} {id : Nat}

/-- Declared validators that are all registered leave the registry with them. -/
theorem served_of_applyValidators {declared : Entries}
    (hdeclares : ∀ p ∈ declared, Declares p.1 p.2) (hid : id < s.registries.length)
    (hrun : (applyValidators modules (.registry id .validators) declared).exec s = (.ok (), s')) :
    Registry.Served modules declared (s.registryAt id) (s'.registryAt id) := by
  -- Each registration leaves a session in which the others are made.
  induction declared generalizing s with
  | nil =>
    obtain ⟨-, rfl⟩ := Prod.mk.inj hrun
    exact .nil modules _
  | cons p rest ih =>
    obtain ⟨key, entry⟩ := p
    rw [applyValidators] at hrun
    rcases exec_applyValidator_cases modules id (hdeclares (key, entry) List.mem_cons_self) with
      ⟨function, hload, hkey, hstep⟩ | ⟨f, hstep⟩ | ⟨f, hstep⟩
    · obtain ⟨records, hs⟩ := hstep s
      rw [exec_bind_of_ok hs] at hrun
      have hrest := ih (fun q hq => hdeclares q (List.mem_cons_of_mem _ hq))
        ((Session.length_withValidator s id key _ function records).symm ▸ hid) hrun
      rw [Session.registryAt_withValidator_self hid] at hrest
      exact .cons hkey ⟨s.nextId, function, hload, rfl⟩ hrest
    · rw [exec_bind_of_error (hstep s)] at hrun
      cases hrun
    · rw [exec_bind_of_error (hstep s)] at hrun
      cases hrun

end Act

/-! ## Settings -/

namespace Settings

/-- The members of an entry under a key are well typed: the function is a text, a name that is given
is a text, and so is the key where no name is given. -/
structure WellTyped (key : Value) (members : Entries) : Prop where
  function : ∃ path, Entries.field? members "function" = some (.text path)
  name : ∀ name, Entries.field? members "name" = some name → ∃ text, name = .text text
  key : Entries.field? members "name" = none → ∃ text, key = .text text

theorem wellTyped_of_readValidator {level : Threshold} {key entry : Value}
    {result : Value × Entries} (h : readValidator level key entry = .ok result) :
    WellTyped result.1 result.2 := by
  obtain ⟨hkey, -, ⟨path, hpath⟩, text, htext⟩ := exists_of_readValidator h
  refine ⟨⟨path, field?_of_getD_null hpath⟩, fun name hname => ?_, fun hnone => ?_⟩
  · rw [hname] at htext
    exact ⟨text, htext⟩
  · -- Without a name, it is the key that was demanded to be a text.
    rw [hnone] at htext
    exact ⟨text, hkey.trans htext⟩

end Settings

namespace Act

variable {modules : Modules} {s s' : Session} {id : Nat}

/-- What is declared is looked up in a registry after it has been registered there. -/
structure LookedUp (modules : Modules) (declared : Entries) (id : Nat) (s : Session) : Prop where
  /-- The registry has every declared key that is alike itself. -/
  present : ∀ p ∈ declared, p.1.alike p.1 = true → (hasItem id p.1).exec s = (.ok true, s)
  /-- Every declared text is a key of the registry, and the validator under it is made of what is
  declared under it. In the process registry, a type check by the text calls that validator. -/
  resolved : ∀ key, (∃ p ∈ declared, p.1 = .text key) →
    (s.registryAt id).contains (.text key) = true ∧
    ∃ p ∈ declared, p.1 = .text key ∧ ∃ object function, LoadsTo modules p.2 (.ok function) ∧
      (getItem id (.text key)).exec s =
        (.ok (.validator object (declaredName (.text key) p.2) function), s) ∧
      (id = processRegistry →
        Resolves s (.text key) (.validator object (declaredName (.text key) p.2) function)
          (declaredName (.text key) p.2) ∧
        ∀ host value name warnIf, (checkType host value (.text key) name none warnIf).exec s =
          (do
            warn deprecationNote
            if ← truth (← call host function [value]) then return value
            reject value (declaredName (.text key) p.2) name : Act Value).exec s)

/-- A registry that has what is declared finds it. -/
theorem lookedUp_of_served {declared : Entries} {r : Registry}
    (h : Registry.Served modules declared r (s.registryAt id)) :
    LookedUp modules declared id s where
  present := by
    intro p hp halike
    obtain ⟨hkey, hhas⟩ := h.present p hp
    rw [exec_hasItem id s hkey, hhas halike]
  resolved := by
    intro key hkey
    obtain ⟨p, hp, hpkey, item, hitem, object, function, hload, rfl⟩ := h.found key hkey
    rw [hpkey] at hitem
    refine ⟨?_, p, hp, hpkey, object, function, hload, ?_, ?_⟩
    · show Entries.has (s.registryAt id).entries (.text key) = true
      rw [Entries.has_text, hitem]
      rfl
    · rw [exec_getItem_text, hitem]
    · rintro rfl
      exact ⟨resolves_of_find? hitem, fun host value name warnIf =>
        exec_checkType_of_found hitem host value name warnIf⟩

/-- Settings that were loaded have a level that is named, if there is one, and well-typed entries.
Once they have been applied to a registry, what they declare is looked up there. -/
theorem applySettings_lookedUp {data value : Value} {s₀ s₁ : Session}
    (hload : (Settings.load data).exec s₀ = (.ok value, s₁)) :
    ∃ objectId level entries, value = .settings objectId level (.mapping none entries) ∧
      (level = .null ∨ ∃ name ∈ Settings.levelNames, level = .text name) ∧
      (∀ p ∈ entries, ∃ members, p.2 = .mapping none members ∧
        Settings.WellTyped p.1 members) ∧
      ∀ (modules : Modules) (registry : Value) (id : Nat) (s s' : Session) (answer : Value),
        IsTarget registry id → id < s.registries.length →
        (applySettings modules value registry).exec s = (.ok answer, s') →
        LookedUp modules entries id s' := by
  obtain ⟨objectId, settings, hread, rfl⟩ := Settings.exists_ofDocument_of_load hload
  obtain ⟨hlevel, hentries⟩ := Settings.exists_of_ofDocument hread
  have hshape := Settings.wellShaped_of_ofDocument hread
  refine ⟨objectId, settings.levelValue, settings.entries, rfl, ?_, ?_, ?_⟩
  · unfold Settings.levelValue
    cases hname : settings.logLevel with
    | none => exact .inl rfl
    | some name => exact .inr ⟨name, hlevel name hname, rfl⟩
  · intro p hp
    obtain ⟨⟨key, members⟩, hmem, rfl⟩ := List.mem_map.1 hp
    obtain ⟨read, hread⟩ := hentries (key, members) hmem
    exact ⟨members, rfl, Settings.wellTyped_of_readValidator hread⟩
  · intro modules registry id s s' answer htarget hid hrun
    have happly := exec_applySettings modules hshape htarget objectId settings.entries s
    -- The level is set first, which leaves the registries, and all entries are registered then.
    set s₂ : Session := { s with level := settings.levelAfter s.level }
    rcases hall : (applyValidators modules (.registry id .validators) settings.entries).exec s₂
      with ⟨f | _, t⟩
    · rw [exec_bind_of_error hall] at happly
      cases hrun.symm.trans happly
    · rw [exec_bind_of_ok hall, exec_pure] at happly
      obtain ⟨-, rfl⟩ := Prod.mk.inj (hrun.symm.trans happly)
      exact lookedUp_of_served (served_of_applyValidators (s := s₂) hshape.declares hid hall)

/-- Settings for a new key and a built-in one are looked up in the process registry. -/
theorem applySettings_lookedUp_loadable :
    ∃ s', (applySettings fixtures (loaded loadable) .null).exec .initial =
        (.ok (.registry processRegistry .validators), s') ∧
      (s'.registryAt processRegistry).contains (.text "even") = true ∧
      ∃ object function, Resolves s' (.text "even") (.validator object (.text "even") function)
        (.text "even") := by
  have hload : (Settings.load (document loadable)).exec .initial =
      (.ok (loaded loadable), { Session.initial with nextId := 8 }) := rfl
  obtain ⟨s', hrun⟩ : ∃ s', (applySettings fixtures (loaded loadable) .null).exec .initial =
      (.ok (.registry processRegistry .validators), s') := ⟨_, rfl⟩
  obtain ⟨_, _, entries, ⟨⟩, -, -, hlooked⟩ := applySettings_lookedUp hload
  have heven : ∃ p ∈ entriesOf loadable, p.1 = .text "even" := ⟨_, List.mem_cons_self, rfl⟩
  obtain ⟨hcontains, p, hp, hkey, object, function, -, -, hprocess⟩ :=
    (hlooked fixtures .null processRegistry .initial s' _ .process (by decide) hrun).resolved
      "even" heven
  -- The entry under that key gives no name, so the key stands for it.
  obtain rfl : p = (.text "even", naming "fixtures.is_even") := by
    rcases List.mem_cons.1 hp with rfl | hp
    · rfl
    · obtain rfl := List.mem_singleton.1 hp
      exact absurd (Value.text.inj hkey) (by decide)
  exact ⟨s', hrun, hcontains, object, function, (hprocess rfl).1⟩

/-- A document that declares a validator with a name under a number. -/
def numbered : Value := .mapping none [(.text "validators", .mapping none [(.int 1, named)])]

/-- A registry of validators beside the process registry, filled as that one is. -/
def besideProcess : Session :=
  { registries := [{ name := .text "validators", entries := Registry.builtinEntries 0 },
      { name := .text "others", entries := Registry.builtinEntries 7 }]
    nextId := 14 }

/-- Not every key of loaded settings is looked up: a number that comes with a name is accepted as a
key, but is none that a registry contains or that a type check knows, and a text that is registered
in another registry is not known to type checks, which ask the process registry only. -/
theorem applySettings_not_lookedUp :
    (∃ s s', (Settings.load numbered).exec .initial =
        (.ok (.settings 7 .null (.mapping none [(.int 1, named)])), s) ∧
      (applySettings fixtures (.settings 7 .null (.mapping none [(.int 1, named)])) .null).exec s =
        (.ok (.registry processRegistry .validators), s') ∧
      (s'.registryAt processRegistry).contains (.int 1) = false ∧
      ∀ predicate expected, ¬ Resolves s' (.int 1) predicate expected) ∧
    ∃ s', (applySettings fixtures (loaded loadable) (.registry 1 .validators)).exec besideProcess =
        (.ok (.registry 1 .validators), s') ∧
      (s'.registryAt 1).contains (.text "even") = true ∧
      ∀ predicate expected, ¬ Resolves s' (.text "even") predicate expected := by
  refine ⟨⟨_, _, rfl, rfl, rfl, ?_⟩, _, rfl, rfl, ?_⟩
  · intro predicate expected h
    cases h with
    | cls id htype => cases htype
    | key htype _ => cases htype
    | predicate htype _ => cases htype
  · intro predicate expected h
    cases h with
    | cls id htype => cases htype
    | key htype hitem =>
      -- The process registry has nothing under the text.
      cases htype
      cases hitem
    | predicate htype _ => cases htype

end Act

end Conform
