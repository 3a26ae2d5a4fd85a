import Conform.Conversion
import Conform.Proofs.Registry.Access
import Conform.Proofs.Registry.Overwriting
import Mathlib.Data.List.Induction
import Mathlib.Data.List.Nodup

/-!
# Registries as ordered maps

A registry under texts is told by what was put into it (`Deposits`): its keys come in the order of
their first deposits, and under each key is the item of its last one. That holds after every run of
registrations, validators that are set, and calls that empty or fill the registry, including those
that are refused (`Kept`), whatever else happens in the session.

* `Deposits.keys_concat` and `Deposits.last?_concat_self`: one more deposit.
* `Deposits.IsHeldBy.put` and `Deposits.isHeldBy_of_nodup`: entries that hold deposits.
* `Kept.newRegistry`, `Kept.newValidatorRegistry` and `Kept.initial`: where runs start.
* `Kept.keeps`: what every run preserves.
* `Kept.orderedMap`: what is observed of the registry after a run, and what each call does then.
-/

namespace Conform

namespace Entries

variable {entries : Entries} {key : String}

/-- Where no key is there twice, an entry under a text is the one that is found. -/
theorem find?_of_mem (hnodup : (keys entries).Nodup) {item : Value}
    (hmem : (.text key, item) ∈ entries) : find? entries (.text key) = some item := by
  induction entries with
  | nil => cases hmem
  | cons entry rest ih =>
    obtain ⟨hnew, hrest⟩ := List.nodup_cons.1 hnodup
    rcases List.mem_cons.1 hmem with rfl | hmem
    · exact find?_cons_self key item rest
    · have hother : entry.1 ≠ .text key := by
        intro heq
        rw [heq] at hnew
        exact hnew (List.mem_map_of_mem (f := Prod.fst) hmem)
      rw [find?_cons_of_ne hother]
      exact ih hrest hmem

end Entries

/-- Items that were put under texts, in order. -/
abbrev Deposits := List (String × Value)

namespace Deposits

variable (d : Deposits)

/-- The texts in the order of their first deposits. -/
def keys : List String := (d.map Prod.fst).eraseDups

/-- The item of the last deposit under a text. -/
def last? (key : String) : Option Value := d.reverse.lookup key

/-- The item of the last deposit under a text; the absent value where there is none. -/
def itemAt (key : String) : Value := (d.last? key).getD .null

/-- The validators of the built-in kinds, with identities counted from the given one. -/
def builtin (firstId : Nat) : Deposits :=
  Registry.builtins.zipIdx.map fun ((key, routine), i) =>
    (key, .validator (firstId + i) (.text key) (.routine routine))

/-- One more deposit puts its text after the others, unless it is among them. -/
theorem keys_concat (key : String) (item : Value) :
    keys (d ++ [(key, item)]) = d.keys ++ if key ∈ d.keys then [] else [key] := by
  have hmem : key ∈ d.keys ↔ key ∈ d.map Prod.fst := List.mem_eraseDups
  unfold keys at hmem ⊢
  rw [List.map_append, List.eraseDups_append]
  -- What was listed comes first on both sides, so only the last text is left.
  congr 1
  by_cases h : key ∈ d.map Prod.fst
  · rw [if_pos (hmem.2 h)]
    simp [List.removeAll, h]
  · rw [if_neg (mt hmem.1 h)]
    simp [List.removeAll, h, List.eraseDups_cons]

theorem last?_concat_self (key : String) (item : Value) :
    last? (d ++ [(key, item)]) key = some item := by
  simp [last?]

theorem last?_concat_of_ne {key key' : String} (hne : key ≠ key') (item : Value) :
    last? (d ++ [(key, item)]) key' = d.last? key' := by
  simp [last?, List.lookup_cons, beq_false_of_ne hne.symm]

/-- No text is listed twice. -/
theorem nodup_keys : d.keys.Nodup := by
  -- Deposits are made at the end, so the induction takes the last one off.
  induction d using List.reverseRecOn with
  | nil => exact List.nodup_nil
  | append_singleton d p ih =>
    rw [keys_concat]
    by_cases h : p.1 ∈ keys d
    · rw [if_pos h, List.append_nil]
      exact ih
    · rw [if_neg h, ← List.concat_eq_append]
      exact ih.concat h

/-- A text is listed exactly where there is a deposit under it. -/
theorem mem_keys_iff (key : String) : key ∈ d.keys ↔ (d.last? key).isSome = true := by
  unfold keys last?
  rw [List.mem_eraseDups, List.mem_map, List.lookup_isSome_iff]
  simp only [List.mem_reverse, beq_iff_eq, eq_comm (a := key)]

/-- Entries that hold deposits, and nothing else. -/
structure IsHeldBy (d : Deposits) (entries : Entries) : Prop where
  /-- Their keys are the texts in the order of their first deposits. -/
  keys : Entries.keys entries = d.keys.map .text
  /-- Under each text is what was put there last. -/
  found : ∀ key, Entries.find? entries (.text key) = d.last? key

variable {d} {entries : Entries}

theorem isHeldBy_nil : IsHeldBy [] [] := ⟨rfl, fun _ => rfl⟩

namespace IsHeldBy

/-- A text is present exactly where it is listed. -/
theorem has_eq (h : d.IsHeldBy entries) (key : String) :
    Entries.has entries (.text key) = decide (key ∈ d.keys) := by
  rw [Entries.has_text, h.found, Bool.eq_iff_iff, decide_eq_true_eq, mem_keys_iff]

/-- Putting an item under a text is one more deposit. -/
theorem put (h : d.IsHeldBy entries) (key : String) (item : Value) :
    IsHeldBy (d ++ [(key, item)]) (Entries.put (.text key) item entries) where
  keys := by
    rw [Entries.keys_put_text, keys_concat, h.keys, h.has_eq]
    by_cases hkey : key ∈ d.keys <;> simp [hkey]
  found := by
    intro key'
    by_cases hne : key = key'
    · subst hne
      rw [Entries.find?_put_self, last?_concat_self]
    · rw [Entries.find?_put_of_ne hne, last?_concat_of_ne d hne, h.found]

/-- The entries are the texts in order, each with its item. -/
theorem entries_eq (h : d.IsHeldBy entries) :
    entries = d.keys.map fun key => (.text key, d.itemAt key) := by
  have htexts : ∀ entry ∈ entries, ∃ key, entry.1 = .text key := by
    intro entry hentry
    have hmem : entry.1 ∈ d.keys.map Value.text := by
      rw [← h.keys]
      exact List.mem_map_of_mem hentry
    obtain ⟨key, -, hkey⟩ := List.mem_map.1 hmem
    exact ⟨key, hkey.symm⟩
  have hnodup : (Entries.keys entries).Nodup := by
    rw [h.keys]
    exact d.nodup_keys.map fun _ _ => Value.text.inj
  calc entries
      = entries.map fun entry => (entry.1, (Entries.find? entries entry.1).getD .null) := by
        refine (List.map_id entries).symm.trans (List.map_congr_left fun entry hentry => ?_)
        -- No key is there twice, so what is found under the key is the entry itself.
        obtain ⟨key, hkey⟩ := htexts entry hentry
        obtain ⟨_, item⟩ := entry
        obtain rfl := hkey
        rw [Entries.find?_of_mem hnodup hentry]
        rfl
    _ = (Entries.keys entries).map fun v => (v, (Entries.find? entries v).getD .null) := by
        rw [Entries.keys, List.map_map]
        rfl
    _ = d.keys.map fun key => (.text key, d.itemAt key) := by
        rw [h.keys, List.map_map]
        refine List.map_congr_left fun key _ => ?_
        rw [Function.comp_apply, h.found]
        rfl

end IsHeldBy

/-- Items under distinct texts hold themselves. -/
theorem isHeldBy_of_nodup (hnodup : (d.map Prod.fst).Nodup) :
    d.IsHeldBy (d.map fun p => (.text p.1, p.2)) := by
  induction d using List.reverseRecOn with
  | nil => exact isHeldBy_nil
  | append_singleton d p ih =>
    rw [List.map_append, List.nodup_append] at hnodup
    obtain ⟨hd, -, hnew⟩ := hnodup
    have hheld := ih hd
    -- The last text is new, so its item is put at the end.
    have habsent : Value.text p.1 ∉ Entries.keys (d.map fun p => (.text p.1, p.2)) := by
      intro hmem
      rw [hheld.keys] at hmem
      obtain ⟨key, hkey, heq⟩ := List.mem_map.1 hmem
      exact hnew key (List.mem_eraseDups.1 hkey) p.1 (by simp) (Value.text.inj heq)
    rw [List.map_append, List.map_singleton, ← Entries.put_of_not_mem habsent p.2]
    exact hheld.put p.1 p.2

end Deposits

/-! ## Registries that keep deposits -/

namespace Session

/-- The registry at a place has a name and keeps deposits. -/
def Keeps (s : Session) (id : Nat) (name : Value) (d : Deposits) : Prop :=
  ∃ entries, s.registries[id]? = some { name, entries } ∧ d.IsHeldBy entries

namespace Keeps

variable {s s' : Session} {id : Nat} {name : Value} {d d' : Deposits}

theorem registryAt_eq (h : s.Keeps id name d) :
    ∃ entries, s.registryAt id = { name, entries } ∧ d.IsHeldBy entries := by
  obtain ⟨entries, hentries, hheld⟩ := h
  refine ⟨entries, ?_, hheld⟩
  rw [registryAt, hentries]
  rfl

/-- Only the registry at the place matters. -/
theorem of_eq (h : s.Keeps id name d) (hsame : s'.registries[id]? = s.registries[id]?) :
    s'.Keeps id name d := by
  obtain ⟨entries, hentries, hheld⟩ := h
  exact ⟨entries, hsame.trans hentries, hheld⟩

/-- Other entries of the registry keep what they hold. -/
theorem setEntries (h : s.Keeps id name d) {entries : Entries} (hheld : d'.IsHeldBy entries) :
    (s.setRegistry id { s.registryAt id with entries }).Keeps id name d' := by
  obtain ⟨old, hold, -⟩ := h.registryAt_eq
  obtain ⟨_, hplace, -⟩ := h
  obtain ⟨hlt, -⟩ := List.getElem?_eq_some_iff.1 hplace
  refine ⟨entries, ?_, hheld⟩
  rw [hold]
  exact List.getElem?_set_self hlt

/-- An item that is put under a text is one more deposit. -/
theorem put (h : s.Keeps id name d) (key : String) (item : Value) :
    (s.setRegistry id { s.registryAt id with
      entries := Entries.put (.text key) item (s.registryAt id).entries }).Keeps id name
        (d ++ [(key, item)]) := by
  obtain ⟨entries, hentries, hheld⟩ := h.registryAt_eq
  refine h.setEntries ?_
  rw [hentries]
  exact hheld.put key item

theorem has_eq (h : s.Keeps id name d) (key : String) :
    Entries.has (s.registryAt id).entries (.text key) = decide (key ∈ d.keys) := by
  obtain ⟨entries, hentries, hheld⟩ := h.registryAt_eq
  rw [hentries]
  exact hheld.has_eq key

theorem find?_eq (h : s.Keeps id name d) (key : String) :
    Entries.find? (s.registryAt id).entries (.text key) = d.last? key := by
  obtain ⟨entries, hentries, hheld⟩ := h.registryAt_eq
  rw [hentries]
  exact hheld.found key

theorem keys_eq (h : s.Keeps id name d) : (s.registryAt id).keys = d.keys.map .text := by
  obtain ⟨entries, hentries, hheld⟩ := h.registryAt_eq
  rw [hentries]
  exact hheld.keys

theorem entries_eq (h : s.Keeps id name d) :
    (s.registryAt id).entries = d.keys.map fun key => (.text key, d.itemAt key) := by
  obtain ⟨entries, hentries, hheld⟩ := h.registryAt_eq
  rw [hentries]
  exact hheld.entries_eq

theorem exec_hasItem (h : s.Keeps id name d) (key : String) :
    (Act.hasItem id (.text key)).exec s = (.ok (decide (key ∈ d.keys)), s) := by
  rw [Act.exec_hasItem id s rfl, h.has_eq]

/-- A registration under a text that is free or may be overwritten is one more deposit. -/
theorem exec_register (h : s.Keeps id name d) {key : String} {overwrite : Value}
    (hfree : key ∈ d.keys → s.truth overwrite = true) (item : Value) :
    ∃ s', (Act.register id (.text key) item overwrite).exec s = (.ok (), s') ∧
      s'.Keeps id name (d ++ [(key, item)]) := by
  refine ⟨_, Act.exec_register id rfl ?_ item, h.put key item⟩
  by_cases hkey : key ∈ d.keys
  · exact .inl (hfree hkey)
  · right
    rw [h.has_eq]
    exact decide_eq_false hkey

/-- A registration under a text that is taken and may not be overwritten is refused. -/
theorem exec_register_of_taken (h : s.Keeps id name d) {key : String} (hkey : key ∈ d.keys)
    {overwrite : Value} (hoverwrite : s.truth overwrite = false) (item : Value) :
    ∃ f, (Act.register id (.text key) item overwrite).exec s = (.error f, s) ∧
      (∀ text, name.message s.level = .ok text → f = .taken (.text key) name key text) ∧
      ∀ e, name.message s.level = .error e → f = .ofText e := by
  obtain ⟨entries, hentries, hheld⟩ := h.registryAt_eq
  have htaken : Entries.has (s.registryAt id).entries (.text key) = true := by
    rw [h.has_eq]
    exact decide_eq_true hkey
  have hrefused := Act.exec_register_of_taken id hoverwrite htaken item
  rw [hentries] at hrefused
  exact hrefused

/-- A validator that is set under a text is one more deposit. -/
theorem exec_setValidator (h : s.Keeps id name d) (key : String) (function display : Value) :
    ∃ s', (Act.setValidator id (.text key) function display).exec s =
        (.ok (.validator s.nextId (Act.label (.text key) display) function), s') ∧
      s'.Keeps id name
        (d ++ [(key, .validator s.nextId (Act.label (.text key) display) function)]) := by
  have hkey : (Value.text key).isHashable = true := rfl
  obtain ⟨records, hset⟩ := Act.exec_setValidator id hkey ⟨key, rfl⟩ function display s
  exact ⟨_, hset, h.put key _⟩

/-- Filling the registry leaves the validators of the built-in kinds. -/
theorem seed (h : s.Keeps id name d) :
    ((Act.seedRegistry id).exec s).2.Keeps id name (.builtin s.nextId) := by
  have hbuiltin : (Deposits.builtin s.nextId).IsHeldBy (Registry.builtinEntries s.nextId) :=
    Deposits.isHeldBy_of_nodup (by simp [Deposits.builtin, Registry.builtins])
  exact h.setEntries hbuiltin

end Keeps

end Session

open Act

/-- A registry under a name keeps what was put under texts since it was last emptied or filled. It
starts with items under distinct texts. Each step is a call on the registry with what came of it, or
anything else that leaves the registry as it is. -/
inductive Kept (id : Nat) (name : Value) : Session → Deposits → Prop where
  | start {s : Session} {d : Deposits} (hnodup : (d.map Prod.fst).Nodup)
    (hplace : s.registries[id]? = some { name, entries := d.map fun p => (.text p.1, p.2) }) :
    Kept id name s d
  | registered {s s' : Session} {d : Deposits} {key : String} {item overwrite : Value}
    (h : Kept id name s d)
    (hrun : (register id (.text key) item overwrite).exec s = (.ok (), s')) :
    Kept id name s' (d ++ [(key, item)])
  | refused {s s' : Session} {d : Deposits} {key : String} {item overwrite : Value} {f : Failure}
    (h : Kept id name s d)
    (hrun : (register id (.text key) item overwrite).exec s = (.error f, s')) : Kept id name s' d
  | set {s s' : Session} {d : Deposits} {key : String} {function display item : Value}
    (h : Kept id name s d)
    (hrun : (setValidator id (.text key) function display).exec s = (.ok item, s')) :
    Kept id name s' (d ++ [(key, item)])
  | cleared {s : Session} {d : Deposits} (h : Kept id name s d) :
    Kept id name ((clearRegistry id).exec s).2 []
  | seeded {s : Session} {d : Deposits} (h : Kept id name s d) :
    Kept id name ((seedRegistry id).exec s).2 (.builtin s.nextId)
  | elsewhere {s s' : Session} {d : Deposits} (h : Kept id name s d)
    (hsame : s'.registries[id]? = s.registries[id]?) : Kept id name s' d

/-- What is observed of a registry that keeps deposits, and what comes of calls on it: it is an
insertion-ordered map. -/
structure OrderedMap (id : Nat) (name : Value) (d : Deposits) (s : Session) : Prop where
  /-- No key is there twice. -/
  nodup : (s.registryAt id).keys.Nodup
  /-- The keys come in the order of their first deposits. -/
  keys : (s.registryAt id).keys = d.keys.map .text
  /-- The keys come with the items of their last deposits. -/
  entries : (s.registryAt id).entries = d.keys.map fun key => (.text key, d.itemAt key)
  /-- The items come in the order of their keys. -/
  items : ∀ kind, s.items (.registry id kind) = .ok (d.keys.map d.itemAt)
  /-- There are as many items as keys. -/
  count : (s.registryAt id).count = d.keys.length ∧
    ∀ kind, s.length? (.registry id kind) = some d.keys.length
  /-- A key that is there is found with the item of its last deposit. -/
  present : ∀ key ∈ d.keys, ∃ item, d.last? key = some item ∧
    (hasItem id (.text key)).exec s = (.ok true, s) ∧
    (s.registryAt id).contains (.text key) = true ∧
    (getItem id (.text key)).exec s = (.ok item, s) ∧
    (getOptionalItem id (.text key)).exec s = (.ok item, s)
  /-- A key that is not there is not found, and the failure tells the keys that are. -/
  absent : ∀ key ∉ d.keys, d.last? key = none ∧
    (hasItem id (.text key)).exec s = (.ok false, s) ∧
    (s.registryAt id).contains (.text key) = false ∧
    (getItem id (.text key)).exec s =
      (.error (.absent (.text key) name key (s.registryAt id).keys), s) ∧
    (getOptionalItem id (.text key)).exec s = (.ok .null, s)
  /-- A key that is there and may not be overwritten is refused, which changes nothing. The failure
  is the error of the name of the registry where that has no text. -/
  taken : ∀ key ∈ d.keys, ∀ item overwrite, s.truth overwrite = false →
    ∃ f, (register id (.text key) item overwrite).exec s = (.error f, s) ∧
      (∀ text, name.message s.level = .ok text → f = .taken (.text key) name key text) ∧
      ∀ e, name.message s.level = .error e → f = .ofText e
  /-- Any other registration succeeds. -/
  free : ∀ key item overwrite, (key ∈ d.keys → s.truth overwrite = true) →
    ∃ s', (register id (.text key) item overwrite).exec s = (.ok (), s')
  /-- Setting a validator succeeds. -/
  settable : ∀ key function display, ∃ s',
    (setValidator id (.text key) function display).exec s =
      (.ok (.validator s.nextId (label (.text key) display) function), s')

variable {s : Session} {id : Nat} {name : Value} {d : Deposits}

/-- A registry that keeps deposits is an ordered map of them. -/
theorem Session.Keeps.isOrderedMap (h : s.Keeps id name d) : OrderedMap id name d s where
  nodup := by
    rw [h.keys_eq]
    exact d.nodup_keys.map fun _ _ => Value.text.inj
  keys := h.keys_eq
  entries := h.entries_eq
  items := by
    intro kind
    rw [Session.items, Session.items?, h.entries_eq, Entries.items, List.map_map]
    rfl
  count := by
    refine ⟨?_, fun kind => ?_⟩
    · rw [Registry.count, h.entries_eq, List.length_map]
    · rw [Session.length?, h.entries_eq, List.length_map]
  present := by
    intro key hkey
    obtain ⟨item, hitem⟩ := Option.isSome_iff_exists.1 ((d.mem_keys_iff key).1 hkey)
    have hfound : Entries.find? (s.registryAt id).entries (.text key) = some item :=
      (h.find?_eq key).trans hitem
    refine ⟨item, hitem, ?_, ?_, ?_, ?_⟩
    · rw [h.exec_hasItem, decide_eq_true hkey]
    · exact (h.has_eq key).trans (decide_eq_true hkey)
    · rw [exec_getItem_text, hfound]
    · rw [exec_getOptionalItem_text, hfound]
      rfl
  absent := by
    intro key hkey
    have hnone : d.last? key = none := by
      rw [d.mem_keys_iff] at hkey
      exact Option.not_isSome_iff_eq_none.1 hkey
    have hfound : Entries.find? (s.registryAt id).entries (.text key) = none :=
      (h.find?_eq key).trans hnone
    refine ⟨hnone, ?_, ?_, ?_, ?_⟩
    · rw [h.exec_hasItem, decide_eq_false hkey]
    · exact (h.has_eq key).trans (decide_eq_false hkey)
    · -- The failure tells the name of the registry as well, which is the one it keeps.
      obtain ⟨entries, hentries, -⟩ := h.registryAt_eq
      rw [exec_getItem_text, hfound, hentries]
    · rw [exec_getOptionalItem_text, hfound]
      rfl
  taken := fun key hkey item overwrite hoverwrite =>
    h.exec_register_of_taken hkey hoverwrite item
  free := by
    intro key item overwrite hfree
    obtain ⟨s', hrun, -⟩ := h.exec_register hfree item
    exact ⟨s', hrun⟩
  settable := by
    intro key function display
    obtain ⟨s', hrun, -⟩ := h.exec_setValidator key function display
    exact ⟨s', hrun⟩

namespace Kept

/-- A new registry keeps nothing yet. -/
theorem newRegistry {s' : Session} (hrun : (Act.newRegistry name).exec s = (.ok id, s')) :
    Kept id name s' [] := by
  obtain ⟨hid, rfl⟩ := Prod.mk.inj hrun
  obtain rfl := Except.ok.inj hid
  exact .start List.nodup_nil List.getElem?_concat_length

/-- A new registry of validators keeps those of the built-in kinds, if that is asked for, and
nothing otherwise. -/
theorem newValidatorRegistry {s' : Session} {seed : Value}
    (hrun : (Act.newValidatorRegistry name seed).exec s = (.ok id, s')) :
    Kept id name s' [] ∨ Kept id name s' (.builtin s.nextId) := by
  obtain ⟨place, hnew⟩ : ∃ place, (Act.newRegistry name).exec s =
      (.ok place, { s with registries := s.registries ++ [.empty name] }) := ⟨_, rfl⟩
  have hempty := newRegistry hnew
  rw [Act.newValidatorRegistry, exec_bind_of_ok hnew, exec_bind_of_ok (exec_truth _ seed)] at hrun
  set s₁ : Session := { s with registries := s.registries ++ [.empty name] }
  cases hseed : s₁.truth seed with
  | false =>
    rw [hseed] at hrun
    obtain ⟨hid, rfl⟩ := Prod.mk.inj hrun
    obtain rfl := Except.ok.inj hid
    exact .inl hempty
  | true =>
    rw [hseed] at hrun
    obtain ⟨hid, rfl⟩ := Prod.mk.inj hrun
    obtain rfl := Except.ok.inj hid
    exact .inr hempty.seeded

/-- The process registry keeps the validators of the built-in kinds at first. -/
theorem initial : Kept Session.processRegistry (.text "validators") .initial (.builtin 0) :=
  .start (by decide) rfl

/-- What the calls of a run put into a registry is what the registry keeps. -/
theorem keeps (h : Kept id name s d) : s.Keeps id name d := by
  -- The induction is on the run; what each call does to a registry that keeps deposits is known.
  induction h with
  | start hnodup hplace => exact ⟨_, hplace, Deposits.isHeldBy_of_nodup hnodup⟩
  | @registered s s' d key item overwrite _ hrun ih =>
    -- A registration that succeeds was under a key that is free or may be overwritten.
    have hfree : key ∈ d.keys → s.truth overwrite = true := by
      intro hkey
      by_contra hoverwrite
      obtain ⟨f, hf, -⟩ :=
        ih.exec_register_of_taken hkey (Bool.not_eq_true _ ▸ hoverwrite) item
      cases hrun.symm.trans hf
    obtain ⟨t, ht, hkeeps⟩ := ih.exec_register hfree item
    obtain ⟨-, rfl⟩ := Prod.mk.inj (hrun.symm.trans ht)
    exact hkeeps
  | @refused s s' d key item overwrite f _ hrun ih =>
    -- A registration that is refused was under a key that is taken.
    by_cases hfree : key ∈ d.keys → s.truth overwrite = true
    · obtain ⟨t, ht, -⟩ := ih.exec_register hfree item
      cases hrun.symm.trans ht
    · obtain ⟨hkey, hoverwrite⟩ := Classical.not_imp.1 hfree
      obtain ⟨f, hf, -⟩ :=
        ih.exec_register_of_taken hkey (Bool.not_eq_true _ ▸ hoverwrite) item
      obtain ⟨-, rfl⟩ := Prod.mk.inj (hrun.symm.trans hf)
      exact ih
  | @set s s' d key function display item _ hrun ih =>
    obtain ⟨t, ht, hkeeps⟩ := ih.exec_setValidator key function display
    obtain ⟨hitem, rfl⟩ := Prod.mk.inj (hrun.symm.trans ht)
    obtain rfl := Except.ok.inj hitem
    exact hkeeps
  | cleared _ ih => exact ih.setEntries Deposits.isHeldBy_nil
  | seeded _ ih => exact ih.seed
  | elsewhere _ hsame ih => exact ih.of_eq hsame

/-- After every run of calls on a registry under texts, including those that are refused, the
registry is an ordered map of what was put into it since it was last emptied or filled. Filling a
registry succeeds in every state and leaves the validators of the built-in kinds in their order. -/
theorem orderedMap (h : Kept id name s d) :
    OrderedMap id name d s ∧
    ∀ t : Session, id < t.registries.length → ∃ t', (seedRegistry id).exec t = (.ok (), t') ∧
      (t'.registryAt id).entries =
        [(.text "alphanumeric",
            .validator t.nextId (.text "alphanumeric") (.routine .isAlphanumeric)),
          (.text "array", .validator (t.nextId + 1) (.text "array") (.routine .isArray)),
          (.text "boolean", .validator (t.nextId + 2) (.text "boolean") (.routine .isBoolean)),
          (.text "function", .validator (t.nextId + 3) (.text "function") (.routine .isFunction)),
          (.text "number", .validator (t.nextId + 4) (.text "number") (.routine .isNumber)),
          (.text "object", .validator (t.nextId + 5) (.text "object") (.routine .isPlainObject)),
          (.text "string", .validator (t.nextId + 6) (.text "string") (.routine .isString))] := by
  refine ⟨h.keeps.isOrderedMap, fun t hid => ⟨_, rfl, ?_⟩⟩
  have hplace : (((seedRegistry id).exec t).2.registryAt id) =
      { t.registryAt id with entries := Registry.builtinEntries t.nextId } := by
    show ((t.registries.set id _)[id]?).getD _ = _
    rw [List.getElem?_set_self hid]
    rfl
  exact congrArg Registry.entries hplace

/-- A key that is registered twice is refused, and one that is overwritten keeps its place. -/
theorem orderedMap_overwritten :
    ∃ s, OrderedMap 1 (.text "numbers") [("one", .int 0), ("two", .int 2), ("one", .int 1)] s ∧
      (s.registryAt 1).keys = [.text "one", .text "two"] ∧
      (getItem 1 (.text "one")).exec s = (.ok (.int 1), s) := by
  have h₀ : Kept 1 (.text "numbers") ((Act.newRegistry (.text "numbers")).exec .initial).2 [] :=
    newRegistry (s := .initial) rfl
  obtain ⟨s₁, hone⟩ := h₀.orderedMap.1.free "one" (.int 0) (.bool false) nofun
  have h₁ := h₀.registered hone
  obtain ⟨f, hrefused, -⟩ := h₁.orderedMap.1.taken "one" (by decide) (.int 5) (.bool false) rfl
  have h₂ := h₁.refused hrefused
  obtain ⟨s₂, htwo⟩ := h₂.orderedMap.1.free "two" (.int 2) (.bool false)
    fun hkey => absurd hkey (by decide)
  have h₃ := h₂.registered htwo
  obtain ⟨s₃, hagain⟩ := h₃.orderedMap.1.free "one" (.int 1) (.bool true) fun _ => rfl
  have hmap := (h₃.registered hagain).orderedMap.1
  obtain ⟨_, ⟨⟩, -, -, hget, -⟩ := hmap.present "one" (by decide)
  exact ⟨s₃, hmap, hmap.keys, hget⟩

end Kept

end Conform
