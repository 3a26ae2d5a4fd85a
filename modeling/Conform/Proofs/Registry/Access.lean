import Conform.Proofs.Session.Run
import Conform.Proofs.Value.Texts
import Conform.Registry
import Mathlib.Tactic.Set

/-!
# Access to a registry

What the operations on one registry do to a session, whatever the registry holds.

* `Act.exec_hasItem`, `Act.exec_getItem_text` and `Act.exec_getOptionalItem_text`: look-ups, which
  change nothing.
* `Act.exec_register` and `Act.exec_register_of_taken`: a registration succeeds or is refused.
* `Act.exec_setValidator`: a new validator is put under a key (`Session.withValidator`), which
  cannot be refused unless the key cannot be one (`Act.exec_setValidator_of_unhashable`).
-/

namespace Conform

namespace Session

/-- The session once a new validator has been put under a key of a registry, and records about that
have been added. -/
def withValidator (s : Session) (id : Nat) (key name function : Value) (records : List Record) :
    Session :=
  let item := .validator s.nextId name function
  let r := s.registryAt id
  { s.setRegistry id { r with entries := Entries.put key item r.entries } with
    nextId := s.nextId + 1, logs := s.logs ++ records }

theorem registryAt_withValidator_self {s : Session} {id : Nat} (hid : id < s.registries.length)
    (key name function : Value) (records : List Record) :
    (s.withValidator id key name function records).registryAt id =
      { s.registryAt id with
        entries := Entries.put key (.validator s.nextId name function)
          (s.registryAt id).entries } := by
  unfold withValidator setRegistry registryAt
  rw [List.getElem?_set_self hid]
  rfl

theorem registryAt_withValidator_of_ne (s : Session) {id other : Nat} (h : other ≠ id)
    (key name function : Value) (records : List Record) :
    (s.withValidator id key name function records).registryAt other = s.registryAt other := by
  unfold withValidator setRegistry registryAt
  rw [List.getElem?_set_ne h.symm]

theorem length_withValidator (s : Session) (id : Nat) (key name function : Value)
    (records : List Record) :
    (s.withValidator id key name function records).registries.length = s.registries.length :=
  List.length_set

/-- A record that is added comes after the others. -/
theorem exec_log_withValidator (s : Session) (id : Nat) (key name function : Value)
    (records : List Record) (channel : Channel) (severity : Severity) (text : String) :
    (Act.log channel severity text).exec (s.withValidator id key name function records) =
      (.ok (), s.withValidator id key name function (records ++ [⟨channel, severity, text⟩])) := by
  rw [Act.exec_log]
  simp only [withValidator, List.append_assoc]

end Session

namespace Act

variable (id : Nat) (s : Session)

/-! ## Look-ups -/

/-- A registry always tells whether it has a key that can be one. -/
theorem exec_hasItem {key : Value} (hkey : key.isHashable = true) :
    (hasItem id key).exec s = (.ok (Entries.has (s.registryAt id).entries key), s) := by
  rw [hasItem, exec_bind_of_ok (exec_registryAt s id), Registry.has, if_pos hkey]
  rfl

/-- An optional look-up by a text gives what is found, or the absent value. -/
theorem exec_getOptionalItem_text (key : String) :
    (getOptionalItem id (.text key)).exec s =
      (.ok ((Entries.find? (s.registryAt id).entries (.text key)).getD .null), s) := by
  rw [getOptionalItem, exec_bind_of_ok (exec_registryAt s id)]
  rfl

/-- A look-up by a text gives what is found, and fails with the keys that there are otherwise. -/
theorem exec_getItem_text (key : String) :
    (getItem id (.text key)).exec s =
      match Entries.find? (s.registryAt id).entries (.text key) with
      | some item => (.ok item, s)
      | none =>
        (.error (.absent (.text key) (s.registryAt id).name key (s.registryAt id).keys), s) := by
  have hhashable : (Value.text key).isHashable = true := rfl
  rw [getItem, exec_bind_of_ok (exec_registryAt s id), Registry.get, if_pos hhashable]
  cases Entries.find? (s.registryAt id).entries (.text key) with
  | some item => rfl
  | none => exact exec_bind_of_ok (exec_message_of_ok rfl) _

/-! ## Registrations -/

variable {s}

/-- An item is put under a key that is free or may be overwritten. -/
theorem exec_register {key overwrite : Value} (hkey : key.isHashable = true)
    (hfree : s.truth overwrite = true ∨ Entries.has (s.registryAt id).entries key = false)
    (item : Value) :
    (register id key item overwrite).exec s =
      (.ok (), s.setRegistry id { s.registryAt id with
        entries := Entries.put key item (s.registryAt id).entries }) := by
  have hnot : (!s.truth overwrite && Entries.has (s.registryAt id).entries key) = false := by
    rcases hfree with h | h <;> simp [h]
  rw [register, exec_bind_of_ok (exec_registryAt s id), exec_bind_of_ok (exec_truth s _),
    Registry.register, hkey, hnot]
  rfl

/-- A text that is taken and may not be overwritten is refused, which changes nothing. The failure
says so where the name of the registry has a text, and is the error of that text otherwise. -/
theorem exec_register_of_taken {key : String} {overwrite : Value}
    (hoverwrite : s.truth overwrite = false)
    (htaken : Entries.has (s.registryAt id).entries (.text key) = true) (item : Value) :
    ∃ f, (register id (.text key) item overwrite).exec s = (.error f, s) ∧
      (∀ text, (s.registryAt id).name.message s.level = .ok text →
        f = .taken (.text key) (s.registryAt id).name key text) ∧
      ∀ e, (s.registryAt id).name.message s.level = .error e → f = .ofText e := by
  have hrefused : (s.registryAt id).register (.text key) item false = .error .taken := by
    rw [Registry.register, htaken]
    rfl
  have hkeyText : (message (.text key)).exec s = (.ok key, s) := exec_message_of_ok rfl
  rw [register, exec_bind_of_ok (exec_registryAt s id), exec_bind_of_ok (exec_truth s _),
    hoverwrite, hrefused, answerOf, exec_bind, exec_bind_of_ok hkeyText, exec_bind, exec_message]
  cases (s.registryAt id).name.message s.level with
  | ok text =>
    refine ⟨_, rfl, ?_, by simp⟩
    rintro _ ⟨rfl⟩
    rfl
  | error e =>
    refine ⟨_, rfl, by simp, ?_⟩
    rintro _ ⟨rfl⟩
    rfl

/-! ## Validators -/

/-- The name of a validator in messages: the one that is given, or else the key. -/
def label (key name : Value) : Value := if name.isNull then key else name

/-- Setting a validator makes it, asks whether it replaces another, and puts it in. -/
theorem setValidator_eq (key function name : Value) :
    setValidator id key function name = (do
      let validator ← newValidator (label key name) function
      let replaced ← hasItem id key
      register id key validator (.bool true)
      if replaced then
        log .registry .debug ("Replaced validator for type '" ++ (← message key) ++ "'")
      return validator) :=
  rfl

theorem exec_newValidator (name function : Value) (s : Session) :
    (newValidator name function).exec s =
      (.ok (.validator s.nextId name function), { s with nextId := s.nextId + 1 }) :=
  exec_bind_of_ok (exec_fresh s) _

/-- Setting a validator under a hashable key that has a text always succeeds. -/
theorem exec_setValidator {key : Value} (hkey : key.isHashable = true)
    (htext : ∃ text, key.message .unset = .ok text) (function name : Value) (s : Session) :
    ∃ records, (setValidator id key function name).exec s =
      (.ok (.validator s.nextId (label key name) function),
        s.withValidator id key (label key name) function records) := by
  -- The object is made first; whether it replaces another is asked before it is put in.
  set item : Value := .validator s.nextId (label key name) function
  set s₁ : Session := { s with nextId := s.nextId + 1 }
  set r' : Registry :=
    { s.registryAt id with entries := Entries.put key item (s.registryAt id).entries }
  have hregister : (register id key item (.bool true)).exec s₁ =
      (.ok (), s₁.setRegistry id r') := exec_register id hkey (.inl rfl) item
  rw [setValidator_eq, exec_bind_of_ok (exec_newValidator _ _ s),
    exec_bind_of_ok (exec_hasItem id s₁ hkey), exec_bind_of_ok hregister]
  cases Entries.has (s₁.registryAt id).entries key with
  | false =>
    have hsilent : s.withValidator id key (label key name) function [] =
        s₁.setRegistry id r' := by
      rw [Session.withValidator, List.append_nil]
      rfl
    refine ⟨[], ?_⟩
    rw [hsilent]
    rfl
  | true =>
    -- A replacement is recorded with the text of the key.
    obtain ⟨text, htext⟩ : ∃ text, key.message (s₁.setRegistry id r').level = .ok text :=
      (Value.write_sameOutcome .unset _ .message key).exists_ok htext
    refine ⟨[⟨.registry, .debug, "Replaced validator for type '" ++ text ++ "'"⟩], ?_⟩
    simp only [if_true]
    rw [exec_bind_of_ok (exec_message_of_ok htext), exec_bind_of_ok (exec_log _ _ _ _), exec_pure]
    rfl

/-- Setting a validator under a key that cannot be one makes the validator and stops there. -/
theorem exec_setValidator_of_unhashable {key : Value} (hkey : key.isHashable = false)
    (function name : Value) (s : Session) :
    (setValidator id key function name).exec s =
      (.error (.fault .typeMismatch), { s with nextId := s.nextId + 1 }) := by
  have hhas (t : Session) : (hasItem id key).exec t = (.error (.fault .typeMismatch), t) := by
    rw [hasItem, exec_bind_of_ok (exec_registryAt t id), Registry.has, hkey]
    rfl
  rw [setValidator_eq, exec_bind_of_ok (exec_newValidator _ _ s), exec_bind_of_error (hhas _)]

end Act

end Conform
