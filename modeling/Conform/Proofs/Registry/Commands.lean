import Conform.Proofs.Registry.History

/-!
# Calls that touch registries

Sequences of calls that change the process registry, checks, and calls on other registries.

* `Command`: the calls, with what keeps them from disturbing the process registry
  (`Command.Admissible`) and the changes that they make to it (`Command.writes`).
* `Command.holds_run`: one call changes what stands in the process registry as its changes say.
* `Reached.holds`: so do the calls of a sequence.
* `Session.Holds.exists_resolves`: as a type argument, a key resolves to the validator that stands
  under it.
* `lastRegistration_wins`: type checks and the operations that look keys up agree with what stands.
-/

namespace Conform

open Session (processRegistry)

/-- A call that touches the process registry, a check, or a call on a registry at a place. -/
inductive Command where
  | setValidator (key : String) (function name : Value)
  | reset
  | applySettings (settings registry : Value)
  | check (value validator expected name default warnIf : Value)
  | checkType (value type name : Value) (default : Option Value) (warnIf : Value)
  | newRegistry (name : Value)
  | newValidatorRegistry (name filled : Value)
  | getItem (id : Nat) (key : Value)
  | getOptionalItem (id : Nat) (key : Value)
  | hasItem (id : Nat) (key : Value)
  | register (id : Nat) (key item overwrite : Value)
  | setValidatorAt (id : Nat) (key function name : Value)
  | clear (id : Nat)
  | seed (id : Nat)

namespace Command

/-- The operation that a call carries out. -/
def act (host : Host) (modules : Modules) : Command → Act Unit
  | .setValidator key function name =>
    discard (Act.setValidator processRegistry (.text key) function name)
  | .reset => Act.seedRegistry processRegistry
  | .applySettings settings registry => discard (Act.applySettings modules settings registry)
  | .check value validator expected name default warnIf =>
    discard (Act.check host value validator expected name default warnIf)
  | .checkType value type name default warnIf =>
    discard (Act.checkType host value type name default warnIf)
  | .newRegistry name => discard (Act.newRegistry name)
  | .newValidatorRegistry name filled => discard (Act.newValidatorRegistry name filled)
  | .getItem id key => discard (Act.getItem id key)
  | .getOptionalItem id key => discard (Act.getOptionalItem id key)
  | .hasItem id key => discard (Act.hasItem id key)
  | .register id key item overwrite => Act.register id key item overwrite
  | .setValidatorAt id key function name => discard (Act.setValidator id key function name)
  | .clear id => Act.clearRegistry id
  | .seed id => Act.seedRegistry id

/-- The session after a call, whether it succeeds or not. -/
def run (host : Host) (modules : Modules) (s : Session) (c : Command) : Session :=
  ((c.act host modules).exec s).2

/-- What is asked of a call in a session: the callables that a check calls spare the process
registry, settings that are applied to it have texts for keys, and other changes are made to other
registries. -/
def Admissible (host : Host) (s : Session) : Command → Prop
  | .check value validator _ _ default warnIf =>
    Act.Quiet host validator [value] ∧ Act.Quiet host default [value] ∧
      Act.Quiet host warnIf [value]
  | .checkType value type _ default warnIf =>
    Act.QuietType host s type [value] ∧ (∀ d, default = some d → Act.Quiet host d [value]) ∧
      Act.Quiet host warnIf [value]
  | .applySettings settings registry =>
    Act.namesProcess registry = true → ∀ entries, Act.declaredEntries s settings = .ok entries →
      ∀ entry ∈ entries, ∃ key, entry.1 = .text key
  | .register id .. | .setValidatorAt id .. | .clear id | .seed id => id ≠ processRegistry
  | _ => True

/-- Whether a call is one on the process registry that can change it. -/
def isOnProcess : Command → Bool
  | .setValidator .. | .reset => true
  | .applySettings _ registry => Act.namesProcess registry
  | _ => false

/-- The changes that a call makes to the process registry, in order. -/
def writes (modules : Modules) (s : Session) (c : Command) : List Write :=
  match c with
  | .setValidator key function name => [.set key (.of key function name)]
  | .reset => [.reset]
  | .applySettings settings registry =>
    if Act.namesProcess registry then Write.ofSettings modules s settings else []
  | _ => []

variable {host : Host} {modules : Modules} {s : Session} {ws : List Write} {c : Command}

/-- Checks and calls on other registries spare the process registry. -/
theorem spares_act (modules : Modules) (hc : c.Admissible host s) (hother : c.isOnProcess = false) :
    (c.act host modules).Spares s := by
  cases c with
  | setValidator key function name => cases hother
  | reset => cases hother
  | applySettings settings registry =>
    have hnames : Act.namesProcess registry = false := hother
    have hgiven : registry.isNull = false := by
      cases registry <;> first | rfl | cases hnames
    refine (Act.spares_applySettings hgiven ?_ modules settings s).discard
    intro id hid
    unfold Act.validatorRegistry at hid
    split at hid
    · obtain rfl := Except.ok.inj hid
      simpa [Act.namesProcess] using hnames
    · cases hid
  | check value validator expected name default warnIf =>
    obtain ⟨hvalidator, hdefault, hwarnIf⟩ := hc
    exact (Act.spares_check hvalidator hdefault hwarnIf s).discard
  | checkType value type name default warnIf =>
    obtain ⟨htype, hdefault, hwarnIf⟩ := hc
    exact (Act.spares_checkType htype hdefault hwarnIf).discard
  | newRegistry name => exact (Act.spares_newRegistry name s).discard
  | newValidatorRegistry name filled =>
    exact (Act.spares_newValidatorRegistry name filled s).discard
  | getItem id key => exact (Act.spares_getItem id key s).discard
  | getOptionalItem id key => exact (Act.spares_getOptionalItem id key s).discard
  | hasItem id key => exact (Act.spares_hasItem id key s).discard
  | register id key item overwrite => exact Act.spares_register hc s key item overwrite
  | setValidatorAt id key function name =>
    exact (Act.spares_setValidator hc s key function name).discard
  | clear id => exact Act.spares_clearRegistry hc s
  | seed id => exact Act.spares_seedRegistry hc s

/-- A call that cannot change the process registry makes no changes to it. -/
theorem writes_of_not_isOnProcess (modules : Modules) (s : Session)
    (hother : c.isOnProcess = false) : c.writes modules s = [] := by
  cases c with
  | setValidator key function name => cases hother
  | reset => cases hother
  | applySettings settings registry =>
    have hnames : Act.namesProcess registry = false := hother
    simp [writes, hnames]
  | _ => rfl

/-- A call changes what stands in the process registry as its changes say. -/
theorem holds_run (h : s.Holds ws) (modules : Modules) (hc : c.Admissible host s) :
    (c.run host modules s).Holds (ws ++ c.writes modules s) := by
  cases hprocess : c.isOnProcess with
  | false =>
    rw [writes_of_not_isOnProcess modules s hprocess, List.append_nil]
    exact h.of_spares (spares_act modules hc hprocess)
  | true =>
    cases c with
    | setValidator key function name =>
      obtain ⟨item, s', hset, hheld⟩ := Act.holds_setValidator h key function name
      rw [run, act, Act.exec_discard_of_ok hset]
      exact hheld
    | reset => exact Act.holds_seedRegistry h
    | applySettings settings registry =>
      have hnames : Act.namesProcess registry = true := hprocess
      have hall := Act.holds_applySettings h modules hnames (hc hnames)
      have hwrites : writes modules s (.applySettings settings registry) =
          Write.ofSettings modules s settings := if_pos hnames
      rw [hwrites, run, act, Act.snd_exec_discard]
      exact hall
    | _ => cases hprocess

end Command

/-- The sessions that calls lead to from one whose process registry holds the built-in kinds, with
the changes that the calls made to it. -/
inductive Reached (host : Host) (modules : Modules) : Session → List Write → Prop where
  | start {s : Session} (name : Value) (firstId : Nat)
    (h : s.HasProcess { name, entries := Registry.builtinEntries firstId }) :
    Reached host modules s []
  | step {s : Session} {ws : List Write} {c : Command} (h : Reached host modules s ws)
    (hc : c.Admissible host s) :
    Reached host modules (c.run host modules s) (ws ++ c.writes modules s)

/-- The session in which nothing has happened is where calls start. -/
theorem Reached.initial (host : Host) (modules : Modules) : Reached host modules .initial [] :=
  .start (.text "validators") 0 rfl

/-- Calls lead to sessions whose process registry holds what stands after their changes. -/
theorem Reached.holds {host : Host} {modules : Modules} {s : Session} {ws : List Write}
    (h : Reached host modules s ws) : s.Holds ws := by
  -- The invariant holds where the registry is filled, and each call keeps it by `holds_run`.
  induction h with
  | start name firstId h => exact ⟨_, h, reflects_builtinEntries firstId⟩
  | step h hc ih => exact Command.holds_run ih modules hc

/-! ## Looking up -/

/-- A key under which a validator is found stands for that validator. -/
theorem resolves_of_find? {s : Session} {key : String} {id : Nat} {label function : Value}
    (h : Entries.find? (s.registryAt processRegistry).entries (.text key) =
      some (.validator id label function)) :
    Resolves s (.text key) (.validator id label function) label := by
  refine .key rfl ?_
  simp [Registry.getOptional, Value.isHashable, h]

namespace Act

variable {host : Host} {s : Session}

/-- A validator calls its function and gives the answer as a truth value. -/
theorem exec_call_validator (host : Host) (id : Nat) (name function value : Value) (s : Session)
    {β : Type} (next : Bool → Act β) :
    (do
      let answer ← call host (.validator id name function) [value]
      next (← truth answer) : Act β).exec s =
      (do
        let answer ← call host function [value]
        next (← truth answer) : Act β).exec s := by
  have hcall : call host (.validator id name function) [value] =
      (do return .bool (← truth (← call host function [value])) : Act Value) := by
    rw [call]
  rw [hcall, bind_assoc]
  -- The answer of the validator is a truth value already, so asking for its truth changes nothing.
  refine exec_bind_congr rfl fun answer s' _ => ?_
  rfl

/-- A type check by a key calls the function that is registered there, and tells the name of the
registration where the value is rejected. -/
theorem exec_checkType_of_found {key : String} {id : Nat} {label function : Value}
    (h : Entries.find? (s.registryAt processRegistry).entries (.text key) =
      some (.validator id label function)) (host : Host) (value name warnIf : Value) :
    (checkType host value (.text key) name none warnIf).exec s =
      (do
        warn deprecationNote
        if ← truth (← call host function [value]) then return value
        reject value label name : Act Value).exec s := by
  rw [exec_checkType host value name none warnIf (resolves_of_find? h) ⟨key, rfl⟩]
  refine exec_bind_congr rfl fun _ s' _ => ?_
  exact exec_call_validator host id label function value s' _

/-- A type check by a key that is not registered answers false. -/
theorem exec_checkType_of_absent {key : String}
    (h : Entries.find? (s.registryAt processRegistry).entries (.text key) = none) (host : Host)
    (value name : Value) (default : Option Value) (warnIf : Value) :
    (checkType host value (.text key) name default warnIf).exec s =
      (do warn deprecationNote; return .bool false : Act Value).exec s := by
  -- Stated for any session with these registries, since the note comes before the look-up.
  have hdecide (t : Session) (ht : t.registries = s.registries) :
      (decideType host (TypeSpec.ofValue (.text key)) value).exec t = (.ok none, t) := by
    have hlookup : (getOptionalItem processRegistry (.text key)).exec t = (.ok .null, t) := by
      have hsame : t.registryAt processRegistry = s.registryAt processRegistry := by
        rw [Session.registryAt, ht]
        rfl
      rw [exec_getOptionalItem_text, hsame, h]
      rfl
    unfold decideType
    rw [exec_bind_of_ok (exec_message_of_ok rfl)]
    exact exec_bind_of_ok hlookup _
  unfold checkType
  rw [exec_bind_of_ok (exec_warn s _), exec_bind_of_ok (exec_warn s _)]
  exact exec_bind_of_ok (hdecide { s with warnings := s.warnings ++ [deprecationNote] } rfl) _

end Act

namespace Session.Holds

variable {s : Session} {ws : List Write}

/-- What stands under a key is what is found in the process registry. -/
theorem find?_eq (h : s.Holds ws) (key : String) :
    match Write.standing ws key with
    | some r => ∃ id, Entries.find? (s.registryAt processRegistry).entries (.text key) =
        some (.validator id r.name r.function)
    | none => Entries.find? (s.registryAt processRegistry).entries (.text key) = none := by
  obtain ⟨r, hr, hreflects⟩ := h
  rw [hr.registryAt_eq]
  cases hstanding : Write.standing ws key with
  | none => exact hreflects.absent key hstanding
  | some registration =>
    obtain ⟨item, hfind, id, rfl⟩ := hreflects.found key registration hstanding
    exact ⟨id, hfind⟩

/-- Every key under which something stands resolves to the validator that is registered there. -/
theorem exists_resolves (h : s.Holds ws) {key : String} {r : Registration}
    (hr : Write.standing ws key = some r) :
    ∃ id, Resolves s (.text key) (.validator id r.name r.function) r.name := by
  have hfound := h.find?_eq key
  rw [hr] at hfound
  obtain ⟨id, hid⟩ := hfound
  exact ⟨id, resolves_of_find? hid⟩

/-- Something is found under a key exactly where something stands. -/
theorem has_eq (h : s.Holds ws) (key : String) :
    Entries.has (s.registryAt processRegistry).entries (.text key) =
      (Write.standing ws key).isSome := by
  obtain ⟨r, hr, hreflects⟩ := h
  rw [hr.registryAt_eq, Entries.has_text, hreflects.isSome_find?]

/-- The keys of the process registry are those under which something stands, each once. -/
theorem mem_keys_iff (h : s.Holds ws) :
    (s.registryAt processRegistry).keys.Nodup ∧
      ∀ v, v ∈ (s.registryAt processRegistry).keys ↔
        ∃ key, v = .text key ∧ (Write.standing ws key).isSome = true := by
  obtain ⟨r, hr, hreflects⟩ := h
  rw [hr.registryAt_eq]
  refine ⟨hreflects.nodup, fun v => ⟨fun hv => ?_, ?_⟩⟩
  · obtain ⟨key, rfl⟩ := hreflects.text_of_mem v hv
    refine ⟨key, rfl, ?_⟩
    rw [← hreflects.isSome_find?]
    exact (Entries.mem_keys_text r.entries key).1 hv
  · rintro ⟨key, rfl, hkey⟩
    rw [← hreflects.isSome_find?] at hkey
    exact (Entries.mem_keys_text r.entries key).2 hkey

/-- A type check by a key calls the function that stands under it and tells its name, and answers
false where nothing stands. -/
theorem checkType_eq (h : s.Holds ws) (host : Host) (key : String) (value name warnIf : Value) :
    (Act.checkType host value (.text key) name none warnIf).exec s =
      match Write.standing ws key with
      | some r => (do
          Act.warn Act.deprecationNote
          if ← Act.truth (← Act.call host r.function [value]) then return value
          Act.reject value r.name name : Act Value).exec s
      | none => (do Act.warn Act.deprecationNote; return .bool false : Act Value).exec s := by
  have hfound := h.find?_eq key
  cases hstanding : Write.standing ws key with
  | some r =>
    rw [hstanding] at hfound
    obtain ⟨id, hid⟩ := hfound
    exact Act.exec_checkType_of_found hid host value name warnIf
  | none =>
    rw [hstanding] at hfound
    exact Act.exec_checkType_of_absent hfound host value name none warnIf

/-- Both look-ups by a key give the validator that stands under it; where nothing stands, one fails
and the other gives the absent value. -/
theorem lookUp_eq (h : s.Holds ws) (key : String) :
    match Write.standing ws key with
    | some r => ∃ id,
      (Act.getItem processRegistry (.text key)).exec s =
        (.ok (.validator id r.name r.function), s) ∧
      (Act.getOptionalItem processRegistry (.text key)).exec s =
        (.ok (.validator id r.name r.function), s)
    | none =>
      (Act.getItem processRegistry (.text key)).exec s =
        (.error (.absent (.text key) (s.registryAt processRegistry).name key
          (s.registryAt processRegistry).keys), s) ∧
      (Act.getOptionalItem processRegistry (.text key)).exec s = (.ok .null, s) := by
  have hfound := h.find?_eq key
  cases hstanding : Write.standing ws key with
  | some r =>
    rw [hstanding] at hfound
    obtain ⟨id, hid⟩ := hfound
    refine ⟨id, ?_, ?_⟩
    · rw [Act.exec_getItem_text, hid]
    · rw [Act.exec_getOptionalItem_text, hid]
      rfl
  | none =>
    rw [hstanding] at hfound
    refine ⟨?_, ?_⟩
    · rw [Act.exec_getItem_text, hfound]
    · rw [Act.exec_getOptionalItem_text, hfound]
      rfl

end Session.Holds

/-- After calls, type checks and look-ups by a key agree with what stands under the key: the last
registration since the last reset, or what is built in. A type check calls the function of the
registration and tells its name where it rejects the value, and answers false where nothing stands.
Checks and calls on other registries do not change the process registry. -/
theorem lastRegistration_wins {host : Host} {modules : Modules} {s : Session} {ws : List Write}
    (h : Reached host modules s ws) (key : String) :
    (∀ value name warnIf,
      (Act.checkType host value (.text key) name none warnIf).exec s =
        match Write.standing ws key with
        | some r => (do
            Act.warn Act.deprecationNote
            if ← Act.truth (← Act.call host r.function [value]) then return value
            Act.reject value r.name name : Act Value).exec s
        | none => (do Act.warn Act.deprecationNote; return .bool false : Act Value).exec s) ∧
    (Act.hasItem processRegistry (.text key)).exec s =
      (.ok (Write.standing ws key).isSome, s) ∧
    (match Write.standing ws key with
      | some r => ∃ id,
        (Act.getItem processRegistry (.text key)).exec s =
          (.ok (.validator id r.name r.function), s) ∧
        (Act.getOptionalItem processRegistry (.text key)).exec s =
          (.ok (.validator id r.name r.function), s)
      | none =>
        (Act.getItem processRegistry (.text key)).exec s =
          (.error (.absent (.text key) (s.registryAt processRegistry).name key
            (s.registryAt processRegistry).keys), s) ∧
        (Act.getOptionalItem processRegistry (.text key)).exec s = (.ok .null, s)) ∧
    (s.registryAt processRegistry).contains (.text key) = (Write.standing ws key).isSome ∧
    ((s.registryAt processRegistry).keys.Nodup ∧
      ∀ v, v ∈ (s.registryAt processRegistry).keys ↔
        ∃ key', v = .text key' ∧ (Write.standing ws key').isSome = true) ∧
    ∀ c : Command, c.Admissible host s → c.isOnProcess = false →
      (c.run host modules s).registryAt processRegistry = s.registryAt processRegistry := by
  have hheld := h.holds
  refine ⟨hheld.checkType_eq host key, ?_, hheld.lookUp_eq key, hheld.has_eq key,
    hheld.mem_keys_iff, ?_⟩
  · rw [Act.exec_hasItem processRegistry s rfl, hheld.has_eq key]
  -- The last part does not need what stands: the whole registry is spared.
  · intro c hc hother
    obtain ⟨r, hr, -⟩ := hheld
    have hafter : (c.run host modules s).HasProcess r := Command.spares_act modules hc hother r hr
    rw [hafter.registryAt_eq, hr.registryAt_eq]

/-- A key is registered, all is reset, and a built-in key is registered anew: the first key is gone
and the second has its new function and name. -/
theorem lastRegistration_wins_after_reset :
    let s := [Command.setValidator "email" (.routine .isString) .null, .reset,
      .setValidator "number" (.routine .isString) (.text "digits")].foldl
        (Command.run .bare []) .initial
    (Act.hasItem processRegistry (.text "email")).exec s = (.ok false, s) ∧
      ∃ id, (Act.getOptionalItem processRegistry (.text "number")).exec s =
        (.ok (.validator id (.text "digits") (.routine .isString)), s) := by
  intro s
  have hreached : Reached .bare [] s
      [.set "email" (.of "email" (.routine .isString) .null), .reset,
        .set "number" (.of "number" (.routine .isString) (.text "digits"))] :=
    .step (c := .setValidator "number" (.routine .isString) (.text "digits"))
      (.step (c := .reset)
        (.step (c := .setValidator "email" (.routine .isString) .null)
          (.initial .bare []) trivial) trivial) trivial
  obtain ⟨-, hemail, -⟩ := lastRegistration_wins hreached "email"
  obtain ⟨-, -, ⟨id, -, hnumber⟩, -⟩ := lastRegistration_wins hreached "number"
  exact ⟨hemail, id, hnumber⟩

end Conform
