import Conform.Proofs.Registry.Access
import Conform.Proofs.Registry.Contents
import Conform.Proofs.Registry.Sparing
import Conform.Proofs.Settings.Shape
import Mathlib.Tactic.Set

/-!
# The history of the process registry

What stands in the process registry after changes is the last registration of each key since the
last reset, and what is built in where there is none (`Write.standing`). A session holds what stands
if its process registry does (`Session.Holds`).

* `Act.holds_setValidator` and `Act.holds_seedRegistry`: a registration and a reset.
* `Act.holds_applySettings`: settings, which may come to an end at a function that cannot be loaded.
-/

namespace Conform

/-! ## Changes -/

/-- The registration of a function under a key, with the key for a name where none is given. -/
def Registration.of (key : String) (function name : Value) : Registration where
  function := function
  name := if name.isNull then .text key else name

/-- A change of what stands in the process registry. -/
inductive Write where
  | reset
  | set (key : String) (r : Registration)

namespace Write

/-- The registrations since the last reset, in order. -/
def sinceReset (ws : List Write) : List (String × Registration) :=
  ws.foldl (fun earlier w =>
    match w with
    | .reset => []
    | .set key r => earlier ++ [(key, r)]) []

/-- What stands under a key after changes: the last registration of the key since the last reset,
or what is built in. -/
def standing (ws : List Write) (key : String) : Option Registration :=
  ((sinceReset ws).reverse.lookup key).or (Registration.builtin? key)

theorem standing_reset (ws : List Write) : standing (ws ++ [.reset]) = Registration.builtin? := by
  funext key
  simp [standing, sinceReset]

theorem standing_set_self (ws : List Write) (key : String) (r : Registration) :
    standing (ws ++ [.set key r]) key = some r := by
  simp [standing, sinceReset]

theorem standing_set_of_ne (ws : List Write) {key key' : String} (hne : key ≠ key')
    (r : Registration) : standing (ws ++ [.set key r]) key' = standing ws key' := by
  simp [standing, sinceReset, List.lookup_cons, beq_false_of_ne hne.symm]

end Write

open Write

namespace Session

/-- The process registry of a session holds what stands after changes. -/
def Holds (s : Session) (ws : List Write) : Prop :=
  ∃ r, s.HasProcess r ∧ Reflects r.entries (standing ws)

/-- An operation that spares the process registry leaves what stands in it. -/
theorem Holds.of_spares {α : Type} {s : Session} {ws : List Write} {act : Act α} (h : s.Holds ws)
    (hact : act.Spares s) : (act.exec s).2.Holds ws := by
  obtain ⟨r, hr, hreflects⟩ := h
  exact ⟨r, hact r hr, hreflects⟩

end Session

namespace Act

variable {s : Session} {ws : List Write}

/-! ## Registrations and resets -/

/-- Setting a validator in the process registry succeeds and registers its function. -/
theorem holds_setValidator (h : s.Holds ws) (key : String) (function name : Value) :
    ∃ item s', (setValidator Session.processRegistry (.text key) function name).exec s =
        (.ok item, s') ∧ s'.Holds (ws ++ [.set key (.of key function name)]) := by
  obtain ⟨r, hr, hreflects⟩ := h
  have hkey : (Value.text key).isHashable = true := rfl
  obtain ⟨records, hset⟩ :=
    exec_setValidator Session.processRegistry hkey ⟨key, rfl⟩ function name s
  obtain rfl := hr.registryAt_eq
  -- The registry holds the new validator, and nothing else of what stands has changed.
  refine ⟨_, _, hset, _, hr.setRegistry _, ?_⟩
  exact hreflects.put ⟨s.nextId, rfl⟩ (standing_set_self ws key _)
    fun key' hne => standing_set_of_ne ws hne _

/-- Filling the process registry resets it. -/
theorem holds_seedRegistry (h : s.Holds ws) :
    ((seedRegistry Session.processRegistry).exec s).2.Holds (ws ++ [.reset]) := by
  obtain ⟨r, hr, -⟩ := h
  refine ⟨_, hr.setRegistry _, ?_⟩
  rw [standing_reset]
  exact reflects_builtinEntries s.nextId

end Act

/-! ## Settings -/

/-- The function that a path names, if it can be loaded. -/
def Modules.load? (modules : Modules) : Value → Option Value
  | .text path =>
    match splitPath? path with
    | some (module, member) => (Act.loadMember modules path module member).toOption
    | none => none
  | _ => none

namespace Write

/-- The function of a declared validator, if it can be loaded. -/
def declaredFunction? (modules : Modules) (entry : Value) : Option Value :=
  (Entries.field? entry.membersOf "function").bind modules.load?

/-- The registrations that declared validators lead to, up to the first whose function cannot be
loaded. -/
def ofDeclared (modules : Modules) : Entries → List Write
  | (.text key, entry) :: rest =>
    match declaredFunction? modules entry with
    | some function =>
      .set key (.of key function ((Entries.field? entry.membersOf "name").getD .null)) ::
        ofDeclared modules rest
    | none => []
  | _ => []

/-- The registrations that settings lead to when they are applied in a session: none if their level
is refused or if they declare no validators. -/
def ofSettings (modules : Modules) (s : Session) (settings : Value) : List Write :=
  match ((Logging.configure .null settings).exec s).1, Act.declaredEntries s settings with
  | .ok _, .ok entries => ofDeclared modules entries
  | _, _ => []

end Write

namespace Act

variable {s : Session} {ws : List Write} {modules : Modules}

/-- Loading a function does not change the session, and succeeds where the path names one. -/
theorem exec_loadFunction (modules : Modules) (path : Value) (s : Session) :
    ∃ answer, (loadFunction modules path).exec s = (answer, s) ∧
      answer.toOption = modules.load? path := by
  -- Whatever is no text fails in one of three ways, none of which changes the session.
  have hother (h : modules.load? path = none) :
      ∃ answer, (do
        if ← ofExcept (holdsDot (← get) path) then fault .noAttribute
        else fail (.configuration (.malformedPath path (← message path))) : Act Value).exec s =
          (answer, s) ∧ answer.toOption = modules.load? path := by
    rw [exec_bind_of_ok (exec_get s), h]
    cases hdot : holdsDot s path with
    | error f => exact ⟨.error f, exec_bind_of_error (by rw [exec_ofExcept]) _, rfl⟩
    | ok dotted =>
      rw [exec_bind_of_ok (exec_ofExcept s (.ok dotted))]
      cases dotted with
      | true => exact ⟨_, rfl, rfl⟩
      | false =>
        cases htext : path.message s.level with
        | ok text => exact ⟨_, exec_bind_of_ok (exec_message_of_ok htext) _, rfl⟩
        | error e =>
          refine ⟨.error (.ofText e), exec_bind_of_error ?_ _, rfl⟩
          rw [exec_message, htext]
          rfl
  unfold loadFunction
  cases path with
  | text path =>
    simp only [Modules.load?]
    cases splitPath? path with
    | none => exact ⟨_, rfl, rfl⟩
    | some parts => exact ⟨_, exec_ofExcept s _, rfl⟩
  | _ => exact hother rfl

/-- Applying a declared validator to the process registry registers its function, if that can be
loaded, and fails otherwise. -/
theorem holds_applyValidator (h : s.Holds ws) (modules : Modules) (key : String) (entry : Value) :
    match declaredFunction? modules entry with
    | some function =>
      ∃ s', (applyValidator modules (.registry Session.processRegistry .validators) (.text key)
          entry).exec s = (.ok (), s') ∧
        s'.Holds (ws ++
          [.set key (.of key function ((Entries.field? entry.membersOf "name").getD .null))])
    | none =>
      ∃ f, (applyValidator modules (.registry Session.processRegistry .validators) (.text key)
        entry).exec s = (.error f, s) := by
  unfold applyValidator declaredFunction?
  rw [← toOption_functionPath, ← displayName_eq]
  cases hpath : functionPath entry with
  | error f => exact ⟨f, exec_bind_of_error (exec_ofExcept s _) _⟩
  | ok path =>
    obtain ⟨answer, hload, hanswer⟩ := exec_loadFunction modules path s
    simp only [Except.toOption, Option.bind_some, ← hanswer]
    rw [exec_bind_of_ok (exec_ofExcept s (.ok path))]
    cases answer with
    | error f => exact ⟨f, exec_bind_of_error hload _⟩
    | ok function =>
      obtain ⟨item, s', hset, hheld⟩ := holds_setValidator h key function (displayName entry)
      -- Only a text names a function, so the record about it can be written.
      obtain ⟨pathText, rfl⟩ : ∃ pathText, path = .text pathText := by
        cases path with
        | text pathText => exact ⟨pathText, rfl⟩
        | _ => simp [Modules.load?, Except.toOption] at hanswer
      have hregistry :
          (ofExcept (validatorRegistry (.registry Session.processRegistry .validators))).exec s =
            (.ok Session.processRegistry, s) := exec_ofExcept s (.ok _)
      rw [exec_bind_of_ok hload, exec_bind_of_ok hregistry,
        exec_bind_of_ok (exec_discard_of_ok hset), exec_bind_of_ok (exec_message_of_ok rfl),
        exec_bind_of_ok (exec_message_of_ok rfl)]
      exact ⟨_, exec_log s' _ _ _, hheld.of_spares (spares_log s' _ _ _)⟩

/-- Applying declared validators to the process registry registers their functions, up to the first
that cannot be loaded. -/
theorem holds_applyValidators (h : s.Holds ws) (modules : Modules) {entries : Entries}
    (htexts : ∀ entry ∈ entries, ∃ key, entry.1 = .text key) :
    ((applyValidators modules (.registry Session.processRegistry .validators) entries).exec
      s).2.Holds (ws ++ ofDeclared modules entries) := by
  -- Each entry leaves a session that holds one more change, so both are generalized.
  induction entries generalizing s ws with
  | nil =>
    rw [show ofDeclared modules [] = [] from rfl, List.append_nil]
    exact h.of_spares (spares_pure s ())
  | cons entry rest ih =>
    obtain ⟨key, hkey⟩ := htexts entry (by simp)
    obtain ⟨_, entry⟩ := entry
    obtain rfl := hkey
    have hrest : ∀ entry ∈ rest, ∃ key, entry.1 = .text key :=
      fun entry hentry => htexts entry (by simp [hentry])
    have hstep := holds_applyValidator h modules key entry
    rw [applyValidators, ofDeclared]
    cases hfunction : declaredFunction? modules entry with
    | none =>
      rw [hfunction] at hstep
      obtain ⟨f, hf⟩ := hstep
      -- The first function that cannot be loaded ends it all; the session stays as it was.
      rw [exec_bind_of_error hf]
      simpa using h
    | some function =>
      rw [hfunction] at hstep
      obtain ⟨s', hs', hheld⟩ := hstep
      rw [exec_bind_of_ok hs']
      simpa using ih hheld hrest

/-- What settings declare depends on the registries of the session only. -/
theorem declaredEntries_of_registries {t : Session} (h : t.registries = s.registries)
    (settings : Value) : declaredEntries t settings = declaredEntries s settings := by
  unfold declaredEntries Session.registryAt
  rw [h]

/-- Whether a value names the process registry where settings are applied: the registry itself, or
nothing. -/
def namesProcess : Value → Bool
  | .null => true
  | .registry id .validators => id == Session.processRegistry
  | _ => false

/-- Applying settings to the process registry makes the registrations that the settings lead to. -/
theorem holds_applySettings (h : s.Holds ws) (modules : Modules) {settings registry : Value}
    (hregistry : namesProcess registry = true)
    (htexts : ∀ entries, declaredEntries s settings = .ok entries →
      ∀ entry ∈ entries, ∃ key, entry.1 = .text key) :
    ((applySettings modules settings registry).exec s).2.Holds
      (ws ++ ofSettings modules s settings) := by
  have hprocess : (if registry.isNull then .registry Session.processRegistry .validators
      else registry) = .registry Session.processRegistry .validators := by
    unfold namesProcess at hregistry
    split at hregistry
    · rfl
    · rw [beq_iff_eq] at hregistry
      rw [hregistry]
      rfl
    · cases hregistry
  -- The level is set before anything else, and stays set where the rest fails.
  obtain ⟨answer, s', hconfigure, hregistries⟩ : ∃ answer s',
      (Logging.configure .null settings).exec s = (answer, s') ∧
        s'.registries = s.registries := by
    obtain ⟨answer, level, hconfigure⟩ := exec_configure .null settings s
    exact ⟨answer, _, hconfigure, rfl⟩
  have hheld : s'.Holds ws := by
    simpa [hconfigure] using h.of_spares (spares_configure .null settings s)
  unfold applySettings ofSettings
  dsimp only
  rw [hprocess, hconfigure]
  cases answer with
  | error f =>
    rw [exec_bind_of_error (exec_discard_of_error hconfigure)]
    simpa using hheld
  | ok answer =>
    rw [exec_bind_of_ok (exec_discard_of_ok hconfigure), exec_bind_of_ok (exec_get s'),
      declaredEntries_of_registries hregistries]
    cases hentries : declaredEntries s settings with
    | error f =>
      rw [exec_bind_of_error (exec_ofExcept s' (.error f))]
      simpa using hheld
    | ok entries =>
      have hall := holds_applyValidators hheld modules (htexts entries hentries)
      rw [exec_bind_of_ok (exec_ofExcept s' (.ok entries)), snd_exec_bind_pure]
      exact hall

end Act

end Conform
