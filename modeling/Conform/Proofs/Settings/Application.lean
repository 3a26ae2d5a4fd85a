import Conform.Proofs.Registry.History
import Conform.Proofs.Registry.Overwriting
import Conform.Proofs.Settings.Shape

/-!
# Applying loaded settings

What applying settings does that were loaded from a document. Their level is never refused, so it is
set first; then each declared validator is registered, unless its function cannot be loaded, which
ends it all.

* `Act.exec_applySettings`: the level is set, and the declared validators are registered.
* `Act.exec_applyValidator_of_loads` and `Act.exec_applyValidator_of_error`: one declared validator;
  `Act.exec_applyValidator_cases` tells all that can come of it.
* `Act.applyValidators_endsAt`: declared validators in order, up to the first that cannot be loaded.
* `Act.applySettings_registers`: settings whose functions can all be loaded.
* `Act.applySettings_stops`: settings that come to an end at a function that cannot be loaded leave
  what the settings before it lead to; they are not undone.
-/

namespace Conform

open Session (processRegistry)

/-- The registry that settings are applied to: one of validators that is passed, or else the process
registry. -/
inductive IsTarget : Value → Nat → Prop where
  | process : IsTarget .null processRegistry
  | passed (id : Nat) : IsTarget (.registry id .validators) id

/-- What comes of loading the function of a declared validator, in any session. -/
def LoadsTo (modules : Modules) (entry : Value) (answer : Except Failure Value) : Prop :=
  ∃ path, Entries.field? entry.membersOf "function" = some path ∧
    ∀ t, (Act.loadFunction modules path).exec t = (answer, t)

/-- A function is loaded in one way only. -/
theorem LoadsTo.unique {modules : Modules} {entry function function' : Value}
    (h : LoadsTo modules entry (.ok function)) (h' : LoadsTo modules entry (.ok function')) :
    function = function' := by
  obtain ⟨path, hpath, hfunction⟩ := h
  obtain ⟨path', hpath', hfunction'⟩ := h'
  obtain rfl : path = path' := Option.some.inj (hpath.symm.trans hpath')
  exact Except.ok.inj (Prod.mk.inj ((hfunction .initial).symm.trans (hfunction' .initial))).1

/-- How settings that want a level change that of the channel: they leave it if they want none, and
otherwise set the number of the name. -/
def SetsLevel (wanted : Value) (old new : Threshold) : Prop :=
  (wanted = .null ∧ new = old) ∨
    ∃ name number, wanted = .text name ∧ Threshold.number? name = some number ∧
      new = .ofNumber number

/-! ## Levels -/

namespace Settings

/-- The level of settings as a value: the name, or the absent value. -/
def levelValue (settings : Settings) : Value := (settings.logLevel.map .text).getD .null

/-- The level of the channel once settings have been applied. -/
def levelAfter (settings : Settings) (old : Threshold) : Threshold :=
  match settings.logLevel.bind Threshold.number? with
  | some number => .ofNumber number
  | none => old

/-- The level that settings want is the same however often they are applied. -/
theorem levelAfter_levelAfter (settings : Settings) (old : Threshold) :
    settings.levelAfter (settings.levelAfter old) = settings.levelAfter old := by
  unfold levelAfter
  cases settings.logLevel.bind Threshold.number? <;> rfl

/-- The names that settings may use are names of levels, and in upper case. -/
theorem number?_of_mem_levelNames : ∀ name ∈ levelNames,
    Text.upper name = name ∧ (Threshold.number? name).isSome = true := by
  decide

variable {settings : Settings}

/-- Well-shaped settings set the level of the channel as they want it. -/
theorem WellShaped.setsLevel (h : settings.WellShaped) (old : Threshold) :
    SetsLevel settings.levelValue old (settings.levelAfter old) := by
  unfold levelValue levelAfter
  cases hlevel : settings.logLevel with
  | none => exact .inl ⟨rfl, rfl⟩
  | some name =>
    obtain ⟨-, hsome⟩ := number?_of_mem_levelNames name (h.level_named name hlevel)
    obtain ⟨number, hnumber⟩ := Option.isSome_iff_exists.1 hsome
    refine .inr ⟨name, number, rfl, hnumber, ?_⟩
    simp [hnumber]

/-- Setting the level of well-shaped settings is never refused. -/
theorem WellShaped.exec_configure (h : settings.WellShaped) (id : Nat) (validators : Value)
    (s : Session) :
    (Logging.configure .null (.settings id settings.levelValue validators)).exec s =
      (.ok .channel, { s with level := settings.levelAfter s.level }) := by
  unfold levelValue levelAfter
  cases hlevel : settings.logLevel with
  | none => rfl
  | some name =>
    obtain ⟨hupper, hsome⟩ := number?_of_mem_levelNames name (h.level_named name hlevel)
    obtain ⟨number, hnumber⟩ := Option.isSome_iff_exists.1 hsome
    have hlevelOf : Logging.levelOf s.level (.text name) = .ok (.ofNumber number) := by
      rw [Logging.levelOf, hupper, hnumber]
    have hset : (Act.ofExcept (Logging.levelOf s.level (.text name))).exec s =
        (.ok (.ofNumber number), s) := by
      rw [Act.exec_ofExcept, hlevelOf]
    unfold Logging.configure
    simp only [Value.isNull, Logging.levelIn, Option.map_some, Option.getD_some, if_true,
      Bool.not_false, Option.bind_some, hnumber]
    rw [Act.exec_bind_of_ok (Act.exec_get s), Act.exec_bind_of_ok hset]
    rfl

end Settings

namespace Act

variable {modules : Modules} {s : Session}

/-! ## One declared validator -/

/-- A declared function leads to the same answer in every session when it is loaded. -/
theorem exists_loadsTo (modules : Modules) {key entry : Value} (h : Declares key entry) :
    ∃ answer, LoadsTo modules entry answer := by
  obtain ⟨path, hpath⟩ := h.path
  unfold LoadsTo
  simp only [hpath]
  cases hsplit : splitPath? path with
  | none => exact ⟨_, _, rfl, fun t => by simp only [loadFunction, hsplit]; rfl⟩
  | some parts =>
    exact ⟨_, _, rfl, fun t => by simp only [loadFunction, hsplit]; exact exec_ofExcept t _⟩

/-- A declared validator whose function can be loaded is registered. -/
theorem exec_applyValidator_of_loads (id : Nat) {key entry function : Value}
    (hkey : key.isHashable = true) (h : Declares key entry)
    (hload : LoadsTo modules entry (.ok function)) (s : Session) :
    ∃ records, (applyValidator modules (.registry id .validators) key entry).exec s =
      (.ok (), s.withValidator id key (declaredName key entry) function records) := by
  obtain ⟨path, hpath⟩ := h.path
  obtain ⟨_, hpath', hfunction⟩ := hload
  -- The path that was loaded is the text that the entry tells.
  obtain rfl := Option.some.inj (hpath.symm.trans hpath')
  obtain ⟨records, hset⟩ := exec_setValidator id hkey h.key_text function (displayName entry) s
  rw [label_displayName h] at hset
  set s₁ := s.withValidator id key (declaredName key entry) function records
  obtain ⟨text, htext⟩ : ∃ text, key.message s₁.level = .ok text :=
    (Value.write_sameOutcome .unset _ .message key).exists_ok h.key_text
  have hregistry : (ofExcept (validatorRegistry (.registry id .validators))).exec s =
      (.ok id, s) := exec_ofExcept s (.ok _)
  have hpathText : (message (.text path)).exec s₁ = (.ok path, s₁) := exec_message_of_ok rfl
  unfold applyValidator
  rw [functionPath_of_field? hpath, exec_bind_of_ok (exec_ofExcept s (.ok _)),
    exec_bind_of_ok (hfunction s), exec_bind_of_ok hregistry,
    exec_bind_of_ok (exec_discard_of_ok hset),
    exec_bind_of_ok (exec_message_of_ok htext), exec_bind_of_ok hpathText]
  exact ⟨_, Session.exec_log_withValidator s id _ _ _ _ _ _ _⟩

/-- A declared validator whose function cannot be loaded fails as loading does and changes
nothing. -/
theorem exec_applyValidator_of_error (registry : Value) {key entry : Value} {f : Failure}
    (hload : LoadsTo modules entry (.error f)) (s : Session) :
    (applyValidator modules registry key entry).exec s = (.error f, s) := by
  obtain ⟨path, hpath, hfunction⟩ := hload
  unfold applyValidator
  rw [functionPath_of_field? hpath, exec_bind_of_ok (exec_ofExcept s (.ok _)),
    exec_bind_of_error (hfunction s)]

/-- A declared validator under a key that cannot be one is made, if its function can be loaded, and
is not registered. -/
theorem exec_applyValidator_of_unhashable (id : Nat) {key entry function : Value}
    (hkey : key.isHashable = false) (hload : LoadsTo modules entry (.ok function)) (s : Session) :
    (applyValidator modules (.registry id .validators) key entry).exec s =
      (.error (.fault .typeMismatch), { s with nextId := s.nextId + 1 }) := by
  obtain ⟨path, hpath, hfunction⟩ := hload
  have hregistry : (ofExcept (validatorRegistry (.registry id .validators))).exec s =
      (.ok id, s) := exec_ofExcept s (.ok _)
  have hset := exec_setValidator_of_unhashable id hkey function (displayName entry) s
  unfold applyValidator
  rw [functionPath_of_field? hpath, exec_bind_of_ok (exec_ofExcept s (.ok _)),
    exec_bind_of_ok (hfunction s), exec_bind_of_ok hregistry,
    exec_bind_of_error (exec_discard_of_error hset)]

/-- What comes of a declared validator: it is registered, or its function cannot be loaded, or its
key cannot be one. Which of them does not depend on the session. -/
theorem exec_applyValidator_cases (modules : Modules) (id : Nat) {key entry : Value}
    (h : Declares key entry) :
    (∃ function, LoadsTo modules entry (.ok function) ∧ key.isHashable = true ∧ ∀ s, ∃ records,
      (applyValidator modules (.registry id .validators) key entry).exec s =
        (.ok (), s.withValidator id key (declaredName key entry) function records)) ∨
    (∃ f, ∀ s, (applyValidator modules (.registry id .validators) key entry).exec s =
      (.error f, s)) ∨
    ∃ f, ∀ s, (applyValidator modules (.registry id .validators) key entry).exec s =
      (.error f, { s with nextId := s.nextId + 1 }) := by
  obtain ⟨answer, hload⟩ := exists_loadsTo modules h
  cases answer with
  | error f => exact .inr (.inl ⟨f, exec_applyValidator_of_error _ hload⟩)
  | ok function =>
    cases hkey : key.isHashable with
    | true => exact .inl ⟨function, hload, rfl, exec_applyValidator_of_loads id hkey h hload⟩
    | false => exact .inr (.inr ⟨_, exec_applyValidator_of_unhashable id hkey hload⟩)

/-! ## Declared validators in order -/

/-- Loading the functions of declared validators in order comes to an end with a failure: the
validators before that, whose functions are loaded, come second. -/
inductive EndsAt (modules : Modules) : Entries → Entries → Failure → Prop where
  | here {key entry : Value} {f : Failure} (after : Entries)
    (hload : LoadsTo modules entry (.error f)) : EndsAt modules ((key, entry) :: after) [] f
  | later {key entry function : Value} {entries before : Entries} {f : Failure}
    (hload : LoadsTo modules entry (.ok function)) (h : EndsAt modules entries before f) :
    EndsAt modules ((key, entry) :: entries) ((key, entry) :: before) f

namespace EndsAt

variable {entries before : Entries} {f : Failure}

/-- The validators before the end are among all of them. -/
theorem mem (h : EndsAt modules entries before f) : ∀ p ∈ before, p ∈ entries := by
  induction h with
  | here after hload => simp
  | later hload _ ih =>
    intro p hp
    rcases List.mem_cons.1 hp with rfl | hp
    · exact List.mem_cons_self
    · exact List.mem_cons_of_mem _ (ih p hp)

/-- The functions before the end are loaded. -/
theorem loads (h : EndsAt modules entries before f) :
    ∀ p ∈ before, ∃ function, LoadsTo modules p.2 (.ok function) := by
  induction h with
  | here after hload => simp
  | later hload _ ih =>
    intro p hp
    rcases List.mem_cons.1 hp with rfl | hp
    · exact ⟨_, hload⟩
    · exact ih p hp

end EndsAt

/-- Declared validators are all registered, or those before the end are. -/
theorem applyValidators_endsAt (modules : Modules) (id : Nat) {entries : Entries}
    (hentries : ∀ entry ∈ entries, entry.1.isHashable = true ∧ Declares entry.1 entry.2)
    (s : Session) :
    (∃ s', (applyValidators modules (.registry id .validators) entries).exec s = (.ok (), s')) ∨
      ∃ before f s', EndsAt modules entries before f ∧ s'.level = s.level ∧
        (applyValidators modules (.registry id .validators) before).exec s = (.ok (), s') ∧
        (applyValidators modules (.registry id .validators) entries).exec s = (.error f, s') := by
  induction entries generalizing s with
  | nil => exact .inl ⟨s, rfl⟩
  | cons entry rest ih =>
    obtain ⟨key, entry⟩ := entry
    obtain ⟨hkey, hdeclares⟩ := hentries (key, entry) List.mem_cons_self
    obtain ⟨answer, hload⟩ := exists_loadsTo modules hdeclares
    cases answer with
    | error f =>
      -- Nothing comes before the one that ends it.
      refine .inr ⟨[], f, s, .here rest hload, rfl, rfl, ?_⟩
      exact exec_bind_of_error (exec_applyValidator_of_error _ hload s) _
    | ok function =>
      obtain ⟨records, hstep⟩ := exec_applyValidator_of_loads id hkey hdeclares hload s
      simp only [applyValidators]
      rw [exec_bind_of_ok hstep]
      -- The others go on from the session with this one, which has the level that it had.
      rcases ih (fun e he => hentries e (List.mem_cons_of_mem _ he)) _ with
        ⟨s', hall⟩ | ⟨before, f, s', hends, hlevel, hbefore, hall⟩
      · exact .inl ⟨s', hall⟩
      · exact .inr ⟨(key, entry) :: before, f, s', .later hload hends, hlevel,
          (exec_bind_of_ok hstep _).trans hbefore, hall⟩

/-- What is registered for a declared validator: the function that is loaded, by the name that is
declared, or else by the key. -/
def Registers (modules : Modules) (declared : String × Value)
    (registered : String × Registration) : Prop :=
  registered.1 = declared.1 ∧ ∃ function, LoadsTo modules declared.2 (.ok function) ∧
    registered.2 = ⟨function, declaredName (.text declared.1) declared.2⟩

/-- Where all functions can be loaded, there is something to register for each declared
validator. -/
theorem exists_registers {declared : List (String × Value)}
    (hloads : ∀ p ∈ declared, ∃ function, LoadsTo modules p.2 (.ok function)) :
    ∃ registrations, List.Forall₂ (Registers modules) declared registrations := by
  induction declared with
  | nil => exact ⟨[], .nil⟩
  | cons p rest ih =>
    obtain ⟨function, hfunction⟩ := hloads p List.mem_cons_self
    obtain ⟨registrations, h⟩ := ih fun q hq => hloads q (List.mem_cons_of_mem p hq)
    exact ⟨(p.1, ⟨function, declaredName (.text p.1) p.2⟩) :: registrations,
      .cons ⟨rfl, function, hfunction, rfl⟩ h⟩

/-- The keys of what is registered are those of what is declared. -/
theorem keys_of_registers {declared : List (String × Value)}
    {registrations : List (String × Registration)}
    (h : List.Forall₂ (Registers modules) declared registrations) :
    registrations.map Prod.fst = declared.map Prod.fst := by
  induction h with
  | nil => rfl
  | cons hfirst _ ih => rw [List.map_cons, List.map_cons, hfirst.1, ih]

/-- Something is registered for each declared validator. -/
theorem exists_of_registers {declared : List (String × Value)}
    {registrations : List (String × Registration)}
    (h : List.Forall₂ (Registers modules) declared registrations) :
    ∀ p ∈ declared, ∃ q ∈ registrations, Registers modules p q := by
  induction h with
  | nil => simp
  | @cons p q rest registrations hfirst _ ih =>
    intro p' hp'
    rcases List.mem_cons.1 hp' with rfl | hp'
    · exact ⟨q, List.mem_cons_self, hfirst⟩
    · obtain ⟨q', hq', hregisters⟩ := ih p' hp'
      exact ⟨q', List.mem_cons_of_mem q hq', hregisters⟩

/-- A session after registrations in one of its registries. -/
structure Extended (id : Nat) (registrations : List (String × Registration)) (s s' : Session) :
    Prop where
  /-- The registry has been overwritten. -/
  registry : Registry.Overwritten registrations (s.registryAt id) (s'.registryAt id)
  /-- The other registries are as they were. -/
  others : ∀ other, other ≠ id → s'.registryAt other = s.registryAt other
  /-- The level is as it was. -/
  level : s'.level = s.level
  /-- There are as many registries as there were. -/
  places : s'.registries.length = s.registries.length

/-- Declared validators whose functions can all be loaded are registered in order. -/
theorem exec_applyValidators {id : Nat} {declared : List (String × Value)}
    {registrations : List (String × Registration)}
    (h : List.Forall₂ (Registers modules) declared registrations)
    (hdeclares : ∀ p ∈ declared, Declares (.text p.1) p.2)
    (hnodup : (declared.map Prod.fst).Nodup) (hid : id < s.registries.length) :
    ∃ s', (applyValidators modules (.registry id .validators)
        (declared.map fun p => (.text p.1, p.2))).exec s = (.ok (), s') ∧
      Extended id registrations s s' := by
  -- Each registration leaves a session in which the others are made.
  induction h generalizing s with
  | nil => exact ⟨s, rfl, .nil _, fun _ _ => rfl, rfl, rfl⟩
  | @cons p q rest registrations hfirst hrest ih =>
    obtain ⟨key, reg⟩ := q
    obtain ⟨rfl, function, hload, rfl⟩ := hfirst
    obtain ⟨hnew, hnodup⟩ := List.nodup_cons.1 hnodup
    have hkey : (Value.text p.1).isHashable = true := rfl
    obtain ⟨records, hstep⟩ := exec_applyValidator_of_loads id hkey
      (hdeclares p List.mem_cons_self) hload s
    set s₁ := s.withValidator id (.text p.1) (declaredName (.text p.1) p.2) function records
    have hid₁ : id < s₁.registries.length := by
      rw [Session.length_withValidator]
      exact hid
    obtain ⟨s', hall, hextended⟩ :=
      ih (fun q hq => hdeclares q (List.mem_cons_of_mem p hq)) hnodup hid₁
    -- No later registration is under the key of the first, so that one stays.
    have hother : ∀ q ∈ registrations, p.1 ≠ q.1 := by
      rintro q hq heq
      rw [← keys_of_registers hrest, heq] at hnew
      exact hnew (List.mem_map_of_mem hq)
    refine ⟨s', (exec_bind_of_ok hstep _).trans hall, ?_, ?_, hextended.level, ?_⟩
    · have hregistry := hextended.registry
      rw [Session.registryAt_withValidator_self hid] at hregistry
      exact .cons ⟨_, rfl⟩ hother hregistry
    · intro other hne
      rw [hextended.others other hne, Session.registryAt_withValidator_of_ne s hne]
    · rw [hextended.places, Session.length_withValidator]

/-! ## Settings -/

variable {settings : Settings} {registry : Value} {id : Nat}

/-- Applying well-shaped settings sets the level first, and then registers validators. -/
theorem exec_applySettings (modules : Modules) (hshape : settings.WellShaped)
    (htarget : IsTarget registry id) (objectId : Nat) (entries : Entries) (s : Session) :
    (applySettings modules (.settings objectId settings.levelValue (.mapping none entries))
        registry).exec s =
      (do
        applyValidators modules (.registry id .validators) entries
        return .registry id .validators : Act Value).exec
          { s with level := settings.levelAfter s.level } := by
  have hregistry : (if registry.isNull then .registry processRegistry .validators else registry) =
      .registry id .validators := by
    cases htarget <;> rfl
  have hconfigure := exec_discard_of_ok
    (hshape.exec_configure objectId (.mapping none entries) s)
  unfold applySettings
  dsimp only
  rw [hregistry, exec_bind_of_ok hconfigure, exec_bind_of_ok (exec_get _)]
  exact exec_bind_of_ok (exec_ofExcept _ (.ok entries)) _

/-- Settings that want the level of well-shaped ones, and whose functions can all be loaded,
register their validators. -/
theorem exec_applySettings_of_loads (hshape : settings.WellShaped) (htarget : IsTarget registry id)
    {declared : List (String × Value)} (hdeclares : ∀ p ∈ declared, Declares (.text p.1) p.2)
    (hnodup : (declared.map Prod.fst).Nodup) {registrations : List (String × Registration)}
    (hregisters : List.Forall₂ (Registers modules) declared registrations) (objectId : Nat)
    (hid : id < s.registries.length) :
    ∃ s', (applySettings modules (.settings objectId settings.levelValue
          (.mapping none (declared.map fun p => (.text p.1, p.2)))) registry).exec s =
        (.ok (.registry id .validators), s') ∧
      Extended id registrations { s with level := settings.levelAfter s.level } s' := by
  obtain ⟨s', hall, hextended⟩ := exec_applyValidators
    (s := { s with level := settings.levelAfter s.level }) hregisters hdeclares hnodup hid
  refine ⟨s', ?_, hextended⟩
  rw [exec_applySettings modules hshape htarget, exec_bind_of_ok hall, exec_pure]

/-- What applying settings makes of a session: the settings want a level of the channel and declare
validators, and they are applied to the registry at a place. -/
structure Applied (modules : Modules) (wanted : Value) (declared : List (String × Value))
    (id : Nat) (s s' : Session) : Prop where
  /-- Under each declared key is a validator of the function that is loaded, by the name that is
  declared, or else by the key. -/
  registered : ∀ p ∈ declared, ∃ function object, LoadsTo modules p.2 (.ok function) ∧
    (getItem id (.text p.1)).exec s' =
      (.ok (.validator object (declaredName (.text p.1) p.2) function), s')
  /-- Under every other key is what was there before. -/
  kept : ∀ key, (∀ p ∈ declared, key ≠ .text p.1) →
    (s'.registryAt id).get key = (s.registryAt id).get key
  /-- The keys that were there keep their places, and the new ones follow as they are declared. -/
  keys : (s'.registryAt id).keys = (s.registryAt id).keys ++
    (declared.map fun p => .text p.1).filter fun key => !Entries.has (s.registryAt id).entries key
  /-- The level is the one that the settings want. -/
  level : SetsLevel wanted s.level s'.level
  /-- The other registries are as they were. -/
  others : ∀ other, other ≠ id → s'.registryAt other = s.registryAt other

/-- What registrations make of a session, in terms of what is declared. -/
theorem Extended.applied {declared : List (String × Value)}
    {registrations : List (String × Registration)} {level : Threshold} {wanted : Value}
    {s' : Session} (hregisters : List.Forall₂ (Registers modules) declared registrations)
    (h : Extended id registrations { s with level := level } s')
    (hlevel : SetsLevel wanted s.level level) : Applied modules wanted declared id s s' where
  registered := by
    intro p hp
    obtain ⟨⟨key, reg⟩, hq, rfl, function, hfunction, rfl⟩ := exists_of_registers hregisters p hp
    obtain ⟨item, hitem, object, rfl⟩ := h.registry.held _ hq
    refine ⟨function, object, hfunction, ?_⟩
    rw [getItem, exec_bind_of_ok (exec_registryAt s' id), Registry.get, hitem]
    rfl
  kept := by
    intro key hkey
    have hkeys : ∀ q ∈ registrations, key ≠ .text q.1 := by
      intro q hq
      have hmem : q.1 ∈ declared.map Prod.fst := by
        rw [← keys_of_registers hregisters]
        exact List.mem_map_of_mem hq
      obtain ⟨p, hp, heq⟩ := List.mem_map.1 hmem
      rw [← heq]
      exact hkey p hp
    have hfind := h.registry.kept key hkeys
    unfold Registry.get
    rw [hfind]
    rfl
  keys := by
    have hmap : (registrations.map fun q => Value.text q.1) =
        declared.map fun p => Value.text p.1 := by
      have hkeys := congrArg (List.map Value.text) (keys_of_registers hregisters)
      rw [List.map_map, List.map_map] at hkeys
      exact hkeys
    have hkeys := h.registry.keys
    rw [hmap] at hkeys
    exact hkeys
  level := by
    rw [h.level]
    exact hlevel
  others := h.others

/-- Applying settings that were loaded, with text keys and functions that can all be loaded: the
answer is the registry, the session becomes what the settings say, and applying them again leaves
the registry with the same contents in the same order, the level and the other registries. -/
theorem applySettings_registers {data value : Value} {s₀ s₁ : Session}
    {declared : List (String × Value)} (hload : (Settings.load data).exec s₀ = (.ok value, s₁))
    (hdeclared : declaredEntries s value = .ok (declared.map fun p => (.text p.1, p.2)))
    (hnodup : (declared.map Prod.fst).Nodup)
    (hfunctions : ∀ p ∈ declared, ∃ function, LoadsTo modules p.2 (.ok function))
    (htarget : IsTarget registry id) (hid : id < s.registries.length) :
    ∃ s', (applySettings modules value registry).exec s = (.ok (.registry id .validators), s') ∧
      Applied modules (Logging.levelIn value) declared id s s' ∧
      ∃ s'', (applySettings modules value registry).exec s' =
          (.ok (.registry id .validators), s'') ∧
        (s'.registryAt id).SameContents (s''.registryAt id) ∧ s''.level = s'.level ∧
        ∀ other, other ≠ id → s''.registryAt other = s'.registryAt other := by
  obtain ⟨objectId, settings, hshape, rfl⟩ := Settings.exists_of_load hload
  have hentries : settings.entries = declared.map fun p => (.text p.1, p.2) :=
    Except.ok.inj hdeclared
  have hdeclares : ∀ p ∈ declared, Declares (.text p.1) p.2 := by
    intro p hp
    refine hshape.declares (.text p.1, p.2) ?_
    rw [hentries]
    exact List.mem_map_of_mem hp
  obtain ⟨registrations, hregisters⟩ := exists_registers hfunctions
  rw [hentries]
  obtain ⟨s', hrun, hextended⟩ := exec_applySettings_of_loads hshape htarget hdeclares hnodup
    hregisters objectId hid
  have hid' : id < s'.registries.length := by
    rw [hextended.places]
    exact hid
  -- The second time is like the first, from the session that the first time leaves.
  obtain ⟨s'', hrun', hextended'⟩ := exec_applySettings_of_loads hshape htarget hdeclares hnodup
    hregisters objectId hid'
  refine ⟨s', hrun, hextended.applied hregisters (hshape.setsLevel s.level), s'', hrun',
    hextended.registry.again hextended'.registry, ?_, hextended'.others⟩
  rw [hextended'.level, hextended.level]
  exact settings.levelAfter_levelAfter s.level

/-- A function of the host. -/
def isEven : Value :=
  .foreign 0
    { cls := Class.function, text := .ok "is_even", inner := .ok "is_even", truth := true,
      callable := true }
    (some (.text "is_even"))

/-- Modules of which one has that function and nothing else. -/
def fixtures : Modules := [("fixtures", .loads false [("is_even", isEven)])]

/-- The entry of a validator whose function has the given path. -/
def naming (path : String) : Value := .mapping none [(.text "function", .text path)]

/-- The entry of a validator that gives a name. -/
def named : Value :=
  .mapping none [(.text "function", .text "fixtures.is_even"), (.text "name", .text "even number")]

/-- Entries under keys that are texts. -/
def entriesOf (declared : List (String × Value)) : Entries := declared.map fun p => (.text p.1, p.2)

/-- A document with a level and the given validators. -/
def document (declared : List (String × Value)) : Value :=
  .mapping none [(.text "log_level", .text "error"),
    (.text "validators", .mapping none (entriesOf declared))]

/-- The settings that are loaded from such a document at first. -/
def loaded (declared : List (String × Value)) : Value :=
  .settings 7 (.text "ERROR") (.mapping none (entriesOf declared))

/-- A function that can be loaded, declared for a new key, and with a name for a built-in one. -/
def loadable : List (String × Value) :=
  [("even", naming "fixtures.is_even"), ("number", named)]

/-- Settings for a new key and a built-in one are applied to the process registry. The new validator
goes by its key, and the other by the name that is declared. -/
theorem applySettings_registers_loadable :
    ∃ s', (applySettings fixtures (loaded loadable) .null).exec .initial =
        (.ok (.registry processRegistry .validators), s') ∧
      Applied fixtures (.text "ERROR") loadable processRegistry .initial s' ∧
      (∃ object, (getItem processRegistry (.text "even")).exec s' =
        (.ok (.validator object (.text "even") isEven), s')) ∧
      ∃ object, (getItem processRegistry (.text "number")).exec s' =
        (.ok (.validator object (.text "even number") isEven), s') := by
  have hload : (Settings.load (document loadable)).exec .initial =
      (.ok (loaded loadable), { Session.initial with nextId := 8 }) := rfl
  have hloads : ∀ p ∈ loadable, LoadsTo fixtures p.2 (.ok isEven) := by
    simpa [loadable] using
      (⟨⟨_, rfl, fun _ => rfl⟩, ⟨_, rfl, fun _ => rfl⟩⟩ :
        LoadsTo fixtures (naming "fixtures.is_even") (.ok isEven) ∧
          LoadsTo fixtures named (.ok isEven))
  have hdeclared : declaredEntries .initial (loaded loadable) =
      .ok (loadable.map fun p => (.text p.1, p.2)) := rfl
  obtain ⟨s', hrun, happlied, -⟩ := applySettings_registers hload hdeclared (by decide)
    (fun p hp => ⟨isEven, hloads p hp⟩) .process (by decide)
  -- The function that is registered is the one that is loaded.
  have hitem : ∀ p ∈ loadable, ∃ object, (getItem processRegistry (.text p.1)).exec s' =
      (.ok (.validator object (declaredName (.text p.1) p.2) isEven), s') := by
    intro p hp
    obtain ⟨function, object, hfunction, hget⟩ := happlied.registered p hp
    obtain rfl := hfunction.unique (hloads p hp)
    exact ⟨object, hget⟩
  exact ⟨s', hrun, happlied, hitem ("even", naming "fixtures.is_even") (by simp [loadable]),
    hitem ("number", named) (by simp [loadable])⟩

/-- Settings that were loaded fail only where they come to an end at a declared validator whose
function cannot be loaded, with the failure of that. What they leave is what settings leave that
want the same level and declare the validators before the end only; it is not undone. If the keys of
those are distinct texts, it is what the validators and the level make of the session. -/
theorem applySettings_stops {data value : Value} {s₀ s₁ s' : Session} {f : Failure}
    (hload : (Settings.load data).exec s₀ = (.ok value, s₁))
    (hkeys : ∀ entries, declaredEntries s value = .ok entries →
      ∀ entry ∈ entries, entry.1.isHashable = true)
    (htarget : IsTarget registry id)
    (hfails : (applySettings modules value registry).exec s = (.error f, s')) :
    ∃ objectId wanted entries before,
      value = .settings objectId wanted (.mapping none entries) ∧
      EndsAt modules entries before f ∧
      SetsLevel wanted s.level s'.level ∧
      (applySettings modules (.settings objectId wanted (.mapping none before)) registry).exec s =
        (.ok (.registry id .validators), s') ∧
      ∀ declared : List (String × Value), before = declared.map (fun p => (.text p.1, p.2)) →
        (declared.map Prod.fst).Nodup → id < s.registries.length →
        Applied modules wanted declared id s s' := by
  obtain ⟨objectId, settings, hshape, rfl⟩ := Settings.exists_of_load hload
  have hentries : ∀ entry ∈ settings.entries,
      entry.1.isHashable = true ∧ Declares entry.1 entry.2 :=
    fun entry hentry => ⟨hkeys _ rfl entry hentry, hshape.declares entry hentry⟩
  have hrun := exec_applySettings modules hshape htarget objectId settings.entries s
  rcases applyValidators_endsAt modules id hentries { s with level := settings.levelAfter s.level }
    with ⟨t, hall⟩ | ⟨before, f', t, hends, hlevel, hbefore, hall⟩
  · -- Where all are registered, nothing fails.
    rw [exec_bind_of_ok hall] at hrun
    cases hfails.symm.trans hrun
  · rw [exec_bind_of_error hall] at hrun
    obtain ⟨hf, rfl⟩ := Prod.mk.inj (hfails.symm.trans hrun)
    obtain rfl := Except.error.inj hf
    have hsets := hshape.setsLevel s.level
    have hcut : (applySettings modules (.settings objectId settings.levelValue
        (.mapping none before)) registry).exec s = (.ok (.registry id .validators), s') := by
      rw [exec_applySettings modules hshape htarget, exec_bind_of_ok hbefore, exec_pure]
    refine ⟨objectId, settings.levelValue, settings.entries, before, rfl, hends, ?_, hcut, ?_⟩
    · rw [hlevel]
      exact hsets
    · rintro declared rfl hnodup hid
      have hmem : ∀ p ∈ declared, (Value.text p.1, p.2) ∈ declared.map fun p =>
          (Value.text p.1, p.2) := fun p hp => List.mem_map_of_mem hp
      have hdeclares : ∀ p ∈ declared, Declares (.text p.1) p.2 :=
        fun p hp => hshape.declares _ (hends.mem _ (hmem p hp))
      obtain ⟨registrations, hregisters⟩ := exists_registers fun p hp => hends.loads _ (hmem p hp)
      -- The settings that are cut succeed, so they end in the same session.
      obtain ⟨t, hcut', hextended⟩ := exec_applySettings_of_loads hshape htarget hdeclares hnodup
        hregisters objectId hid
      obtain ⟨-, rfl⟩ := Prod.mk.inj (hcut.symm.trans hcut')
      exact hextended.applied hregisters hsets

/-- Declared validators of which the second has a path that leads nowhere. -/
def halfLoadable : List (String × Value) :=
  [("even", naming "fixtures.is_even"), ("bad", naming "fixtures.nope")]

theorem load_halfLoadable :
    (Settings.load (document halfLoadable)).exec .initial =
      (.ok (loaded halfLoadable), { Session.initial with nextId := 8 }) := rfl

/-- Settings that come to an end at their second validator leave what the first leads to. -/
theorem applySettings_stops_halfLoadable :
    ∃ f s', (applySettings fixtures (loaded halfLoadable) .null).exec .initial = (.error f, s') ∧
      ∃ objectId wanted entries before,
        loaded halfLoadable = .settings objectId wanted (.mapping none entries) ∧
        EndsAt fixtures entries before f ∧
        SetsLevel wanted .unset s'.level ∧
        (applySettings fixtures (.settings objectId wanted (.mapping none before)) .null).exec
          .initial = (.ok (.registry processRegistry .validators), s') := by
  have hkeys : ∀ entries, declaredEntries .initial (loaded halfLoadable) = .ok entries →
      ∀ entry ∈ entries, entry.1.isHashable = true := by
    intro entries hentries
    obtain rfl := Except.ok.inj hentries
    simp [halfLoadable, entriesOf, Value.isHashable]
  obtain ⟨f, s', hfails⟩ : ∃ f s', (applySettings fixtures (loaded halfLoadable) .null).exec
      .initial = (.error f, s') := ⟨_, _, rfl⟩
  obtain ⟨objectId, wanted, entries, before, hvalue, hends, hlevel, hcut, -⟩ :=
    applySettings_stops load_halfLoadable hkeys .process hfails
  exact ⟨f, s', hfails, objectId, wanted, entries, before, hvalue, hends, hlevel, hcut⟩

/-- Settings that come to an end at a function that cannot be loaded are not undone: the level that
they want stays set, and the validator that they declare before stays registered. -/
theorem applySettings_not_undone :
    (Settings.load (document halfLoadable)).exec .initial =
        (.ok (loaded halfLoadable), { Session.initial with nextId := 8 }) ∧
      ∃ f s', (applySettings fixtures (loaded halfLoadable) .null).exec
          { Session.initial with nextId := 8 } = (.error f, s') ∧
        s'.level ≠ Session.initial.level ∧
        (Session.initial.registryAt processRegistry).contains (.text "even") = false ∧
        (s'.registryAt processRegistry).contains (.text "even") = true :=
  ⟨load_halfLoadable, _, _, rfl, by decide, rfl, rfl⟩

end Act

end Conform
