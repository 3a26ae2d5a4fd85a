import Conform.Proofs.Settings.Application
import Conform.Settings.Environment

/-!
# Settings merged with the environment

The level that an environment asks for wins over the one that loaded settings hold, and the
validators stay. An environment that asks for what is no level is refused.

* `Settings.exec_ofEnvironment`: what is read from an environment.
* `Settings.WellShaped.exec_mergeEnvironment`: merging well-shaped settings.
* `Act.applyValidators_congr`: declared validators do the same to sessions with the same registries,
  whatever the levels of their channels.
* `Settings.mergeEnvironment_overrides`: merging settings that were loaded, and applying what comes
  of it.
-/

namespace Conform

/-- The level that an environment asks for: the value of the variable, which counts as not set where
it is empty. -/
def Environment.level? (environment : Environment) (start : String) : Option String :=
  (environment.lookup (start ++ "LOG_LEVEL")).filter fun level => !level.isEmpty

/-- An environment asks for what is no level. -/
def Environment.AsksUnknown (environment : Environment) (start : String) : Prop :=
  ∃ level, environment.level? start = some level ∧ Text.upper level ∉ Settings.levelNames

namespace Settings

/-! ## Reading the environment -/

/-- The report that a text is no level. -/
def unknownLevel (level : String) : Rejection where
  value := .text level
  expected := .text "log level name"
  name := .text "log_level"
  message := Message.sentence "log_level: " "log level name" level

/-- An environment that asks for nothing is read as settings without a level. -/
theorem ofDocument_of_unset {environment : Environment} {start : String}
    (h : environment.level? start = none) (current : Threshold) :
    ofDocument current (environmentDocument environment (start ++ "LOG_LEVEL")) =
      .ok { logLevel := none, validators := [] } := by
  have hdocument : environmentDocument environment (start ++ "LOG_LEVEL") = .mapping none [] := by
    unfold Environment.level? at h
    unfold environmentDocument
    cases hlookup : environment.lookup (start ++ "LOG_LEVEL") with
    | none => rfl
    | some level =>
      rw [hlookup] at h
      have hempty : level.isEmpty = true := by simpa [Option.filter] using h
      simp [hempty]
  rw [hdocument]
  rfl

/-- The level that an environment asks for is the only member of its document. -/
theorem environmentDocument_of_set {environment : Environment} {start level : String}
    (h : environment.level? start = some level) :
    environmentDocument environment (start ++ "LOG_LEVEL") =
      .mapping none [(.text "log_level", .text level)] := by
  obtain ⟨hlookup, hsome⟩ := Option.filter_eq_some_iff.1 h
  have hempty : level.isEmpty = false := by simpa using hsome
  simp [environmentDocument, hlookup, hempty]

/-- A document with nothing but a level is read as settings with this level, if it is one. -/
theorem ofDocument_level (current : Threshold) (wanted : Value) :
    ofDocument current (.mapping none [(.text "log_level", wanted)]) = (do
      unless isLevel wanted do offence current wanted "log level name" "log_level"
      return { logLevel := levelName? wanted, validators := [] }) :=
  rfl

/-- An environment that asks for a level is read as settings with this level. -/
theorem ofDocument_of_known {environment : Environment} {start level : String}
    (h : environment.level? start = some level) (hknown : Text.upper level ∈ levelNames)
    (current : Threshold) :
    ofDocument current (environmentDocument environment (start ++ "LOG_LEVEL")) =
      .ok { logLevel := some (Text.upper level), validators := [] } := by
  have hlevel : isLevel (.text level) = true := List.contains_iff_mem.2 hknown
  rw [environmentDocument_of_set h, ofDocument_level, hlevel]
  rfl

/-- An environment that asks for what is no level is reported. -/
theorem ofDocument_of_unknown {environment : Environment} {start level : String}
    (h : environment.level? start = some level) (hunknown : Text.upper level ∉ levelNames)
    (current : Threshold) :
    ofDocument current (environmentDocument environment (start ++ "LOG_LEVEL")) =
      .error (.configuration (.invalid (unknownLevel level))) := by
  have hlevel : isLevel (.text level) = false := by
    rw [isLevel, ← Bool.not_eq_true, List.contains_iff_mem]
    exact hunknown
  rw [environmentDocument_of_set h, ofDocument_level, hlevel]
  rfl

/-- What is read from an environment does not change the session. -/
theorem exec_ofEnvironment (environment : Environment) (start : String) (s : Session) :
    (ofEnvironment environment (.text start)).exec s =
      (ofDocument s.level (environmentDocument environment (start ++ "LOG_LEVEL")), s) := by
  have hstart : (Act.message (.text start)).exec s = (.ok start, s) := Act.exec_message_of_ok rfl
  rw [ofEnvironment, Act.exec_bind_of_ok hstart, Act.exec_bind_of_ok (Act.exec_get s),
    Act.exec_ofExcept]

/-! ## Merging -/

/-- Settings with the level that is asked for, or else with their own. -/
def withLevel (settings : Settings) (asked : Option String) : Settings :=
  { settings with logLevel := (asked.map Text.upper).or settings.logLevel }

/-- The level as a value once a level is asked for: that one in upper case, or else the own one. -/
def levelOver (asked : Option String) (own : Value) : Value :=
  match asked with
  | some level => .text (Text.upper level)
  | none => own

/-- The level that is asked for is the same however often it is asked for. -/
theorem levelOver_levelOver (asked : Option String) (own : Value) :
    levelOver asked (levelOver asked own) = levelOver asked own := by
  cases asked <;> rfl

variable {settings : Settings} {environment : Environment} {start : String}

theorem levelValue_withLevel (settings : Settings) (asked : Option String) :
    (settings.withLevel asked).levelValue = levelOver asked settings.levelValue := by
  cases asked <;> rfl

/-- A level that is asked for and is one leaves settings well shaped. -/
theorem WellShaped.withLevel (h : settings.WellShaped) (hknown : ¬ environment.AsksUnknown start) :
    (settings.withLevel (environment.level? start)).WellShaped where
  level_named := by
    intro name hname
    unfold Settings.withLevel at hname
    cases hasked : environment.level? start with
    | none =>
      rw [hasked] at hname
      exact h.level_named name hname
    | some level =>
      rw [hasked] at hname
      obtain rfl := Option.some.inj hname
      by_contra hunknown
      exact hknown ⟨level, hasked, hunknown⟩
  declares := h.declares

/-- Merging any settings with declared validators: an environment that asks for what is no level is
refused, and any other gives a copy with the level that it asks for. -/
theorem exec_mergeEnvironment (environment : Environment) (start : String) (objectId : Nat)
    (own : Value) (entries : Entries) (s : Session) :
    (∀ level, environment.level? start = some level → Text.upper level ∉ levelNames →
      (mergeEnvironment environment (.text start)
          (.settings objectId own (.mapping none entries))).exec s =
        (.error (.configuration (.invalid (unknownLevel level))), s)) ∧
    (¬ environment.AsksUnknown start →
      (mergeEnvironment environment (.text start)
          (.settings objectId own (.mapping none entries))).exec s =
        (.ok (.settings s.nextId (levelOver (environment.level? start) own)
          (.mapping none entries)), { s with nextId := s.nextId + 1 })) := by
  have hread := exec_ofEnvironment environment start s
  refine ⟨fun level hasked hunknown => ?_, fun hknown => ?_⟩
  · rw [ofDocument_of_unknown hasked hunknown] at hread
    rw [mergeEnvironment, Act.exec_bind_of_error hread]
  · cases hasked : environment.level? start with
    | none =>
      rw [ofDocument_of_unset hasked] at hread
      rw [mergeEnvironment, Act.exec_bind_of_ok hread]
      rfl
    | some level =>
      have hlevel : Text.upper level ∈ levelNames := by
        by_contra hunknown
        exact hknown ⟨level, hasked, hunknown⟩
      rw [ofDocument_of_known hasked hlevel] at hread
      rw [mergeEnvironment, Act.exec_bind_of_ok hread]
      rfl

end Settings

namespace Act

variable {modules : Modules} {s t : Session}

/-! ## Applying -/

/-- Two sessions hold the same registries and give new objects the same identities. -/
structure SameRegistries (s t : Session) : Prop where
  registries : s.registries = t.registries
  nextId : s.nextId = t.nextId

theorem SameRegistries.withValidator (h : SameRegistries s t) (id : Nat)
    (key name function : Value) (records records' : List Record) :
    SameRegistries (s.withValidator id key name function records)
      (t.withValidator id key name function records') where
  registries := by
    simp only [Session.withValidator, Session.setRegistry, Session.registryAt, h.registries,
      h.nextId]
  nextId := congrArg (· + 1) h.nextId

/-- Declared validators do the same to sessions with the same registries, and leave the level. -/
theorem applyValidators_congr (modules : Modules) (id : Nat) {entries : Entries}
    (hentries : ∀ entry ∈ entries, Declares entry.1 entry.2) (h : SameRegistries s t) :
    let run := (applyValidators modules (.registry id .validators) entries).exec s
    let run' := (applyValidators modules (.registry id .validators) entries).exec t
    run.1 = run'.1 ∧ SameRegistries run.2 run'.2 ∧ run.2.level = s.level := by
  intro run run'
  induction entries generalizing s t with
  | nil => exact ⟨rfl, h, rfl⟩
  | cons entry rest ih =>
    obtain ⟨key, entry⟩ := entry
    have hrest : ∀ e ∈ rest, Declares e.1 e.2 := fun e he => hentries e (List.mem_cons_of_mem _ he)
    -- The first one comes out alike in both sessions.
    rcases exec_applyValidator_cases modules id (hentries (key, entry) List.mem_cons_self) with
      ⟨function, -, -, hstep⟩ | ⟨f, hstep⟩ | ⟨f, hstep⟩
    · obtain ⟨records, hs⟩ := hstep s
      obtain ⟨records', ht⟩ := hstep t
      have hboth := ih hrest (h.withValidator id key (declaredName key entry) function
        records records')
      have hrun : run = _ := exec_bind_of_ok hs _
      have hrun' : run' = _ := exec_bind_of_ok ht _
      rw [hrun, hrun']
      exact hboth
    · have hrun : run = (.error f, s) := exec_bind_of_error (hstep s) _
      have hrun' : run' = (.error f, t) := exec_bind_of_error (hstep t) _
      rw [hrun, hrun']
      exact ⟨rfl, h, rfl⟩
    · have hrun : run = (.error f, { s with nextId := s.nextId + 1 }) :=
        exec_bind_of_error (hstep s) _
      have hrun' : run' = (.error f, { t with nextId := t.nextId + 1 }) :=
        exec_bind_of_error (hstep t) _
      rw [hrun, hrun']
      exact ⟨rfl, ⟨h.registries, congrArg (· + 1) h.nextId⟩, rfl⟩

end Act

namespace Settings

variable {data value : Value} {s₀ s₁ : Session}

/-- Merged settings are applied like those that they are made of, to every registry in every
session: what comes of it and what the registries hold is the same. The level becomes the one that
is wanted, whether or not the functions can be loaded. -/
def AppliesLike (value merged wanted : Value) : Prop :=
  ∀ (modules : Modules) (registry : Value) (id : Nat) (s : Session), IsTarget registry id →
    let run := (Act.applySettings modules merged registry).exec s
    let own := (Act.applySettings modules value registry).exec s
    run.1 = own.1 ∧ run.2.registries = own.2.registries ∧ SetsLevel wanted s.level run.2.level

/-- Settings with another level are applied like the ones with the own level. -/
theorem WellShaped.appliesLike {settings merged : Settings} (h : settings.WellShaped)
    (h' : merged.WellShaped) (objectId mergedId : Nat) :
    AppliesLike (.settings objectId settings.levelValue (.mapping none settings.entries))
      (.settings mergedId merged.levelValue (.mapping none settings.entries))
      merged.levelValue := by
  intro modules registry id s htarget run own
  -- Both set their level and go on with the same validators.
  have hown : own = _ := Act.exec_applySettings modules h htarget objectId settings.entries s
  have hrun : run = _ := Act.exec_applySettings modules h' htarget mergedId settings.entries s
  have hsame : Act.SameRegistries { s with level := merged.levelAfter s.level }
      { s with level := settings.levelAfter s.level } := ⟨rfl, rfl⟩
  obtain ⟨hanswer, hregistries, hlevel⟩ :=
    Act.applyValidators_congr modules id h.declares hsame
  have hsets := h'.setsLevel s.level
  rw [hrun, hown, Act.exec_bind, Act.exec_bind]
  generalize (Act.applyValidators modules (.registry id .validators) settings.entries).exec
    { s with level := merged.levelAfter s.level } = first at hanswer hregistries hlevel ⊢
  generalize (Act.applyValidators modules (.registry id .validators) settings.entries).exec
    { s with level := settings.levelAfter s.level } = second at hanswer hregistries ⊢
  obtain ⟨answer, s'⟩ := first
  obtain ⟨_, t'⟩ := second
  obtain rfl := hanswer
  cases answer <;> exact ⟨rfl, hregistries.registries, hlevel ▸ hsets⟩

/-- Merging settings that were loaded with an environment. It fails exactly if the environment asks
for what is no level; that is a problem with settings and changes nothing. Otherwise the result has
the same validators, and the level that is asked for in upper case, or else the own one. Merging
that again changes nothing more, and it is applied like the settings that it is made of, but for
the level. -/
theorem mergeEnvironment_overrides (hload : (load data).exec s₀ = (.ok value, s₁))
    (environment : Environment) (start : String) (s : Session) :
    ((∃ f s', (mergeEnvironment environment (.text start) value).exec s = (.error f, s')) ↔
      environment.AsksUnknown start) ∧
    (∀ f s', (mergeEnvironment environment (.text start) value).exec s = (.error f, s') →
      s' = s ∧ ∃ level, environment.level? start = some level ∧
        f = .configuration (.invalid (unknownLevel level))) ∧
    ∀ merged s', (mergeEnvironment environment (.text start) value).exec s = (.ok merged, s') →
      s' = { s with nextId := s.nextId + 1 } ∧
      ∃ objectId own entries, value = .settings objectId own (.mapping none entries) ∧
        merged = .settings s.nextId (levelOver (environment.level? start) own)
          (.mapping none entries) ∧
        (∀ t, (mergeEnvironment environment (.text start) merged).exec t =
          (.ok (.settings t.nextId (levelOver (environment.level? start) own)
            (.mapping none entries)), { t with nextId := t.nextId + 1 })) ∧
        AppliesLike value merged (levelOver (environment.level? start) own) := by
  obtain ⟨objectId, settings, hshape, hvalue⟩ := exists_of_load hload
  set own := settings.levelValue
  obtain ⟨hrefused, hmerged⟩ :=
    exec_mergeEnvironment environment start objectId own settings.entries s
  have hvalue' : value = .settings objectId own (.mapping none settings.entries) := hvalue
  rw [hvalue']
  by_cases hunknown : environment.AsksUnknown start
  · obtain ⟨level, hasked, hlevel⟩ := hunknown
    have hfails := hrefused level hasked hlevel
    rw [hfails]
    refine ⟨⟨fun _ => ⟨level, hasked, hlevel⟩, fun _ => ⟨_, _, rfl⟩⟩, ?_, ?_⟩
    · rintro f s' ⟨⟩
      exact ⟨rfl, level, hasked, rfl⟩
    · rintro merged s' ⟨⟩
  · have hmerges := hmerged hunknown
    rw [hmerges]
    refine ⟨⟨?_, fun h => absurd h hunknown⟩, ?_, ?_⟩
    · rintro ⟨f, s', ⟨⟩⟩
    · rintro f s' ⟨⟩
    · rintro merged s' ⟨⟩
      refine ⟨rfl, objectId, own, settings.entries, rfl, rfl, fun t => ?_, ?_⟩
      · -- The level is there already, and is put there once more.
        have hagain := (exec_mergeEnvironment environment start s.nextId
          (levelOver (environment.level? start) own) settings.entries t).2 hunknown
        rw [levelOver_levelOver] at hagain
        exact hagain
      · have hlike := hshape.appliesLike (hshape.withLevel hunknown) objectId s.nextId
        rw [levelValue_withLevel] at hlike
        exact hlike

/-- An environment that asks for a level in lower case. -/
def debugging : Environment := [("TYPES_LOG_LEVEL", "debug")]

/-- Settings that want one level are merged with an environment that asks for another, which is the
one that is set when they are applied. -/
theorem mergeEnvironment_overrides_debugging :
    ∃ merged s', (mergeEnvironment debugging (.text "TYPES_") (Act.loaded Act.loadable)).exec
        .initial = (.ok merged, s') ∧
      Logging.levelIn (Act.loaded Act.loadable) = .text "ERROR" ∧
      Logging.levelIn merged = .text "DEBUG" ∧
      AppliesLike (Act.loaded Act.loadable) merged (.text "DEBUG") := by
  have hload : (load (Act.document Act.loadable)).exec .initial =
      (.ok (Act.loaded Act.loadable), { Session.initial with nextId := 8 }) := rfl
  have hknown : ¬ debugging.AsksUnknown "TYPES_" := by
    rintro ⟨level, hasked, hunknown⟩
    obtain rfl : "debug" = level := Option.some.inj hasked
    exact hunknown (by decide)
  obtain ⟨hfails, -, hmerges⟩ := mergeEnvironment_overrides hload debugging "TYPES_" .initial
  rcases hrun : (mergeEnvironment debugging (.text "TYPES_") (Act.loaded Act.loadable)).exec
    .initial with ⟨f | merged, s'⟩
  · exact absurd (hfails.1 ⟨f, s', hrun⟩) hknown
  · obtain ⟨-, objectId, own, entries, -, rfl, -, hlike⟩ := hmerges merged s' hrun
    exact ⟨_, s', rfl, rfl, rfl, hlike⟩

end Settings

end Conform
