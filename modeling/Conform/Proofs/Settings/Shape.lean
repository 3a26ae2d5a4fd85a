import Conform.Proofs.Registry.Access
import Conform.Proofs.Settings.Loading
import Conform.Proofs.Value.Tellable
import Conform.Settings.Application

/-!
# The shape of loaded settings

What is known of settings that were read from a document: their level, if there is one, is one of
the named levels, and each entry names a function by a text (`Settings.WellShaped`).

* `Declares`: what an entry declares, by its members.
* `Settings.exists_of_readValidator`: what is known of one declared validator that was read.
* `Settings.reads_of_ofDocument`: what was read of a document.
* `Settings.wellShaped_of_ofDocument`: settings that were read have this shape.
* `Settings.exists_ofDocument_of_load`: a value that was loaded stands for settings that were read.
-/

namespace Conform

/-! ## Declared validators -/

/-- An entry that declares a validator: its key has a text, its function is named by one, and so is
the validator, if a name is given. -/
structure Declares (key entry : Value) : Prop where
  /-- The key can be told in messages. -/
  key_text : ∃ text, key.message .unset = .ok text
  /-- The function is named by a text. -/
  path : ∃ path, Entries.field? entry.membersOf "function" = some (.text path)
  /-- A name that is given is a text. -/
  name_text : ∀ name, Entries.field? entry.membersOf "name" = some name → ∃ text, name = .text text

/-- The name by which messages tell of a declared validator: the one that the entry gives, or else
the key. -/
def declaredName (key entry : Value) : Value := (Entries.field? entry.membersOf "name").getD key

namespace Act

/-- The path of the function is what the entry holds under that member. -/
theorem toOption_functionPath (entry : Value) :
    (functionPath entry).toOption = Entries.field? entry.membersOf "function" := by
  cases entry with
  | mapping mark members =>
    rw [functionPath, Value.membersOf_mapping]
    cases Entries.field? members "function" <;> rfl
  | _ => rfl

theorem functionPath_of_field? {entry path : Value}
    (h : Entries.field? entry.membersOf "function" = some path) :
    functionPath entry = .ok path := by
  rw [← toOption_functionPath] at h
  cases hpath : functionPath entry with
  | error f =>
    rw [hpath] at h
    cases h
  | ok path' =>
    rw [hpath] at h
    exact congrArg _ (Option.some.inj h)

/-- The name for messages is what the entry holds under that member, if anything. -/
theorem displayName_eq (entry : Value) :
    displayName entry = (Entries.field? entry.membersOf "name").getD .null := by
  cases entry <;> rfl

/-- A validator is registered by the name that is declared, or else by the key. -/
theorem label_displayName {key entry : Value} (h : Declares key entry) :
    label key (displayName entry) = declaredName key entry := by
  rw [label, displayName_eq, declaredName]
  cases hname : Entries.field? entry.membersOf "name" with
  | none => rfl
  | some name =>
    obtain ⟨text, rfl⟩ := h.name_text name hname
    rfl

end Act

/-! ## Computations in sequence -/

/-- Where two computations in sequence have a result, the first has one and the second goes on
from it. -/
theorem exists_of_bind_ok {α β : Type} {x : Except Failure α} {next : α → Except Failure β} {b : β}
    (h : (x >>= next) = .ok b) : ∃ a, x = .ok a ∧ next a = .ok b := by
  cases x with
  | error f => cases h
  | ok a => exact ⟨a, rfl, h⟩

/-- Each result of a computation on the items of a list is that of one of them. -/
theorem exists_of_mapM_ok {α β : Type} {f : α → Except Failure β} {items : List α}
    {results : List β} (h : items.mapM f = .ok results) :
    ∀ b ∈ results, ∃ a ∈ items, f a = .ok b := by
  induction items generalizing results with
  | nil =>
    cases h
    simp
  | cons a rest ih =>
    rw [List.mapM_cons] at h
    obtain ⟨b, hb, h⟩ := exists_of_bind_ok h
    obtain ⟨bs, hbs, h⟩ := exists_of_bind_ok h
    cases h
    intro c hc
    rcases List.mem_cons.1 hc with rfl | hc
    · exact ⟨a, by simp, hb⟩
    · obtain ⟨a', ha', hc'⟩ := ih hbs c hc
      exact ⟨a', by simp [ha'], hc'⟩

/-- A computation on the items of a list that has a result has one on each of them. -/
theorem exists_ok_of_mapM_ok {α β : Type} {f : α → Except Failure β} {items : List α}
    {results : List β} (h : items.mapM f = .ok results) : ∀ a ∈ items, ∃ b, f a = .ok b := by
  induction items generalizing results with
  | nil => simp
  | cons a rest ih =>
    rw [List.mapM_cons] at h
    obtain ⟨b, hb, h⟩ := exists_of_bind_ok h
    obtain ⟨bs, hbs, -⟩ := exists_of_bind_ok h
    exact List.forall_mem_cons.2 ⟨⟨b, hb⟩, ih hbs⟩

namespace Settings

variable {level : Threshold} {data value : Value}

/-- Settings whose level is one of the named ones, if there is one, and whose entries declare
validators. -/
structure WellShaped (settings : Settings) : Prop where
  /-- The level is absent or named. -/
  level_named : ∀ name, settings.logLevel = some name → name ∈ levelNames
  /-- Every entry declares a validator. -/
  declares : ∀ entry ∈ settings.entries, Declares entry.1 entry.2

/-! ## Reading -/

/-- Reporting a problem gives no result. -/
theorem offence_ne_ok {α : Type} (value : Value) (expected name : String) (a : α) :
    (offence level value expected name : Except Failure α) ≠ .ok a := by
  unfold offence
  split <;> simp

/-- What is demanded to be a text is one. -/
theorem exists_of_demandText {expected name : String} {u : Unit}
    (h : demandText level value expected name = .ok u) : ∃ text, value = .text text := by
  unfold demandText at h
  split_ifs at h with htext
  · cases value with
    | text text => exact ⟨text, rfl⟩
    | _ => cases htext
  · exact absurd h (offence_ne_ok _ _ _ _)

/-- A declared validator that was read keeps its key and has a text for its function, and one for
its name, in whose place the key stands where no name is given. -/
theorem exists_of_readValidator {key entry : Value} {result : Value × Entries}
    (h : readValidator level key entry = .ok result) :
    result.1 = key ∧ (∃ keyText, key.message level = .ok keyText) ∧
      (∃ path, (Entries.field? result.2 "function").getD .null = .text path) ∧
      ∃ name, (Entries.field? result.2 "name").getD key = .text name := by
  unfold readValidator at h
  cases hkey : key.message level with
  | error message =>
    rw [hkey] at h
    cases h
  | ok keyText =>
    rw [hkey] at h
    obtain ⟨members, -, h⟩ := exists_of_bind_ok h
    obtain ⟨_, hfunction, h⟩ := exists_of_bind_ok h
    obtain ⟨_, hname, h⟩ := exists_of_bind_ok h
    obtain rfl := Except.ok.inj h
    exact ⟨rfl, ⟨keyText, rfl⟩, exists_of_demandText hfunction, exists_of_demandText hname⟩

/-- A field that is a text where the absent value would stand for it is there. -/
theorem field?_of_getD_null {members : Entries} {name text : String}
    (h : (Entries.field? members name).getD .null = .text text) :
    Entries.field? members name = some (.text text) := by
  cases hfield : Entries.field? members name with
  | none =>
    rw [hfield] at h
    cases h
  | some found =>
    rw [hfield] at h
    exact congrArg some h

/-- What was read as a declared validator declares one. -/
theorem declares_of_readValidator {key entry : Value} {result : Value × Entries}
    (h : readValidator level key entry = .ok result) :
    Declares result.1 (.mapping none result.2) := by
  obtain ⟨hkey, htext, ⟨path, hpath⟩, name, hname⟩ := exists_of_readValidator h
  refine ⟨?_, ⟨path, field?_of_getD_null hpath⟩, fun given hgiven => ⟨name, ?_⟩⟩
  · rw [hkey]
    exact (Value.write_sameOutcome level .unset .message key).exists_ok htext
  · rw [Value.membersOf_mapping] at hgiven
    rwa [hgiven] at hname

/-- A level that is no absent value names one of the levels. -/
theorem mem_levelNames {wanted : Value} (h : isLevel wanted = true) {name : String}
    (hname : levelName? wanted = some name) : name ∈ levelNames := by
  cases wanted with
  | text text =>
    obtain rfl := Option.some.inj hname
    exact List.contains_iff_mem.1 h
  | _ => cases hname

/-- The entries that are taken of a mapping are its members. -/
theorem membersOf_of_mappingAt {name : String} {entries : Entries}
    (h : mappingAt level value name = .ok entries) : value.membersOf = entries := by
  unfold mappingAt at h
  split at h
  · exact Except.ok.inj h
  · exact absurd h (offence_ne_ok _ _ _ _)

/-- What was read of a document: its level, which is one, and each of the declared validators. -/
theorem reads_of_ofDocument {settings : Settings} (h : ofDocument level data = .ok settings) :
    isLevel ((Entries.field? data.membersOf "log_level").getD .null) = true ∧
      levelName? ((Entries.field? data.membersOf "log_level").getD .null) = settings.logLevel ∧
      (((Entries.field? data.membersOf "validators").getD .null).membersOf.mapM fun entry =>
        readValidator level entry.1 entry.2) = .ok settings.validators := by
  unfold ofDocument at h
  obtain ⟨members, hmembers, h⟩ := exists_of_bind_ok h
  obtain rfl := membersOf_of_mappingAt hmembers
  dsimp only at h
  generalize (Entries.field? data.membersOf "log_level").getD .null = wanted at h ⊢
  generalize (Entries.field? data.membersOf "validators").getD .null = declared at h ⊢
  split at h
  case isFalse =>
    -- A level that is none is reported, and nothing is read then.
    obtain ⟨_, hoffence, -⟩ := exists_of_bind_ok h
    exact absurd hoffence (offence_ne_ok _ _ _ _)
  case isTrue hlevel =>
    -- Whether or not validators are declared, the members of what is there are read.
    obtain ⟨entries, hentries, h⟩ : ∃ entries, declared.membersOf = entries ∧
        (entries.mapM (fun entry => readValidator level entry.1 entry.2) >>= fun validators =>
          .ok { logLevel := levelName? wanted, validators }) = .ok settings := by
      split at h
      case isTrue hnull =>
        have hnone : declared.membersOf = [] := by
          cases declared with
          | null => rfl
          | _ => cases hnull
        exact ⟨[], hnone, h⟩
      case isFalse =>
        obtain ⟨entries, hentries, h⟩ := exists_of_bind_ok h
        exact ⟨entries, membersOf_of_mappingAt hentries, h⟩
    obtain ⟨validators, hvalidators, h⟩ := exists_of_bind_ok h
    obtain rfl := Except.ok.inj h
    rw [hentries]
    exact ⟨hlevel, rfl, hvalidators⟩

/-- Settings that were read from a document: their level is named, if there is one, and every entry
was read as a declared validator. -/
theorem exists_of_ofDocument {settings : Settings} (h : ofDocument level data = .ok settings) :
    (∀ name, settings.logLevel = some name → name ∈ levelNames) ∧
      ∀ p ∈ settings.validators, ∃ read : Value × Value,
        readValidator level read.1 read.2 = .ok p := by
  obtain ⟨hlevel, hname, hvalidators⟩ := reads_of_ofDocument h
  refine ⟨fun name hnamed => mem_levelNames hlevel (hname.trans hnamed), fun p hp => ?_⟩
  obtain ⟨read, -, hread⟩ := exists_of_mapM_ok hvalidators p hp
  exact ⟨read, hread⟩

/-- Settings that were read from a document are well shaped. -/
theorem wellShaped_of_ofDocument {settings : Settings} (h : ofDocument level data = .ok settings) :
    settings.WellShaped := by
  obtain ⟨hlevel, hread⟩ := exists_of_ofDocument h
  refine ⟨hlevel, fun entry hentry => ?_⟩
  obtain ⟨p, hp, rfl⟩ := List.mem_map.1 hentry
  obtain ⟨read, hp⟩ := hread p hp
  exact declares_of_readValidator hp

/-- A value that was loaded stands for settings that were read from the document. -/
theorem exists_ofDocument_of_load {s s' : Session} (h : (load data).exec s = (.ok value, s')) :
    ∃ (id : Nat) (settings : Settings), ofDocument s.level data = .ok settings ∧
      value = .settings id ((settings.logLevel.map .text).getD .null)
        (.mapping none settings.entries) := by
  cases hread : ofDocument s.level data with
  | error f =>
    rw [exec_load_of_error hread] at h
    cases h
  | ok settings =>
    rw [exec_load_of_ok hread] at h
    -- The warning about unknown members may still fail, but it does not change the settings.
    rcases hwarn : (warnUnknown (unknownMembers data)).exec s with ⟨f | _, s₁⟩
    · rw [Act.exec_bind_of_error hwarn] at h
      cases h
    · rw [Act.exec_bind_of_ok hwarn, exec_toValue] at h
      exact ⟨s₁.nextId, settings, rfl, (Except.ok.inj (Prod.mk.inj h).1).symm⟩

/-- A value that was loaded stands for well-shaped settings. -/
theorem exists_of_load {s s' : Session} (h : (load data).exec s = (.ok value, s')) :
    ∃ (id : Nat) (settings : Settings), settings.WellShaped ∧
      value = .settings id ((settings.logLevel.map .text).getD .null)
        (.mapping none settings.entries) := by
  obtain ⟨id, settings, hread, hvalue⟩ := exists_ofDocument_of_load h
  exact ⟨id, settings, wellShaped_of_ofDocument hread, hvalue⟩

end Settings

end Conform
