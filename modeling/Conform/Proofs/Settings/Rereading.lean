import Conform.Attribute
import Conform.Proofs.Settings.Inspection
import Conform.Proofs.Value.SelfEquality

/-!
# Settings that are written out and read again

Settings that were loaded can be written out as a document of their own, which holds nothing but
their level and their validators. Loading that document gives the same settings, whatever the first
document looked like: a level in another case, members that are left out or absent, unknown members
at the top and within the validators, keys that are no texts.

* `Settings.HasShape.asDocument` and `Settings.ofShape_asDocument`: the document of settings that
  were read has the right shape and stands for these settings.
* `Settings.ofDocument_asDocument`: settings that were read are read again from their own document.
* `Settings.load_writtenOut`: settings that were loaded, in any session.
-/

namespace Conform

namespace Settings

variable {level : Threshold} {data value : Value} {settings : Settings}

/-! ## Settings as a document -/

/-- The document that settings stand for: their level and their validators, under the names by which
they are read. -/
def asDocument (settings : Settings) : Value :=
  .mapping none [(.text "log_level", settings.levelValue),
    (.text "validators", .mapping none settings.entries)]

/-- The validators of the settings that a document stands for, made of those that it declares. -/
theorem entries_ofShape (data : Value) :
    (ofShape data).entries =
      ((Entries.field? data.membersOf "validators").getD .null).membersOf.map fun entry =>
        (entry.1, .mapping none entry.2.membersOf) := by
  rw [entries, ofShape, List.map_map]
  rfl

/-- There is nothing in the document of settings that settings do not know. -/
theorem unknownMembers_asDocument (settings : Settings) :
    unknownMembers settings.asDocument = [] := rfl

/-- The names of levels are in upper case, so a level that is named is read as it is. -/
theorem levelName?_levelValue (h : ∀ name, settings.logLevel = some name → name ∈ levelNames) :
    levelName? settings.levelValue = settings.logLevel := by
  unfold levelValue
  cases hlevel : settings.logLevel with
  | none => rfl
  | some name => exact congrArg some (number?_of_mem_levelNames name (h name hlevel)).1

/-- The document of settings whose level is named stands for these settings. -/
theorem ofShape_asDocument (h : ∀ name, settings.logLevel = some name → name ∈ levelNames) :
    ofShape settings.asDocument = settings := by
  have hvalidators : settings.entries.map (fun entry => (entry.1, entry.2.membersOf)) =
      settings.validators := by
    rw [entries, List.map_map]
    exact List.map_id _
  show Settings.mk (levelName? settings.levelValue)
    (settings.entries.map fun entry => (entry.1, entry.2.membersOf)) = settings
  rw [levelName?_levelValue h, hvalidators]

/-- What was read of a document of the right shape is the level that it names, if there is one. -/
theorem HasShape.level_named (h : HasShape data) {name : String}
    (hname : (ofShape data).logLevel = some name) : name ∈ levelNames := by
  cases h with
  | mapping mark hlevel _ => exact mem_levelNames (isLevel_getD_iff.2 hlevel) hname

/-- Each entry that was read of a document of the right shape declares a validator. -/
theorem HasShape.declaresWell (h : HasShape data) {entry : Value × Value}
    (hentry : entry ∈ (ofShape data).entries) : DeclaresWell entry := by
  rw [entries_ofShape] at hentry
  obtain ⟨declared, hdeclared, rfl⟩ := List.mem_map.1 hentry
  obtain ⟨mark, -, hvalidators⟩ := h
  rw [Value.membersOf_mapping] at hdeclared
  rcases hvalidators with hout | ⟨m, entries, hentries, hall⟩
  · rw [hout.getD] at hdeclared
    cases hdeclared
  · rw [hentries] at hdeclared
    obtain ⟨mark', members, hmapping, hmembers⟩ := hall declared hdeclared
    refine ⟨none, members, ?_, hmembers⟩
    rw [hmapping, Value.membersOf_mapping]

/-- Settings that a document of the right shape stands for have a document of that shape. -/
theorem HasShape.asDocument (h : HasShape data) : HasShape (ofShape data).asDocument := by
  refine .mapping none ?_ (.inr ⟨none, (ofShape data).entries, rfl, fun _ => h.declaresWell⟩)
  show LeftOut (some (ofShape data).levelValue) ∨
    ∃ name, some (ofShape data).levelValue = some (.text name) ∧ Text.upper name ∈ levelNames
  unfold levelValue
  cases hlevel : (ofShape data).logLevel with
  | none => exact .inl (.inr rfl)
  | some name =>
    have hnamed := h.level_named hlevel
    have hupper := (number?_of_mem_levelNames name hnamed).1
    exact .inr ⟨name, rfl, hupper.symm ▸ hnamed⟩

/-- The keys in the document of settings are those of the document they were read from, and whether
they have texts does not depend on the level. -/
theorem KeysTold.asDocument (h : KeysTold level data) (level' : Threshold) :
    KeysTold level' (ofShape data).asDocument := by
  intro entry hentry
  have hmem : entry ∈ (ofShape data).entries := hentry
  rw [entries_ofShape] at hmem
  obtain ⟨declared, hdeclared, rfl⟩ := List.mem_map.1 hmem
  exact (Value.write_sameOutcome level level' .message declared.1).exists_ok (h declared hdeclared)

/-- Settings that were read from any document are read again from their own, under whatever
level. -/
theorem ofDocument_asDocument (h : ofDocument level data = .ok settings) (level' : Threshold) :
    ofDocument level' settings.asDocument = .ok settings := by
  obtain ⟨hkeys, hshape, rfl⟩ := ofDocument_eq_ok_iff.1 h
  have hsame : ofShape (ofShape data).asDocument = ofShape data :=
    ofShape_asDocument fun _ => hshape.level_named
  exact ofDocument_eq_ok_iff.2 ⟨hkeys.asDocument level', hshape.asDocument, hsame.symm⟩

/-- The validators that a well-made document declares make up a well-made mapping. -/
theorem wellMade_entries (hdata : data.WellMade) :
    Value.WellMade (.mapping none (ofShape data).entries) := by
  obtain ⟨hdistinct, hkeys, hitems⟩ :=
    Value.wellMade_mapping_iff.1 (hdata.field "validators").members
  rw [entries_ofShape]
  -- The keys are those of the document, and each entry is made of the members that it has there.
  refine .mapping none (List.pairwise_map.2 hdistinct) (List.forall_mem_map.2 hkeys) ?_
  exact List.forall_mem_map.2 fun entry hentry => (hitems entry hentry).members

/-! ## Writing out and loading again -/

/-- Write settings out as a document: what their two attributes hold, under the names of these. -/
def writtenOut (settings : Value) : Act Value := do
  let level ← Act.attributeOf settings "log_level"
  let validators ← Act.attributeOf settings "validators"
  return .mapping none [(.text "log_level", level), (.text "validators", validators)]

/-- Settings are written out as the document that they stand for. -/
theorem exec_writtenOut (objectId : Nat) (settings : Settings) (s : Session) :
    (writtenOut (.settings objectId settings.levelValue (.mapping none settings.entries))).exec s =
      (.ok settings.asDocument, s) := rfl

/-- Settings that were read from a document are loaded from their own, with no warning. -/
theorem exec_load_asDocument (h : ofDocument level data = .ok settings) (s : Session) :
    (load settings.asDocument).exec s =
      (.ok (.settings s.nextId settings.levelValue (.mapping none settings.entries)),
        { s with nextId := s.nextId + 1 }) := by
  have hwarn : (warnUnknown []).exec s = (.ok (), s) := rfl
  rw [exec_load_of_ok (ofDocument_asDocument h s.level), unknownMembers_asDocument,
    Act.exec_bind_of_ok hwarn, exec_toValue]
  rfl

/-- Settings whose validators make up a well-made mapping are equal to others with the same level
and the same validators. -/
theorem equal?_settings (h : Value.WellMade (.mapping none settings.entries)) (id id' : Nat) :
    (Value.settings id settings.levelValue (.mapping none settings.entries)).equal?
      (.settings id' settings.levelValue (.mapping none settings.entries)) = .ok true := by
  have hsame : settings.levelValue.same settings.levelValue = true := by
    unfold levelValue
    cases settings.logLevel with
    | none => rfl
    | some name => exact beq_self_eq_true name
  rw [Value.equal?, if_pos hsame, h.equal?_mapping none]
  exact ite_self _

/-- Settings that were loaded from any value hold what is read of it, and they survive being written
out and loaded again. In every session, loading what they are written out as succeeds. It logs
nothing, and it changes nothing but that the result is a new object, which has the same level and,
under the same keys in the same order, the same members. If what the settings were loaded from is
well made, they and the result are equal. -/
theorem load_writtenOut {s s' : Session} (hload : (load data).exec s = (.ok value, s'))
    (t : Session) :
    ∃ objectId level entries,
      value = .settings objectId level (.mapping none entries) ∧ IsReadAs data level entries ∧
      (do load (← writtenOut value) : Act Value).exec t =
        (.ok (.settings t.nextId level (.mapping none entries)),
          { t with nextId := t.nextId + 1 }) ∧
      (data.WellMade →
        value.equal? (.settings t.nextId level (.mapping none entries)) = .ok true) := by
  obtain ⟨objectId, settings, hread, hvalue⟩ := exists_ofDocument_of_load hload
  obtain ⟨-, hshape, rfl⟩ := ofDocument_eq_ok_iff.1 hread
  set settings := ofShape data
  obtain rfl : value = .settings objectId settings.levelValue (.mapping none settings.entries) :=
    hvalue
  refine ⟨objectId, settings.levelValue, settings.entries, rfl, hshape.isReadAs, ?_, ?_⟩
  · rw [Act.exec_bind_of_ok (exec_writtenOut objectId settings t)]
    exact exec_load_asDocument hread t
  · intro hdata
    exact equal?_settings (wellMade_entries hdata) objectId t.nextId

/-- Members that settings do not all know: besides a function, a list and a number that is none. -/
def extraMembers : Entries :=
  [(.text "function", .text "fixtures.is_even"), (.text "tags", .list none [.int 1, .text "a"]),
    (.text "limit", .float .ofYaml .nan)]

/-- The number is known to be the object that the word for it stands for. -/
theorem wellMade_withEntry_extraMembers : Value.WellMade (withEntry extraMembers) := by
  have htext (text : String) : Value.WellMade (.text text) := .single rfl rfl
  have hint (n : Int) : Value.WellMade (.int n) := .single rfl rfl
  have htags : Value.WellMade (.list none [.int 1, .text "a"]) := .list none (by simp [hint, htext])
  have hlimit : Value.WellMade (.float .ofYaml .nan) := .single rfl rfl
  have hnamed : Value.WellMade (.mapping none
      [(.text "function", .text "fixtures.is_odd"), (.text "name", .text "odd")]) :=
    .mapping none (by decide) (by simp [htext]) (by simp [htext])
  have hextra : Value.WellMade (.mapping none extraMembers) :=
    .mapping none (by decide) (by simp [extraMembers, htext])
      (by simp [extraMembers, htext, htags, hlimit])
  have hdeclared : Value.WellMade (.mapping none
      [(.int 1, .mapping none
          [(.text "function", .text "fixtures.is_odd"), (.text "name", .text "odd")]),
        (.text "even", .mapping none extraMembers)]) :=
    .mapping none (by decide) (by simp [hint, htext]) (by simp [hnamed, hextra])
  refine .mapping none (by decide) (by simp [htext]) ?_
  have hnull : Value.WellMade .null := .single rfl rfl
  simp [hint, htext, hdeclared, hnull]

/-- Settings that were loaded with a warning, of a level in lower case, a key that is no text, and
members that settings do not know, are loaded again with no other warning, and are equal. -/
theorem load_writtenOut_withEntry :
    ∃ value s' again s'', (load (withEntry extraMembers)).exec .initial = (.ok value, s') ∧
      s'.logs.length = 1 ∧
      (do load (← writtenOut value) : Act Value).exec s' = (.ok again, s'') ∧
      s''.logs = s'.logs ∧ value.equal? again = .ok true := by
  obtain ⟨value, s', hload, hlogs⟩ : ∃ value s',
      (load (withEntry extraMembers)).exec .initial = (.ok value, s') ∧ s'.logs.length = 1 :=
    ⟨_, _, rfl, rfl⟩
  obtain ⟨_, _, _, -, -, hagain, hequal⟩ := load_writtenOut hload s'
  exact ⟨value, s', _, _, hload, hlogs, hagain, rfl, hequal wellMade_withEntry_extraMembers⟩

end Settings

end Conform
