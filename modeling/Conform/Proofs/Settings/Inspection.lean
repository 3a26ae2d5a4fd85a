import Conform.Proofs.Check.Agreement
import Conform.Proofs.Settings.Keys
import Conform.Proofs.Value.SortedTexts
import Conform.Proofs.Value.Tellable
import Mathlib.Data.List.Forall2

/-!
# The inspection of settings

Reading settings from a document inspects its parts in a fixed order: that the document is a
mapping, the level, the declared validators, and then each of these with its function and its name.
The first part that is not as expected is reported, and nothing else is.

* `Settings.HasShape`: the documents that settings are read from, without the order of inspection.
* `Settings.inspections`: what is inspected of a document, in order.
* `Settings.ofDocument_eq`: reading is inspecting everything and then taking what is there.
* `Settings.hasShape_iff`: a document has the right shape exactly if every inspection passes.
* `Settings.ofDocument_eq_ok_iff`: from which documents settings are read, and which.
* `Settings.load_inspects`: what loading any value with texts does to a session.
-/

namespace Conform

/-! ## Inspections -/

/-- A part of a document that is inspected: the part, what is expected of it, its name in messages,
and whether it is as expected. -/
structure Inspection where
  subject : Value
  expected : String
  name : String
  passes : Bool

namespace Inspection

variable {level : Threshold}

/-- The rejection of a part that is not as expected, which is told by its text. -/
def rejection (i : Inspection) (given : String) : Rejection where
  value := i.subject
  expected := .text i.expected
  name := .text i.name
  message := Message.sentence (i.name ++ ": ") i.expected given

/-- Inspect a part: one that is not as expected is reported. -/
def demand (level : Threshold) (i : Inspection) : Except Failure Unit :=
  if i.passes then .ok () else Settings.offence level i.subject i.expected i.name

/-- The first of several inspections that a part does not pass. -/
def firstFailing (inspections : List Inspection) : Option Inspection :=
  inspections.find? fun i => !i.passes

/-- Parts that are inspected one after another are all as expected, or the first that is not is
reported. -/
theorem forM_demand (inspections : List Inspection) :
    forM inspections (demand level) =
      match firstFailing inspections with
      | none => .ok ()
      | some i => Settings.offence level i.subject i.expected i.name := by
  induction inspections with
  | nil => rfl
  | cons i rest ih =>
    rw [List.forM_cons, demand, firstFailing, List.find?_cons]
    cases i.passes with
    | true => exact ih
    | false => exact Settings.offence_bind i.subject i.expected i.name _

theorem firstFailing_eq_none {inspections : List Inspection} :
    firstFailing inspections = none ↔ ∀ i ∈ inspections, i.passes = true := by
  simp [firstFailing]

/-- What is reported of a part is its rejection. -/
theorem offence_eq {α : Type} (i : Inspection) {given : String}
    (h : i.subject.mention level = .ok given) :
    (Settings.offence level i.subject i.expected i.name : Except Failure α) =
      .error (.configuration (.invalid (i.rejection given))) := by
  unfold Settings.offence
  rw [h]
  rfl

/-- The rejection of a part is that of any check which it fails under that name. -/
theorem exec_reject {s : Session} (i : Inspection) (hname : i.name ≠ "") {given : String}
    (h : i.subject.mention s.level = .ok given) :
    (Act.reject i.subject (.text i.expected) (.text i.name) : Act Value).exec s =
      (.error (.rejected (i.rejection given)), s) := by
  have hsubject : Message.subject (.text i.name) = i.name ++ ": " := by
    rw [Message.subject, if_neg]
    simpa using hname
  have hsentence := Act.exec_rejection_eq (.inr ⟨i.name, rfl⟩) i.expected h
  rw [hsubject] at hsentence
  rw [Act.reject, Act.exec_bind_of_ok hsentence]
  rfl

end Inspection

namespace Settings

variable {level : Threshold} {data : Value} {s : Session}

/-- The text of a key in the names of what is declared under it. -/
def keyText (level : Threshold) (key : Value) : String :=
  match key.message level with
  | .ok text => text
  | .error _ => ""

/-- What is inspected of a declared validator: that it is a mapping, its function, and its name, in
whose place the key stands where no name is given. -/
def entryInspections (level : Threshold) (key entry : Value) : List Inspection :=
  let place := "validators." ++ keyText level key
  let function := (Entries.field? entry.membersOf "function").getD .null
  let name := (Entries.field? entry.membersOf "name").getD key
  [⟨entry, "mapping", place, entry.isMapping⟩,
    ⟨function, "dotted path", place ++ ".function", function.isText⟩,
    ⟨name, "string", place ++ ".name", name.isText⟩]

/-- What is inspected of a document, in order. -/
def inspections (level : Threshold) (data : Value) : List Inspection :=
  let wanted := (Entries.field? data.membersOf "log_level").getD .null
  let declared := (Entries.field? data.membersOf "validators").getD .null
  ⟨data, "mapping", "settings", data.isMapping⟩ ::
    ⟨wanted, "log level name", "log_level", isLevel wanted⟩ ::
    ⟨declared, "mapping", "validators", declared.isNull || declared.isMapping⟩ ::
    declared.membersOf.flatMap fun entry => entryInspections level entry.1 entry.2

/-! ## Reading -/

/-- The entries of a mapping are taken once it is found to be one. -/
theorem mappingAt_eq (value : Value) (name : String) :
    mappingAt level value name =
      (do Inspection.demand level ⟨value, "mapping", name, value.isMapping⟩
          return value.membersOf) := by
  rw [Inspection.demand]
  cases hmapping : value.isMapping with
  | true => exact mappingAt_of_isMapping hmapping name
  | false =>
    rw [mappingAt_of_not_isMapping hmapping]
    exact (offence_bind value "mapping" name _).symm

/-- Reading a declared validator whose key has a text is inspecting it and taking its members. -/
theorem readValidator_eq {key : Value} (entry : Value)
    (hkey : ∃ text, key.message level = .ok text) :
    readValidator level key entry =
      (do forM (entryInspections level key entry) (Inspection.demand level)
          return (key, entry.membersOf)) := by
  obtain ⟨text, htext⟩ := hkey
  have hplace : keyText level key = text := by rw [keyText, htext]
  rw [entryInspections, hplace]
  simp only [readValidator, htext, mappingAt_eq, List.forM_cons, List.forM_nil, bind_assoc,
    pure_bind]
  rfl

/-- Reading declared validators is inspecting all of them and then taking the members of each. -/
theorem mapM_readValidator_eq {entries : Entries}
    (hkeys : ∀ entry ∈ entries, ∃ text, entry.1.message level = .ok text) :
    (entries.mapM fun entry => readValidator level entry.1 entry.2) =
      (do forM (entries.flatMap fun entry => entryInspections level entry.1 entry.2)
            (Inspection.demand level)
          return entries.map fun entry => (entry.1, entry.2.membersOf)) := by
  induction entries with
  | nil => rfl
  | cons entry rest ih =>
    have hrest := ih fun e he => hkeys e (by simp [he])
    rw [List.mapM_cons, readValidator_eq entry.2 (hkeys entry (by simp)), hrest,
      List.flatMap_cons, List.forM_append]
    simp only [bind_assoc, pure_bind, List.map_cons]

/-- The settings that a document stands for, once it is known to have the right shape. -/
def ofShape (data : Value) : Settings where
  logLevel := levelName? ((Entries.field? data.membersOf "log_level").getD .null)
  validators :=
    ((Entries.field? data.membersOf "validators").getD .null).membersOf.map fun entry =>
      (entry.1, entry.2.membersOf)

/-- The keys of the validators that a document declares have texts, which are in the names of what
is declared under them. -/
def KeysTold (level : Threshold) (data : Value) : Prop :=
  ∀ entry ∈ ((Entries.field? data.membersOf "validators").getD .null).membersOf,
    ∃ text, entry.1.message level = .ok text

theorem keysTold_of_tellable (h : data.Tellable) : KeysTold level data := fun _ hentry =>
  ((h.field .null "validators").entry hentry).1.exists_message level

/-- Reading settings is inspecting the whole document and then taking what is there. -/
theorem ofDocument_eq (hkeys : KeysTold level data) :
    ofDocument level data =
      (do forM (inspections level data) (Inspection.demand level)
          return ofShape data) := by
  unfold KeysTold at hkeys
  unfold ofDocument inspections ofShape
  simp only [mappingAt_eq, List.forM_cons, bind_assoc, pure_bind]
  -- Only what the two members hold matters from here on.
  generalize (Entries.field? data.membersOf "log_level").getD .null = wanted
  generalize (Entries.field? data.membersOf "validators").getD .null = declared at hkeys ⊢
  refine bind_congr fun _ => ?_
  have hentries := mapM_readValidator_eq hkeys
  by_cases hlevel : isLevel wanted = true
  case neg =>
    have hreported :
        Inspection.demand level ⟨wanted, "log level name", "log_level", isLevel wanted⟩ =
          offence level wanted "log level name" "log_level" := if_neg hlevel
    rw [if_neg hlevel, hreported, offence_bind, offence_bind]
  case pos =>
    have hpasses :
        Inspection.demand level ⟨wanted, "log level name", "log_level", isLevel wanted⟩ =
          .ok () := if_pos hlevel
    rw [if_pos hlevel, hpasses]
    by_cases hnull : declared.isNull = true
    · -- Nothing is declared, so there is nothing more to inspect.
      obtain rfl : declared = .null := by
        cases declared with
        | null => rfl
        | _ => cases hnull
      rfl
    · have hmapping : (declared.isNull || declared.isMapping) = declared.isMapping := by
        rw [Bool.eq_false_iff.2 hnull, Bool.false_or]
      rw [if_neg hnull, hentries, hmapping]
      simp only [bind_assoc, pure_bind]
      rfl

/-! ## Shapes -/

/-- A member that need not be there is missing, or it is the absent value. -/
def LeftOut (found : Option Value) : Prop := found = none ∨ found = some .null

theorem LeftOut.getD {found : Option Value} (h : LeftOut found) : found.getD .null = .null := by
  rcases h with rfl | rfl <;> rfl

/-- An entry that declares a validator as it must: a mapping with well-typed members. -/
def DeclaresWell (entry : Value × Value) : Prop :=
  ∃ mark members, entry.2 = .mapping mark members ∧ WellTyped entry.1 members

/-- The documents that settings are read from: mappings whose level is left out or names one of the
levels, in any case, and whose validators are left out or are a mapping of entries that declare
validators. -/
inductive HasShape : Value → Prop where
  | mapping (mark : Mark) {members : Entries}
    (level : LeftOut (Entries.field? members "log_level") ∨
      ∃ name, Entries.field? members "log_level" = some (.text name) ∧
        Text.upper name ∈ levelNames)
    (validators : LeftOut (Entries.field? members "validators") ∨
      ∃ mark entries, Entries.field? members "validators" = some (.mapping mark entries) ∧
        ∀ entry ∈ entries, DeclaresWell entry) : HasShape (.mapping mark members)

theorem isLevel_getD_iff {found : Option Value} :
    isLevel (found.getD .null) = true ↔
      LeftOut found ∨ ∃ name, found = some (.text name) ∧ Text.upper name ∈ levelNames := by
  unfold LeftOut
  cases found with
  | none => simp [isLevel]
  | some v => cases v <;> simp [isLevel]

/-- A mapping may stand where validators are declared, or nothing. -/
theorem isMapping_getD_iff {found : Option Value} :
    ((found.getD .null).isNull || (found.getD .null).isMapping) = true ↔
      LeftOut found ∨ ∃ mark entries, found = some (.mapping mark entries) := by
  unfold LeftOut
  cases found with
  | none => simp [Value.isNull]
  | some v => cases v <;> simp [Value.isNull, Value.isMapping]

/-- Members are well typed exactly if the two that are inspected are texts. -/
theorem wellTyped_iff {key : Value} {members : Entries} :
    WellTyped key members ↔
      ((Entries.field? members "function").getD .null).isText = true ∧
        ((Entries.field? members "name").getD key).isText = true := by
  constructor
  · rintro ⟨⟨path, hpath⟩, hname, hkey⟩
    refine ⟨by rw [hpath]; rfl, ?_⟩
    cases hfield : Entries.field? members "name" with
    | none => exact Value.isText_iff.2 (hkey hfield)
    | some name => exact Value.isText_iff.2 (hname name hfield)
  · rintro ⟨hfunction, hname⟩
    obtain ⟨path, hpath⟩ := Value.isText_iff.1 hfunction
    refine ⟨⟨path, field?_of_getD_null hpath⟩, fun name hfield => ?_, fun hfield => ?_⟩
    · rw [hfield] at hname
      exact Value.isText_iff.1 hname
    · rw [hfield] at hname
      exact Value.isText_iff.1 hname

/-- An entry declares a validator exactly if it passes its inspections. -/
theorem declaresWell_iff {entry : Value × Value} :
    DeclaresWell entry ↔ ∀ i ∈ entryInspections level entry.1 entry.2, i.passes = true := by
  have hall : (∀ i ∈ entryInspections level entry.1 entry.2, i.passes = true) ↔
      entry.2.isMapping = true ∧ WellTyped entry.1 entry.2.membersOf := by
    simp [entryInspections, wellTyped_iff]
  rw [hall]
  constructor
  · rintro ⟨mark, members, hmapping, hmembers⟩
    rw [hmapping]
    exact ⟨rfl, hmembers⟩
  · rintro ⟨hmapping, hmembers⟩
    obtain ⟨mark, members, hentry⟩ := Value.isMapping_iff.1 hmapping
    rw [hentry] at hmembers
    exact ⟨mark, members, hentry, hmembers⟩

/-- A document has the right shape exactly if every inspection of it passes. -/
theorem hasShape_iff : HasShape data ↔ ∀ i ∈ inspections level data, i.passes = true := by
  have hall : (∀ i ∈ inspections level data, i.passes = true) ↔
      data.isMapping = true ∧
        isLevel ((Entries.field? data.membersOf "log_level").getD .null) = true ∧
        (((Entries.field? data.membersOf "validators").getD .null).isNull ||
          ((Entries.field? data.membersOf "validators").getD .null).isMapping) = true ∧
        ∀ entry ∈ ((Entries.field? data.membersOf "validators").getD .null).membersOf,
          DeclaresWell entry := by
    simp only [inspections, List.forall_mem_cons, List.forall_mem_flatMap, ← declaresWell_iff]
  rw [hall, isLevel_getD_iff, isMapping_getD_iff]
  constructor
  · rintro ⟨mark, hlevel, hvalidators⟩
    refine ⟨rfl, hlevel, hvalidators.imp_right fun ⟨m, entries, h, _⟩ => ⟨m, entries, h⟩, ?_⟩
    rcases hvalidators with hout | ⟨_, entries, hentries, hdeclare⟩
    · rw [Value.membersOf_mapping, hout.getD]
      intro entry hentry
      cases hentry
    · rw [Value.membersOf_mapping, hentries]
      exact hdeclare
  · rintro ⟨hmapping, hlevel, hvalidators, hdeclare⟩
    obtain ⟨mark, members, rfl⟩ := Value.isMapping_iff.1 hmapping
    rw [Value.membersOf_mapping] at hlevel hvalidators hdeclare
    refine .mapping mark hlevel (hvalidators.imp_right ?_)
    rintro ⟨m, entries, hentries⟩
    rw [hentries] at hdeclare
    exact ⟨m, entries, hentries, hdeclare⟩

theorem hasShape_iff_firstFailing (level : Threshold) :
    HasShape data ↔ Inspection.firstFailing (inspections level data) = none :=
  hasShape_iff.trans Inspection.firstFailing_eq_none.symm

/-! ## What is read -/

/-- Settings are read from a document exactly if it has the right shape and the keys of what it
declares have texts, and then they are those that the document stands for. -/
theorem ofDocument_eq_ok_iff {settings : Settings} :
    ofDocument level data = .ok settings ↔
      KeysTold level data ∧ HasShape data ∧ settings = ofShape data := by
  constructor
  · intro h
    obtain ⟨-, -, hvalidators⟩ := reads_of_ofDocument h
    have hkeys : KeysTold level data := by
      intro entry hentry
      obtain ⟨result, hresult⟩ := exists_ok_of_mapM_ok hvalidators entry hentry
      exact (exists_of_readValidator hresult).2.1
    rw [ofDocument_eq hkeys, Inspection.forM_demand] at h
    obtain ⟨_, hpasses, h⟩ := exists_of_bind_ok h
    refine ⟨hkeys, (hasShape_iff_firstFailing level).2 ?_, (Except.ok.inj h).symm⟩
    cases hfirst : Inspection.firstFailing (inspections level data) with
    | none => rfl
    | some i =>
      rw [hfirst] at hpasses
      exact absurd hpasses (offence_ne_ok _ _ _ _)
  · rintro ⟨hkeys, hshape, rfl⟩
    rw [ofDocument_eq hkeys, Inspection.forM_demand, (hasShape_iff_firstFailing level).1 hshape]
    rfl

/-- A copy of an entry: its key is the same, and it has the same members in the same order. -/
def IsCopy (entry copy : Value × Value) : Prop :=
  copy.1 = entry.1 ∧
    ∃ mark members, entry.2 = .mapping mark members ∧ copy.2 = .mapping none members

/-- What is read of a document: the level in upper case, and a copy of each declared validator in
order; nothing where they are left out. -/
structure IsReadAs (data level : Value) (entries : Entries) : Prop where
  level : (LeftOut (Entries.field? data.membersOf "log_level") ∧ level = .null) ∨
    ∃ name, Entries.field? data.membersOf "log_level" = some (.text name) ∧
      level = .text (Text.upper name)
  validators : (LeftOut (Entries.field? data.membersOf "validators") ∧ entries = []) ∨
    ∃ mark declared, Entries.field? data.membersOf "validators" = some (.mapping mark declared) ∧
      List.Forall₂ IsCopy declared entries

/-- A document of the right shape is read as the settings it stands for. -/
theorem HasShape.isReadAs (h : HasShape data) :
    IsReadAs data (((ofShape data).logLevel.map .text).getD .null) (ofShape data).entries := by
  obtain ⟨mark, hlevel, hvalidators⟩ := h
  constructor
  · rcases hlevel with hout | ⟨name, hname, -⟩
    · refine .inl ⟨hout, ?_⟩
      rw [ofShape, Value.membersOf_mapping, hout.getD]
      rfl
    · refine .inr ⟨name, hname, ?_⟩
      rw [ofShape, Value.membersOf_mapping, hname]
      rfl
  · rcases hvalidators with hout | ⟨m, declared, hdeclared, hall⟩
    · refine .inl ⟨hout, ?_⟩
      rw [entries, ofShape, Value.membersOf_mapping, hout.getD]
      rfl
    · refine .inr ⟨m, declared, hdeclared, ?_⟩
      rw [entries, ofShape, Value.membersOf_mapping, hdeclared, Option.getD_some,
        Value.membersOf_mapping, List.map_map, List.forall₂_map_right_iff, List.forall₂_same]
      intro entry hentry
      obtain ⟨mark', members, hmapping, -⟩ := hall entry hentry
      refine ⟨rfl, mark', members, hmapping, ?_⟩
      show Value.mapping none entry.2.membersOf = _
      rw [hmapping, Value.membersOf_mapping]

/-- The warning about unknown members that are texts: there is none where there are no such
members, and one that lists their names in rising order otherwise. -/
def UnknownListed (members : List Value) (records : List Record) : Prop :=
  (members = [] ∧ records = []) ∨
    (members ≠ [] ∧ ∃ names : List String, (names.map .text).Perm members ∧
      names.Pairwise (· ≤ ·) ∧
      records = [⟨.settings, .warning, "Ignoring unknown typecheck settings: " ++
        Value.bracketed "[" (names.map Text.quoted) "]"⟩])

/-- Warning about unknown members that are texts. -/
theorem exec_warnUnknown_of_isText {members : List Value}
    (h : ∀ key ∈ members, key.isText = true) (s : Session) :
    ∃ records, UnknownListed members records ∧
      (warnUnknown members).exec s = (.ok (), { s with logs := s.logs ++ records }) := by
  unfold warnUnknown
  by_cases hnone : members = []
  · subst hnone
    exact ⟨[], .inl ⟨rfl, rfl⟩, by simp⟩
  · have hsome : members.isEmpty = false := by simpa using hnone
    obtain ⟨names, hsorted, hperm, horder⟩ := Value.sorted?_of_isText h
    have hsort : (Act.ofExcept (Value.sorted? members)).exec s = (.ok (names.map .text), s) := by
      rw [Act.exec_ofExcept, hsorted]
    refine ⟨_, .inr ⟨hnone, names, hperm, horder, rfl⟩, ?_⟩
    simp only [hsome]
    rw [if_neg Bool.false_ne_true, Act.exec_bind_of_ok hsort,
      Act.exec_bind_of_ok (Act.exec_inner_of_ok (Value.inner_list_text s.level none names)),
      Act.exec_log]

/-! ## Loading -/

/-- Every inspection is of something that has a text, under a name. -/
theorem tellable_of_mem_inspections (hdata : data.Tellable) {i : Inspection}
    (hi : i ∈ inspections level data) : i.subject.Tellable ∧ i.name ≠ "" := by
  have hdeclared := hdata.field .null "validators"
  simp only [inspections, entryInspections, List.mem_cons, List.mem_flatMap, List.not_mem_nil,
    or_false] at hi
  rcases hi with rfl | rfl | rfl | ⟨entry, hentry, rfl | rfl | rfl⟩
  · exact ⟨hdata, by simp⟩
  · exact ⟨hdata.field .null _, by simp⟩
  · exact ⟨hdeclared, by simp⟩
  -- The key stands for a name that is not given, so it is inspected too.
  · exact ⟨(hdeclared.entry hentry).2, by simp⟩
  · exact ⟨(hdeclared.entry hentry).2.field .null _, by simp⟩
  · exact ⟨(hdeclared.entry hentry).2.field (hdeclared.entry hentry).1 _, by simp⟩

/-- The failure of loading: the rejection of one inspected part is the cause, and the problem with
settings that is raised from it carries its data and its message. -/
structure IsRaisedFrom (problem : SettingsProblem) (rejection : Rejection) : Prop where
  cause : problem.cause? = some rejection
  context : problem.context = rejection.context
  message : problem.message = "Invalid typecheck settings: " ++ rejection.message

/-- What loading does where the right shape is found: settings that stand for what is read are the
result, and there is one warning that lists the unknown members, if there are any. -/
def Loads (data : Value) (s : Session) : Prop :=
  ∃ level entries records, IsReadAs data level entries ∧
    UnknownListed (unknownMembers data) records ∧
    (load data).exec s = (.ok (.settings s.nextId level (.mapping none entries)),
      { s with logs := s.logs ++ records, nextId := s.nextId + 1 })

/-- What loading does where a part is the first that does not pass its inspection: a problem with
settings is raised from the rejection that any check of the part would end with, and the session
stays as it was. -/
def Reports (data : Value) (s : Session) (i : Inspection) : Prop :=
  ∃ given problem, i.subject.mention s.level = .ok given ∧
    (Act.reject i.subject (.text i.expected) (.text i.name) : Act Value).exec s =
      (.error (.rejected (i.rejection given)), s) ∧
    IsRaisedFrom problem (i.rejection given) ∧
    (load data).exec s = (.error (.configuration problem), s)

/-- A document of the right shape is loaded. -/
theorem loads_of_hasShape (hdata : data.Tellable)
    (hunknown : ∀ key ∈ unknownMembers data, key.isText = true) (hshape : HasShape data) :
    Loads data s := by
  have hread : ofDocument s.level data = .ok (ofShape data) :=
    ofDocument_eq_ok_iff.2 ⟨keysTold_of_tellable hdata, hshape, rfl⟩
  obtain ⟨records, hlisted, hwarn⟩ := exec_warnUnknown_of_isText hunknown s
  refine ⟨_, _, records, hshape.isReadAs, hlisted, ?_⟩
  rw [exec_load_of_ok hread, Act.exec_bind_of_ok hwarn, exec_toValue]

/-- The first part that does not pass its inspection is reported. -/
theorem reports_of_firstFailing (hdata : data.Tellable) {i : Inspection}
    (hfirst : Inspection.firstFailing (inspections s.level data) = some i) :
    Reports data s i := by
  have hmem : i ∈ inspections s.level data := List.mem_of_find?_eq_some hfirst
  obtain ⟨htellable, hname⟩ := tellable_of_mem_inspections hdata hmem
  obtain ⟨given, hgiven⟩ := htellable.exists_mention s.level
  have hread : ofDocument s.level data =
      .error (.configuration (.invalid (i.rejection given))) := by
    rw [ofDocument_eq (keysTold_of_tellable hdata), Inspection.forM_demand, hfirst]
    show (offence s.level i.subject i.expected i.name >>= fun _ => _) = _
    rw [i.offence_eq hgiven]
    rfl
  exact ⟨given, _, hgiven, i.exec_reject hname hgiven, ⟨rfl, rfl, rfl⟩, exec_load_of_error hread⟩

/-- Loading a value that has texts, and whose unknown members are texts, returns exactly if the
value has the right shape. Otherwise the first part that does not pass its inspection is
reported. -/
theorem load_inspects (s : Session) (hdata : data.Tellable)
    (hunknown : ∀ key ∈ unknownMembers data, key.isText = true) :
    ((∃ value s', (load data).exec s = (.ok value, s')) ↔ HasShape data) ∧
    (HasShape data → Loads data s) ∧
    (¬ HasShape data → ∃ i, Inspection.firstFailing (inspections s.level data) = some i ∧
      Reports data s i) := by
  have hloads : HasShape data → Loads data s := loads_of_hasShape hdata hunknown
  have hreports : ¬ HasShape data → ∃ i,
      Inspection.firstFailing (inspections s.level data) = some i ∧ Reports data s i := by
    intro hnot
    obtain ⟨i, hfirst⟩ := Option.ne_none_iff_exists'.1
      (mt (hasShape_iff_firstFailing s.level).2 hnot)
    exact ⟨i, hfirst, reports_of_firstFailing hdata hfirst⟩
  refine ⟨⟨?_, fun hshape => ?_⟩, hloads, hreports⟩
  · rintro ⟨value, s', hok⟩
    by_contra hnot
    obtain ⟨i, -, given, problem, -, -, -, herror⟩ := hreports hnot
    rw [herror] at hok
    cases hok
  · obtain ⟨level, entries, records, -, -, hok⟩ := hloads hshape
    exact ⟨_, _, hok⟩

/-- Settings with a level in lower case, two unknown members, and two entries: one under a number,
with a name, and the given one. -/
def withEntry (members : Entries) : Value :=
  .mapping none [(.text "size", .int 1), (.text "log_level", .text "debug"),
    (.text "validators", .mapping none
      [(.int 1, .mapping none
          [(.text "function", .text "fixtures.is_odd"), (.text "name", .text "odd")]),
        (.text "even", .mapping none members)]),
    (.text "color", .null)]

theorem isDocument_withEntry {members : Entries} (h : Value.IsDocument (.mapping none members)) :
    Value.IsDocument (withEntry members) := by
  have htext (text : String) : Value.IsDocument (.text text) := .scalar (.text text)
  have hnamed : Value.IsDocument (.mapping none
      [(.text "function", .text "fixtures.is_odd"), (.text "name", .text "odd")]) :=
    .mapping none (by simp [Value.IsScalar.text]) (by simp [htext])
  have hdeclared : Value.IsDocument (.mapping none
      [(.int 1, .mapping none
          [(.text "function", .text "fixtures.is_odd"), (.text "name", .text "odd")]),
        (.text "even", .mapping none members)]) :=
    .mapping none (by simp [Value.IsScalar.text, Value.IsScalar.int]) (by simp [h, hnamed])
  refine .mapping none (by simp [Value.IsScalar.text]) ?_
  simp [htext, hdeclared, Value.IsDocument.scalar, Value.IsScalar.int, Value.IsScalar.null]

/-- An entry that names its function is loaded. Of one whose function is a number and whose name is
a list, the function is reported. -/
theorem load_inspects_withEntry :
    (Loads (withEntry [(.text "function", .text "fixtures.is_even")]) .initial ∧
      ((load (withEntry [(.text "function", .text "fixtures.is_even")])).exec .initial).2.logs =
        [⟨.settings, .warning, "Ignoring unknown typecheck settings: ['color', 'size']"⟩]) ∧
    ∃ i, i.name = "validators.even.function" ∧ Reports
      (withEntry [(.text "name", .list none []), (.text "function", .int 3)]) .initial i := by
  have hunknown (members : Entries) :
      ∀ key ∈ unknownMembers (withEntry members), key.isText = true := by
    have hmembers : unknownMembers (withEntry members) = [.text "size", .text "color"] := rfl
    rw [hmembers]
    simp [Value.isText]
  have hright : Value.IsDocument (.mapping none [(.text "function", .text "fixtures.is_even")]) :=
    .mapping none (by simp [Value.IsScalar.text])
      (by simp [Value.IsDocument.scalar, Value.IsScalar.text])
  have hwrong : Value.IsDocument (.mapping none
      [(.text "name", .list none []), (.text "function", .int 3)]) :=
    .mapping none (by simp [Value.IsScalar.text])
      (by simp [Value.IsDocument.scalar, Value.IsScalar.int, Value.IsDocument.list])
  obtain ⟨-, hloads, -⟩ :=
    load_inspects .initial ((isDocument_withEntry hright).tellable rfl) (hunknown _)
  obtain ⟨-, -, hreports⟩ :=
    load_inspects .initial ((isDocument_withEntry hwrong).tellable rfl) (hunknown _)
  refine ⟨⟨hloads ((hasShape_iff_firstFailing .unset).2 rfl), rfl⟩, ?_⟩
  obtain ⟨i, hfirst, hreported⟩ := hreports (mt (hasShape_iff_firstFailing .unset).1 (by decide))
  refine ⟨i, ?_, hreported⟩
  cases hfirst
  rfl

end Settings

end Conform
