import Conform.Proofs.Session.Run
import Conform.Proofs.Value.Numerals
import Conform.Proofs.Value.Sorting
import Conform.Proofs.Value.Tellable
import Conform.Settings

/-!
# Loading settings from documents

Settings are loaded from any value that a document can hold. On the way some values are told, which
needs their texts: the keys of the declared validators, the first part that does not have the right
shape, and the members that are not known. Loading ends with settings or with a problem with
settings, unless one of these values holds an integer that is too long to be written, or the unknown
members cannot be sorted.

* `Settings.toldByReading`: the values that are told while settings are read.
* `Settings.tells_ofDocument`: reading fails only with a problem with settings, or for one of these.
* `Settings.exec_warnUnknown`: the warning about unknown members.
* `Settings.loadsCleanly_iff`: when loading ends as it should, and how it ends otherwise.
-/

namespace Conform

/-- A problem whose data is the path that it is about. -/
def SettingsProblem.IsAbout (problem : SettingsProblem) (path : String) : Prop :=
  problem.context = .mapping none [(.text "path", .text path)]

namespace Settings

open Value

variable {α β : Type} {level : Threshold} {data value key entry v : Value} {told : List Value}
  {x : Except Failure α}

/-! ## What is told -/

/-- A computation tells some values: it fails because one of them holds an integer that is too long
to be written, if one does, and otherwise only where settings have the wrong shape. -/
def Tells (told : List Value) (x : Except Failure α) : Prop :=
  if holdsLongInteger.anyLong told then x = .error (.fault .badValue)
  else ∀ f, x = .error f → ∃ cause, f = .configuration (.invalid cause)

theorem tells_ok (a : α) : Tells [] (.ok a) := nofun

theorem Tells.of_long (h : Tells told x) (hlong : holdsLongInteger.anyLong told = true) :
    x = .error (.fault .badValue) := by
  unfold Tells at h
  rwa [if_pos hlong] at h

theorem Tells.of_short (h : Tells told x) (hshort : holdsLongInteger.anyLong told = false)
    {f : Failure} (hf : x = .error f) : ∃ cause, f = .configuration (.invalid cause) := by
  unfold Tells at h
  rw [if_neg (Bool.eq_false_iff.1 hshort)] at h
  exact h f hf

theorem Tells.bind_pure (h : Tells told x) (g : α → β) :
    Tells told (do let a ← x; return g a) := by
  unfold Tells at h ⊢
  cases x with
  | ok a =>
    split_ifs at h ⊢
    nofun
  | error f =>
    split_ifs at h ⊢
    · exact congrArg _ (Except.error.inj h)
    · intro f' hf'
      exact h f' (congrArg _ (Except.error.inj hf'))

theorem tells_cons (hshort : v.holdsLongInteger = false) :
    Tells (v :: told) x ↔ Tells told x := by
  unfold Tells
  rw [holdsLongInteger.anyLong, hshort, Bool.false_or]

theorem tells_cons_of_long (hlong : v.holdsLongInteger = true) (h : x = .error (.fault .badValue)) :
    Tells (v :: told) x := by
  unfold Tells
  rw [holdsLongInteger.anyLong, hlong, Bool.true_or]
  exact h

/-- What is reported of a value of a document is that it has the wrong shape. -/
theorem exists_offence (h : IsDocument value) (hshort : value.holdsLongInteger = false)
    (expected name : String) :
    ∃ cause, (offence level value expected name : Except Failure α) =
      .error (.configuration (.invalid cause)) := by
  obtain ⟨given, hgiven⟩ : ∃ given, value.mention level = .ok given :=
    h.exists_write hshort .mention
  unfold offence
  rw [hgiven]
  exact ⟨_, rfl⟩

/-- Nothing is reported of a value that cannot be written. -/
theorem offence_of_long (h : IsDocument value) (hlong : value.holdsLongInteger = true)
    (expected name : String) :
    (offence level value expected name : Except Failure α) = .error (.fault .badValue) := by
  have hmention : value.mention level = .error (.fault .badValue) := h.write_of_long hlong .mention
  unfold offence
  rw [hmention]
  rfl

/-- A value of a document that is reported is told. -/
theorem tells_offence (h : IsDocument value) (expected name : String) :
    Tells [value] (offence level value expected name : Except Failure α) := by
  cases hlong : value.holdsLongInteger with
  | true => exact tells_cons_of_long hlong (offence_of_long h hlong expected name)
  | false =>
    rw [tells_cons hlong]
    obtain ⟨cause, hcause⟩ : ∃ cause, (offence level value expected name : Except Failure α) =
      .error (.configuration (.invalid cause)) := exists_offence h hlong expected name
    rw [hcause]
    exact fun f hf => ⟨cause, (Except.error.inj hf).symm⟩

/-- Nothing goes on after a part is reported. -/
theorem offence_bind (value : Value) (expected name : String) (next : α → Except Failure β) :
    (offence level value expected name >>= next) = offence level value expected name := by
  unfold offence
  cases value.mention level <;> rfl

theorem tells_offence_bind (level : Threshold) (h : IsDocument value) (expected name : String)
    (next : α → Except Failure β) :
    Tells [value] (offence level value expected name >>= next) := by
  rw [offence_bind]
  exact tells_offence h expected name

/-! ## Reading -/

theorem mappingAt_of_isMapping (h : value.isMapping = true) (name : String) :
    mappingAt level value name = pure value.membersOf := by
  obtain ⟨mark, entries, rfl⟩ := isMapping_iff.1 h
  rfl

theorem mappingAt_of_not_isMapping (h : value.isMapping = false) (name : String) :
    mappingAt level value name = offence level value "mapping" name := by
  unfold mappingAt
  split
  · cases h
  · rfl

/-- The first part of a declared validator that does not have the right shape. -/
def offender? (key entry : Value) : Option Value :=
  let function := (Entries.field? entry.membersOf "function").getD .null
  let name := (Entries.field? entry.membersOf "name").getD key
  if !entry.isMapping then some entry
  else if !function.isText then some function
  else if !name.isText then some name
  else none

/-- The values that are told while declared validators are read: their keys, up to the first that
does not have the right shape, and what is wrong with that. -/
def toldOfValidators : Entries → List Value
  | [] => []
  | (key, entry) :: rest =>
    key :: match offender? key entry with
      | some part => [part]
      | none => toldOfValidators rest

/-- The values that are told while settings are read from a document. -/
def toldByReading (data : Value) : List Value :=
  let wanted := (Entries.field? data.membersOf "log_level").getD .null
  let declared := (Entries.field? data.membersOf "validators").getD .null
  if !data.isMapping then [data]
  else if !isLevel wanted then [wanted]
  else if !declared.isNull && !declared.isMapping then [declared]
  else toldOfValidators declared.membersOf

/-- A declared validator whose key has a text is read, or its first part of the wrong shape is
reported. -/
theorem readValidator_of_message {keyText : String} (hkey : key.message level = .ok keyText)
    (entry : Value) :
    (offender? key entry = none ∧ readValidator level key entry = .ok (key, entry.membersOf)) ∨
      ∃ part expected name, offender? key entry = some part ∧
        readValidator level key entry = offence level part expected name := by
  have hread : readValidator level key entry = (do
      let members ← mappingAt level entry ("validators." ++ keyText)
      demandText level ((Entries.field? members "function").getD .null) "dotted path"
        ("validators." ++ keyText ++ ".function")
      demandText level ((Entries.field? members "name").getD key) "string"
        ("validators." ++ keyText ++ ".name")
      return (key, members)) := by
    rw [readValidator, hkey]
  rw [hread, offender?]
  cases hmapping : entry.isMapping with
  | false =>
    rw [mappingAt_of_not_isMapping hmapping]
    exact .inr ⟨entry, _, _, rfl, offence_bind entry _ _ _⟩
  | true =>
    rw [mappingAt_of_isMapping hmapping, pure_bind, demandText, demandText]
    generalize (Entries.field? entry.membersOf "function").getD .null = function
    generalize (Entries.field? entry.membersOf "name").getD key = name
    cases function.isText with
    | false => exact .inr ⟨function, _, _, rfl, offence_bind function _ _ _⟩
    | true =>
      cases name.isText with
      | false => exact .inr ⟨name, _, _, rfl, offence_bind name _ _ _⟩
      | true => exact .inl ⟨rfl, rfl⟩

/-- What a value of a document holds under a name is a value of the document. -/
theorem isDocument_field (h : IsDocument value) {default : Value} (hdefault : IsDocument default)
    (name : String) : IsDocument ((Entries.field? value.membersOf name).getD default) := by
  cases value with
  | mapping mark members => exact h.field hdefault name
  | _ => exact hdefault

/-- A part of a declared validator of a document is a value of the document. -/
theorem isDocument_of_offender (hkey : IsScalar key) (hentry : IsDocument entry)
    (h : offender? key entry = some v) : IsDocument v := by
  have hfunction := isDocument_field hentry (.scalar .null) "function"
  have hname := isDocument_field hentry (.scalar hkey) "name"
  simp only [offender?] at h
  split_ifs at h <;> obtain rfl := Option.some.inj h
  · exact hentry
  · exact hfunction
  · exact hname

/-- Reading the declared validators of a document tells what it should. -/
theorem tells_readValidators {entries : Entries} (hkeys : ∀ entry ∈ entries, IsScalar entry.1)
    (h : ∀ entry ∈ entries, IsDocument entry.2) :
    Tells (toldOfValidators entries)
      (entries.mapM fun entry => readValidator level entry.1 entry.2) := by
  induction entries with
  | nil => exact tells_ok []
  | cons entry rest ih =>
    obtain ⟨key, entry⟩ := entry
    have hkey : IsScalar key := hkeys (key, entry) List.mem_cons_self
    have hentry : IsDocument entry := h (key, entry) List.mem_cons_self
    rw [List.mapM_cons, toldOfValidators]
    dsimp only
    cases hlong : key.holdsLongInteger with
    | true =>
      -- The names of the parts in messages are made of the key, so its text is needed first.
      have htext : key.message level = .error (.fault .badValue) :=
        (IsDocument.scalar hkey).write_of_long hlong .message
      refine tells_cons_of_long hlong ?_
      simp only [readValidator, htext]
      rfl
    | false =>
      obtain ⟨keyText, htext⟩ : ∃ keyText, key.message level = .ok keyText :=
        (IsDocument.scalar hkey).exists_write hlong .message
      rw [tells_cons hlong]
      obtain ⟨hnone, hread⟩ | ⟨part, expected, name, hpart, hread⟩ :=
        readValidator_of_message htext entry
      · rw [hnone, hread]
        exact (ih (fun e he => hkeys e (List.mem_cons_of_mem _ he)) fun e he =>
          h e (List.mem_cons_of_mem _ he)).bind_pure _
      · rw [hpart, hread]
        exact tells_offence_bind level (isDocument_of_offender hkey hentry hpart) expected name _

/-- Reading settings from a document fails only where it has the wrong shape, or for a value that is
told and holds an integer that is too long. -/
theorem tells_ofDocument (h : IsDocument data) :
    Tells (toldByReading data) (ofDocument level data) := by
  have hwanted := isDocument_field h (.scalar .null) "log_level"
  have hdeclared := isDocument_field h (.scalar .null) "validators"
  rw [toldByReading, ofDocument]
  cases hmapping : data.isMapping with
  | false =>
    rw [mappingAt_of_not_isMapping hmapping]
    exact tells_offence_bind level h _ _ _
  | true =>
    rw [mappingAt_of_isMapping hmapping, pure_bind]
    dsimp only
    -- Only what the two members hold matters from here on.
    generalize (Entries.field? data.membersOf "log_level").getD .null = wanted at hwanted ⊢
    generalize (Entries.field? data.membersOf "validators").getD .null = declared at hdeclared ⊢
    cases isLevel wanted with
    | false => exact tells_offence_bind level hwanted _ _ _
    | true =>
      cases declared with
      | null => exact (tells_ok []).bind_pure _
      | mapping mark entries =>
        exact (tells_readValidators hdeclared.entries.1 hdeclared.entries.2).bind_pure _
      | _ => exact tells_offence_bind level hdeclared "mapping" "validators" _

/-! ## Loading -/

/-- The members of a document that settings do not know are scalars. -/
theorem isScalar_of_mem_unknownMembers (h : IsDocument data) {key : Value}
    (hkey : key ∈ unknownMembers data) : IsScalar key := by
  cases data with
  | mapping mark entries =>
    obtain ⟨entry, hentry, rfl⟩ := List.mem_map.1 (List.mem_filter.1 hkey).1
    exact h.entries.1 entry hentry
  | _ => cases hkey

/-- The warning about unknown members: the records that it consists of in a session. There is none
where there are no such members, and one that tells them in some order otherwise. -/
def UnknownReported (s : Session) (members : List Value) (records : List Record) : Prop :=
  (members = [] ∧ records = []) ∨
    (members ≠ [] ∧ ∃ sorted text, sorted.Perm members ∧
      (Value.list none sorted).inner s.level = .ok text ∧
      records = [⟨.settings, .warning, "Ignoring unknown typecheck settings: " ++ text⟩])

/-- Members that are not known can be told: they can be sorted, and none is an integer that is too
long to be written. -/
def CanBeListed (members : List Value) : Prop :=
  Sortable members ∧ ∀ v ∈ members, v.holdsLongInteger = false

/-- Warning about unknown members that are scalars: it is done if they can be told. Otherwise it
fails to sort them, or to write them once they are sorted. -/
theorem exec_warnUnknown {members : List Value} (h : ∀ v ∈ members, IsScalar v) (s : Session) :
    (∃ records, (warnUnknown members).exec s = (.ok (), { s with logs := s.logs ++ records }) ∧
        UnknownReported s members records ∧ CanBeListed members) ∨
      ((warnUnknown members).exec s = (.error unordered, s) ∧ ¬ Sortable members) ∨
      ((warnUnknown members).exec s = (.error (.fault .badValue), s) ∧ Sortable members ∧
        ¬ CanBeListed members) := by
  unfold warnUnknown
  by_cases hnone : members = []
  · subst hnone
    exact .inl ⟨[], by simp, .inl ⟨rfl, rfl⟩, .inl (by simp), nofun⟩
  have hsome : members.isEmpty = false := by simpa using hnone
  simp only [hsome]
  rw [if_neg Bool.false_ne_true]
  -- The members are sorted to be told, and then written as a list.
  rcases sorted?_of_isScalar h with ⟨sorted, hsorted, hperm, hsortable⟩ | ⟨herror, hmixed⟩
  · have hsort : (Act.ofExcept (sorted? members)).exec s = (.ok sorted, s) := by
      rw [Act.exec_ofExcept, hsorted]
    have hdocument : IsDocument (.list none sorted) :=
      .list none fun v hv => .scalar (h v (hperm.mem_iff.1 hv))
    rw [Act.exec_bind_of_ok hsort]
    cases hlong : (Value.list none sorted).holdsLongInteger with
    | false =>
      obtain ⟨text, htext⟩ : ∃ text, (Value.list none sorted).inner s.level = .ok text :=
        hdocument.exists_write hlong .inner
      have hshort : ∀ v ∈ members, v.holdsLongInteger = false := fun v hv =>
        anyLong_eq_false_iff.1 hlong v (hperm.mem_iff.2 hv)
      refine .inl ⟨_, ?_, .inr ⟨hnone, sorted, text, hperm, htext, rfl⟩, hsortable, hshort⟩
      rw [Act.exec_bind_of_ok (Act.exec_inner_of_ok htext), Act.exec_log]
    | true =>
      have htext : (Value.list none sorted).inner s.level = .error (.fault .badValue) :=
        hdocument.write_of_long hlong .inner
      have hinner : (Act.inner (.list none sorted)).exec s = (.error (.fault .badValue), s) := by
        rw [Act.exec_inner, htext]
        rfl
      refine .inr (.inr ⟨by rw [Act.exec_bind_of_error hinner], hsortable, fun hlisted => ?_⟩)
      have hshort : holdsLongInteger.anyLong sorted = false :=
        anyLong_eq_false_iff.2 fun v hv => hlisted.2 v (hperm.mem_iff.1 hv)
      exact Bool.false_ne_true (hshort.symm.trans hlong)
  · have hsort : (Act.ofExcept (sorted? members)).exec s = (.error unordered, s) := by
      rw [Act.exec_ofExcept, herror]
    exact .inr (.inl ⟨by rw [Act.exec_bind_of_error hsort], hmixed⟩)

/-- Settings become a value with a new identity. -/
theorem exec_toValue (settings : Settings) (s : Session) :
    settings.toValue.exec s =
      (.ok (.settings s.nextId ((settings.logLevel.map .text).getD .null)
        (.mapping none settings.entries)), { s with nextId := s.nextId + 1 }) := by
  rw [toValue, make, Act.exec_bind_of_ok (Act.exec_fresh s), Act.exec_pure]

/-- Loading ends as it should: with the settings that were read, once unknown members have been
warned about, or with a problem with settings and the session as it was. -/
def LoadsCleanly (data : Value) (s : Session) : Prop :=
  (∃ settings records, ofDocument s.level data = .ok settings ∧
      UnknownReported s (unknownMembers data) records ∧
      (load data).exec s =
        (.ok (.settings s.nextId ((settings.logLevel.map .text).getD .null)
            (.mapping none settings.entries)),
          { s with logs := s.logs ++ records, nextId := s.nextId + 1 })) ∨
    ∃ problem, (load data).exec s = (.error (.configuration problem), s)

/-- Loading fails as reading does, before anything is reported. -/
theorem exec_load_of_error {s : Session} {f : Failure} (h : ofDocument s.level data = .error f) :
    (load data).exec s = (.error f, s) := by
  rw [load, Act.exec_bind_of_ok (Act.exec_get s), h]
  exact Act.exec_bind_of_error (Act.exec_ofExcept s _) _

/-- Loading settings that can be read goes on with the warning about unknown members. -/
theorem exec_load_of_ok {s : Session} {settings : Settings}
    (h : ofDocument s.level data = .ok settings) :
    (load data).exec s =
      (do warnUnknown (unknownMembers data); settings.toValue : Act Value).exec s := by
  rw [load, Act.exec_bind_of_ok (Act.exec_get s), h]
  exact Act.exec_bind_of_ok (Act.exec_ofExcept s _) _

/-- Loading that ends with a fault does not end as it should. -/
theorem not_loadsCleanly {s s' : Session} {f : Fault}
    (h : (load data).exec s = (.error (.fault f), s')) : ¬ LoadsCleanly data s := by
  rintro (⟨_, _, _, _, hok⟩ | ⟨_, hproblem⟩)
  · rw [h] at hok
    cases hok
  · rw [h] at hproblem
    cases hproblem

/-- Whatever loading a document tells can be told: no value that is told while settings are read
holds an integer that is too long, and where they can be read, the unknown members can be listed. -/
def CanBeTold (level : Threshold) (data : Value) : Prop :=
  (∀ v ∈ toldByReading data, v.holdsLongInteger = false) ∧
    ((∃ settings, ofDocument level data = .ok settings) → CanBeListed (unknownMembers data))

/-- The three ways in which loading settings from a document ends. -/
theorem load_outcome (h : IsDocument data) (s : Session) :
    (LoadsCleanly data s ∧ CanBeTold s.level data) ∨
      ((load data).exec s = (.error unordered, s) ∧
        (∃ settings, ofDocument s.level data = .ok settings) ∧ ¬ Sortable (unknownMembers data)) ∨
      ((load data).exec s = (.error (.fault .badValue), s) ∧ ¬ CanBeTold s.level data ∧
        ((∃ settings, ofDocument s.level data = .ok settings) →
          Sortable (unknownMembers data))) := by
  have htells : Tells (toldByReading data) (ofDocument s.level data) := tells_ofDocument h
  unfold CanBeTold
  rw [← anyLong_eq_false_iff]
  cases hlong : holdsLongInteger.anyLong (toldByReading data) with
  | true =>
    -- Reading already fails.
    have hdocument := htells.of_long hlong
    refine .inr (.inr ⟨exec_load_of_error hdocument, fun htold => (by cases htold.1), ?_⟩)
    rw [hdocument]
    nofun
  | false =>
    cases hdocument : ofDocument s.level data with
    | error f =>
      obtain ⟨cause, rfl⟩ := htells.of_short hlong hdocument
      exact .inl ⟨.inr ⟨_, exec_load_of_error hdocument⟩, rfl, nofun⟩
    | ok settings =>
      -- The shape is right, so only the warning can go wrong.
      have hgo := exec_load_of_ok hdocument
      rcases exec_warnUnknown (fun _ => isScalar_of_mem_unknownMembers h) s with
        ⟨records, hwarn, hreported, hlisted⟩ | ⟨hrefused, hmixed⟩ | ⟨hrefused, hsortable, hunlisted⟩
      · refine .inl ⟨.inl ⟨settings, records, hdocument, hreported, ?_⟩, rfl, fun _ => hlisted⟩
        rw [hgo, Act.exec_bind_of_ok hwarn, exec_toValue]
      · refine .inr (.inl ⟨?_, ⟨settings, rfl⟩, hmixed⟩)
        rw [hgo, Act.exec_bind_of_error hrefused]
      · refine .inr (.inr ⟨?_, fun htold => hunlisted (htold.2 ⟨settings, rfl⟩), fun _ => hsortable⟩)
        rw [hgo, Act.exec_bind_of_error hrefused]

/-- Loading settings from a document ends as it should exactly if what it tells can be told.
Otherwise it fails and leaves the session as it was: to sort the unknown members, where settings can
be read and these members have no order among themselves, and to write an integer that is too long
in all other cases. -/
theorem loadsCleanly_iff (h : IsDocument data) (s : Session) :
    (LoadsCleanly data s ↔ CanBeTold s.level data) ∧
    ((∃ settings, ofDocument s.level data = .ok settings) → ¬ Sortable (unknownMembers data) →
      (load data).exec s = (.error (.fault .typeMismatch), s)) ∧
    (¬ LoadsCleanly data s →
      ((∃ settings, ofDocument s.level data = .ok settings) → Sortable (unknownMembers data)) →
      (load data).exec s = (.error (.fault .badValue), s)) := by
  obtain ⟨hclean, htold⟩ | ⟨hload, hread, hmixed⟩ | ⟨hload, huntold, hsortable⟩ := load_outcome h s
  · exact ⟨iff_of_true hclean htold, fun hread hmixed => absurd (htold.2 hread).1 hmixed,
      fun hnot => absurd hclean hnot⟩
  · have huntold : ¬ CanBeTold s.level data := fun htold => hmixed (htold.2 hread).1
    exact ⟨iff_of_false (not_loadsCleanly hload) huntold, fun _ _ => hload,
      fun _ hsortable => absurd (hsortable hread) hmixed⟩
  · exact ⟨iff_of_false (not_loadsCleanly hload) huntold,
      fun hread hmixed => absurd (hsortable hread) hmixed, fun _ _ => hload⟩

/-- A document with nothing but unknown members, under a number and a text. -/
def mixedKeys : Value := .mapping none [(.int 1, .null), (.text "a", .null)]

theorem unknownMembers_mixedKeys : unknownMembers mixedKeys = [.int 1, .text "a"] := by
  rfl

theorem isDocument_mixedKeys : IsDocument mixedKeys := by
  refine .mapping none ?_ ?_
  · simpa using ⟨IsScalar.int 1, IsScalar.text "a"⟩
  · simpa using IsDocument.scalar .null

/-- A document whose level is the smallest integer that is too long to be written. -/
def longLevel : Value := .mapping none [(.text "log_level", .int (10 ^ 4300))]

theorem isDocument_longLevel : IsDocument longLevel :=
  .mapping none (List.forall_mem_singleton.2 (.text "log_level"))
    (List.forall_mem_singleton.2 (.scalar (.int _)))

theorem isTooLong_limit : isTooLong (10 ^ 4300) = true := by
  have hten : Int.natAbs 10 = 10 := rfl
  have hlimit : Numeral.digitLimit = 4300 := rfl
  rw [← hlimit, ← Bool.not_eq_false, isTooLong_eq_false_iff, Int.natAbs_pow, hten]
  exact lt_irrefl _

/-- The document with unknown members of two families is not loaded, though its shape is right. One
with an integer for its level is not even refused for it, if the integer is too long. -/
theorem load_mixedKeys :
    (IsDocument mixedKeys ∧ ¬ LoadsCleanly mixedKeys .initial ∧
      (load mixedKeys).exec .initial = (.error (.fault .typeMismatch), .initial)) ∧
    IsDocument longLevel ∧ ¬ LoadsCleanly longLevel .initial ∧
      (load longLevel).exec .initial = (.error (.fault .badValue), .initial) := by
  constructor
  · have hread : ∃ settings, ofDocument Session.initial.level mixedKeys = .ok settings := ⟨_, rfl⟩
    have hmixed : ¬ Sortable (unknownMembers mixedKeys) := by
      rw [unknownMembers_mixedKeys]
      rintro (hshort | ⟨family, hall⟩)
      · simp at hshort
      · have hnumber : some Family.number = some family := hall (.int 1) (by simp)
        have htext : some Family.text = some family := hall (.text "a") (by simp)
        exact absurd (hnumber.trans htext.symm) (by decide)
    have hload := (loadsCleanly_iff isDocument_mixedKeys .initial).2.1 hread hmixed
    exact ⟨isDocument_mixedKeys, not_loadsCleanly hload, hload⟩
  · obtain ⟨hiff, -, hfault⟩ := loadsCleanly_iff isDocument_longLevel .initial
    have htold : .int (10 ^ 4300) ∈ toldByReading longLevel := List.mem_singleton.2 rfl
    have hnot : ¬ LoadsCleanly longLevel .initial := fun hclean =>
      Bool.false_ne_true (((hiff.1 hclean).1 _ htold).symm.trans isTooLong_limit)
    have hsortable : Sortable (unknownMembers longLevel) := .inl (Nat.zero_le 1)
    exact ⟨isDocument_longLevel, hnot, hfault hnot fun _ => hsortable⟩

end Settings

end Conform
