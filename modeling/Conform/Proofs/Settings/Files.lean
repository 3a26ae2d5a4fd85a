import Conform.Document.Yaml.Content
import Conform.FileTree
import Conform.Proofs.Document.Json
import Conform.Proofs.Document.Yaml.Content
import Conform.Proofs.Settings.Loading
import Conform.Settings.File

/-!
# Loading settings from files

A text names a file with a document if it can be resolved, the file is there and can be read, the
suffix of its name stands for a format and its bytes hold the document in that format
(`Settings.HoldsDocument`). Settings are loaded from the document then, and a failure is reported
with the path otherwise, with exceptions on both sides:

* `Settings.loadFile_document`: loading the file is loading its document, or no settings for the
  absent value, exactly for the documents that are mappings or do not count as false.
* `Settings.loadFile_without_document`: not to find a document is a problem with settings, exactly
  where nothing escapes (`Settings.Escapes`): neither a path that the file system cannot tell about
  nor a part of the text that has no value.

The file system is any, and so is the loader of YAML documents, of which only what is documented is
taken for granted (`Document.Loader.Documented`). `Document.Yaml.documented` says that the one of
this library is of that kind.
-/

namespace Conform

open Document (Ends Loader Trouble textOf?)
open Value (IsScalar IsDocument)

/-- What is documented of a loader. -/
structure Document.Loader.Documented (loader : Loader) : Prop where
  /-- What it answers with is a value that a document can hold; one that holds itself is none. -/
  document : ∀ content d, loader content = .ok d → IsDocument d
  /-- It reads the bytes to their end before it answers, so they are a text. -/
  text : ∀ content d, loader content = .ok d → (textOf? content).isSome = true

section

attribute [local irreducible] Document.Yaml.read

theorem Document.Yaml.documented : Document.Loader.Documented Document.Yaml.read where
  document content d h := by
    have hends := Document.Yaml.ends_read content
    rw [h] at hends
    exact hends.1
  text content d h := by
    have hends := Document.Yaml.ends_read content
    rw [h] at hends
    exact hends.2

end

namespace FileFormat

section

attribute [local irreducible] Document.Json.read textOf?

/-- Reading a JSON document ends with a value that it can hold, which takes bytes that are a text,
or with a trouble that such documents can have. -/
theorem ends_read_json (loader : Loader) (content : List UInt8) :
    Ends (fun d => IsDocument d ∧ (textOf? content).isSome = true)
      (Trouble.Among Document.Json.faults) (FileFormat.json.read loader content) := by
  have htext : Ends (fun _ => (textOf? content).isSome = true) (Trouble.Among Document.Json.faults)
      (Trouble.required (textOf? content)) :=
    Document.ends_required trivial fun cs hcs => by rw [hcs]; rfl
  refine htext.bind fun cs hsome => ?_
  exact (Document.Json.ends_read cs).mono fun d hd => ⟨hd, hsome⟩

end

/-- What is read is a value that a document can hold, and the bytes are a text. -/
theorem isDocument_of_read {loader : Loader} (hloader : loader.Documented) {format : FileFormat}
    {content : List UInt8} {d : Value} (h : format.read loader content = .ok d) :
    IsDocument d ∧ (textOf? content).isSome = true := by
  cases format with
  | yaml => exact ⟨hloader.document content d h, hloader.text content d h⟩
  | json =>
    have hends := ends_read_json loader content
    rw [h] at hends
    exact hends

end FileFormat

namespace Settings

/-! ## Documents in files -/

/-- A text names a file: it can be resolved to a path where there is something that can be read,
with the given bytes, and the suffix stands for the given format, in any case. -/
structure NamesFile (files : FileSystem) (text : String) (path : Path) (format : FileFormat)
    (content : List UInt8) : Prop where
  resolved : files.resolve text = .ok path
  present : files.isThere path = .ok true
  opened : files.contentAt path = .bytes content
  suffix : FileFormat.ofSuffix? (Text.lower path.suffix) = some format

/-- The file that a text names holds a document. -/
def HoldsDocument (files : FileSystem) (loader : Loader) (text : String) (d : Value) : Prop :=
  ∃ path format content, NamesFile files text path format content ∧
    format.read loader content = .ok d

variable {files : FileSystem} {loader : Loader} {text : String} {path : Path} {format : FileFormat}
  {content : List UInt8} {d : Value}

/-- A text names one file at most. -/
theorem NamesFile.unique {path' : Path} {format' : FileFormat} {content' : List UInt8}
    (h : NamesFile files text path format content)
    (h' : NamesFile files text path' format' content') :
    path = path' ∧ format = format' ∧ content = content' := by
  obtain rfl : path = path' := Except.ok.inj (h.resolved.symm.trans h'.resolved)
  have hopened := h.opened.symm.trans h'.opened
  have hsuffix := h.suffix.symm.trans h'.suffix
  simpa using And.intro hsuffix hopened

/-- What a file holds is a value that a document can hold. -/
theorem HoldsDocument.isDocument (h : HoldsDocument files loader text d)
    (hloader : loader.Documented) : IsDocument d := by
  obtain ⟨path, format, content, -, hread⟩ := h
  exact (FileFormat.isDocument_of_read hloader hread).1

/-- A file that holds a document holds a text. -/
theorem HoldsDocument.isText (h : HoldsDocument files loader text d) (hloader : loader.Documented)
    (hpath : files.resolve text = .ok path) (hopened : files.contentAt path = .bytes content) :
    (textOf? content).isSome = true := by
  obtain ⟨path', format, content', hnames, hread⟩ := h
  -- The text leads to one file, so the bytes are those that the document was read from.
  obtain rfl : path = path' := Except.ok.inj (hpath.symm.trans hnames.resolved)
  obtain rfl : content = content' := FileContent.bytes.inj (hopened.symm.trans hnames.opened)
  exact (FileFormat.isDocument_of_read hloader hread).2

theorem exec_loadFile_of_ok (h : documentAt files loader text = .ok d) (s : Session) :
    (loadFile files loader text).exec s = (loadDocument d).exec s := by
  rw [loadFile, h]
  exact Act.exec_bind_of_ok (Act.exec_ofExcept s _) _

theorem exec_loadFile_of_error {f : Failure} (h : documentAt files loader text = .error f)
    (s : Session) : (loadFile files loader text).exec s = (.error f, s) := by
  rw [loadFile, h]
  exact Act.exec_bind_of_error (Act.exec_ofExcept s _) _

/-- The document that a text leads to is that of the file at its path, if there is something. -/
theorem documentAt_of_resolved (h : files.resolve text = .ok path) :
    documentAt files loader text = (do
      if ← (files.isThere path).mapError .fault then fileDocument files loader path
      else .error (.configuration (.missingFile path.text))) := by
  rw [documentAt, h]
  rfl

theorem documentAt_of_present (h : files.resolve text = .ok path)
    (hpresent : files.isThere path = .ok true) :
    documentAt files loader text = fileDocument files loader path := by
  rw [documentAt_of_resolved h, hpresent]
  rfl

/-- The document in a file is the one that its bytes hold. -/
theorem NamesFile.documentAt_eq (h : NamesFile files text path format content) :
    documentAt files loader text = documentIn loader path format content := by
  rw [documentAt_of_present h.resolved h.present, fileDocument, h.opened, h.suffix]

/-- A file is loaded as its document is. -/
theorem HoldsDocument.exec_loadFile (h : HoldsDocument files loader text d) (s : Session) :
    (loadFile files loader text).exec s = (loadDocument d).exec s := by
  obtain ⟨path, format, content, hnames, hread⟩ := h
  refine exec_loadFile_of_ok ?_ s
  rw [hnames.documentAt_eq, documentIn, hread]
  rfl

/-! ## What documents mean -/

theorem exec_loadDocument (d : Value) (s : Session) :
    (loadDocument d).exec s =
      if s.truth d then (load d).exec s else (load (.mapping none [])).exec s := by
  rw [loadDocument, Act.exec_bind_of_ok (Act.exec_truth s d)]
  split <;> rfl

/-- No settings are loaded from an empty mapping, and nothing is warned about. -/
theorem exec_load_empty (mark : Mark) (s : Session) :
    (load (.mapping mark [])).exec s =
      (.ok (.settings s.nextId .null (.mapping none [])), { s with nextId := s.nextId + 1 }) := by
  have hread : ofDocument s.level (.mapping mark []) = .ok ⟨none, []⟩ := rfl
  rw [exec_load_of_ok hread]
  rfl

/-- What is no mapping is refused by its text, if it has one. -/
theorem exec_load_of_not_mapping (h : IsDocument d) (hmapping : d.isMapping = false) (s : Session) :
    (d.holdsLongInteger = false →
      ∃ cause, (load d).exec s = (.error (.configuration (.invalid cause)), s)) ∧
    (d.holdsLongInteger = true → (load d).exec s = (.error (.fault .badValue), s)) := by
  have hread : ofDocument s.level d = offence s.level d "mapping" "settings" := by
    rw [ofDocument, mappingAt_of_not_isMapping hmapping, offence_bind]
  refine ⟨fun hshort => ?_, fun hlong => ?_⟩
  · obtain ⟨cause, hcause⟩ : ∃ cause, (offence s.level d "mapping" "settings" : Except Failure
        Settings) = .error (.configuration (.invalid cause)) := exists_offence h hshort _ _
    exact ⟨cause, exec_load_of_error (hread.trans hcause)⟩
  · exact exec_load_of_error (hread.trans (offence_of_long h hlong _ _))

/-- What is no mapping is not loaded as an empty one is. -/
theorem exec_load_ne_empty (h : IsDocument d) (hmapping : d.isMapping = false) (s : Session) :
    (load d).exec s ≠ (load (.mapping none [])).exec s := by
  rw [exec_load_empty]
  obtain ⟨hshort, hlong⟩ := exec_load_of_not_mapping h hmapping s
  cases hholds : d.holdsLongInteger with
  | false =>
    obtain ⟨cause, hcause⟩ := hshort hholds
    rw [hcause]
    nofun
  | true =>
    rw [hlong hholds]
    nofun

/-- What should be loaded for the document of a file: no settings for the absent value, which is
what an empty file holds. -/
def meant : Value → Value
  | .null => .mapping none []
  | d => d

theorem meant_of_not_null (h : d.isNull = false) : meant d = d := by
  cases d <;> first | rfl | cases h

/-- A mapping is loaded as itself, though an empty one counts as false. -/
theorem exec_loadDocument_mapping (mark : Mark) (entries : Entries) (s : Session) :
    (loadDocument (.mapping mark entries)).exec s = (load (.mapping mark entries)).exec s := by
  rw [exec_loadDocument]
  split
  · rfl
  next hfalse =>
    have hempty : entries = [] := by simpa [Session.truth] using hfalse
    rw [hempty, exec_load_empty, exec_load_empty]

/-- Loading a file that holds a document does what it should exactly if the document is the absent
value or a mapping, or does not count as false. No other document should be loaded: it is refused,
by its text if it has one. Those that count as false are taken for no settings. -/
theorem loadFile_document (hloader : loader.Documented) (h : HoldsDocument files loader text d)
    (s : Session) :
    ((loadFile files loader text).exec s = (load (meant d)).exec s ↔
      d.isNull = true ∨ d.isMapping = true ∨ s.truth d = true) ∧
    (d.isNull = false → d.isMapping = false →
      (d.holdsLongInteger = false →
        ∃ cause, (load (meant d)).exec s = (.error (.configuration (.invalid cause)), s)) ∧
      (d.holdsLongInteger = true → (load (meant d)).exec s = (.error (.fault .badValue), s)) ∧
      (s.truth d = false → (loadFile files loader text).exec s =
        (.ok (.settings s.nextId .null (.mapping none [])), { s with nextId := s.nextId + 1 }))) := by
  have hload := h.exec_loadFile s
  have hdocument := h.isDocument hloader
  have hempty (hfalse : s.truth d = false) :
      (loadFile files loader text).exec s = (load (.mapping none [])).exec s := by
    rw [hload, exec_loadDocument, hfalse, if_neg Bool.false_ne_true]
  refine ⟨⟨fun hsame => ?_, fun hcases => ?_⟩, fun hnull hmapping => ?_⟩
  -- Otherwise the document would be loaded as an empty mapping.
  · by_contra hnot
    simp only [not_or, Bool.not_eq_true] at hnot
    rw [hempty hnot.2.2, meant_of_not_null hnot.1] at hsame
    exact exec_load_ne_empty hdocument hnot.2.1 s hsame.symm
  · rw [hload]
    rcases hcases with hnull | hmapping | htruth
    · cases d <;> cases hnull
      exact exec_loadDocument .null s
    · cases d <;> cases hmapping
      exact exec_loadDocument_mapping _ _ s
    -- What counts as true is not the absent value, so it is meant as it is.
    · have hnull : d.isNull = false := by
        cases d <;> first | rfl | cases htruth
      rw [exec_loadDocument, htruth, meant_of_not_null hnull]
      rfl
  · rw [meant_of_not_null hnull]
    obtain ⟨hshort, hlong⟩ := exec_load_of_not_mapping hdocument hmapping s
    exact ⟨hshort, hlong, fun hfalse => (hempty hfalse).trans (exec_load_empty none s)⟩

/-- A tree with one file, which holds an empty list. -/
def emptyListFile : FileTree := FileTree.empty.put (Path.ofText "/t.json") (.file [0x5b, 0x5d])

/-- The file with an empty list is taken for no settings, though none are loaded from the list. -/
theorem loadFile_document_emptyList :
    Document.Loader.Documented Document.Yaml.read ∧
    HoldsDocument emptyListFile.system Document.Yaml.read "/t.json" (.list none []) ∧
      (loadFile emptyListFile.system Document.Yaml.read "/t.json").exec .initial ≠
        (load (meant (.list none []))).exec .initial := by
  have hholds : HoldsDocument emptyListFile.system Document.Yaml.read "/t.json" (.list none []) :=
    ⟨Path.ofText "/t.json", .json, [0x5b, 0x5d], ⟨rfl, rfl, rfl, rfl⟩, rfl⟩
  refine ⟨Document.Yaml.documented, hholds, fun hsame => ?_⟩
  have hcases := (loadFile_document Document.Yaml.documented hholds .initial).1.1 hsame
  simp [Value.isNull, Value.isMapping, Session.truth] at hcases

/-! ## Failures to find a document -/

/-- The faults that stop the loading of a file without being reported as problems with settings: the
text cannot be resolved, the file system cannot say whether there is something at the path, or a
part of the document has no value. Those of JSON documents are known. -/
inductive Escapes (files : FileSystem) (loader : Loader) (text : String) : Fault → Prop where
  | unresolved {fault : Fault} (h : files.resolve text = .error fault) :
    Escapes files loader text fault
  | untold {path : Path} {fault : Fault} (hpath : files.resolve text = .ok path)
    (h : files.isThere path = .error fault) : Escapes files loader text fault
  | yamlPart {path : Path} {content : List UInt8} {fault : Fault}
    (hfile : NamesFile files text path .yaml content)
    (hread : loader content = .error (.fault fault)) : Escapes files loader text fault
  | jsonPart {path : Path} {content : List UInt8} {fault : Fault}
    (hfile : NamesFile files text path .json content)
    (hread : FileFormat.json.read loader content = .error (.fault fault))
    (hfault : fault ∈ Document.Json.faults) : Escapes files loader text fault

/-- A part without a value escapes from a document in either format. -/
theorem Escapes.part {fault : Fault} (hfile : NamesFile files text path format content)
    (hread : format.read loader content = .error (.fault fault)) :
    Escapes files loader text fault := by
  cases format with
  | yaml => exact .yamlPart hfile hread
  | json =>
    have hends := FileFormat.ends_read_json loader content
    rw [hread] at hends
    exact .jsonPart hfile hread hends

theorem Escapes.exec_loadFile {fault : Fault} (h : Escapes files loader text fault) (s : Session) :
    (loadFile files loader text).exec s = (.error (.fault fault), s) := by
  refine exec_loadFile_of_error ?_ s
  cases h with
  | unresolved h =>
    rw [documentAt, h]
    rfl
  | untold hpath h =>
    rw [documentAt_of_resolved hpath, h]
    rfl
  | yamlPart hfile hread =>
    rw [hfile.documentAt_eq, documentIn, FileFormat.read, hread]
    rfl
  | jsonPart hfile hread =>
    rw [hfile.documentAt_eq, documentIn, hread]
    rfl

/-- No document is found where a fault escapes. -/
theorem Escapes.not_holdsDocument {fault : Fault} (h : Escapes files loader text fault)
    (d : Value) : ¬ HoldsDocument files loader text d := by
  rintro ⟨path, format, content, hnames, hread⟩
  -- Each fault takes away something that the document needs: the path, the file or the reading.
  cases h with
  | unresolved h => cases h.symm.trans hnames.resolved
  | untold hpath h =>
    obtain rfl := Except.ok.inj (hpath.symm.trans hnames.resolved)
    cases h.symm.trans hnames.present
  | yamlPart hfile hfault =>
    obtain ⟨rfl, rfl, rfl⟩ := hfile.unique hnames
    cases hfault.symm.trans hread
  | jsonPart hfile hfault =>
    obtain ⟨rfl, rfl, rfl⟩ := hfile.unique hnames
    cases hfault.symm.trans hread

/-- Loading a file stops with a problem with settings that tells the path to which the text was
resolved, and changes nothing. -/
def ReportsPath (files : FileSystem) (loader : Loader) (text : String) (s : Session) : Prop :=
  ∃ path problem, files.resolve text = .ok path ∧
    (loadFile files loader text).exec s = (.error (.configuration problem), s) ∧
    problem.IsAbout path.text

/-- What is at a path where there is something is a document, or its path is reported, or a fault
escapes. -/
theorem document_or_failure_of_present (hpath : files.resolve text = .ok path)
    (hpresent : files.isThere path = .ok true) (loader : Loader) (s : Session) :
    (∃ d, HoldsDocument files loader text d) ∨ ReportsPath files loader text s ∨
      ∃ fault, Escapes files loader text fault := by
  have hreports (problem : SettingsProblem) (habout : problem.IsAbout path.text)
      (hdocument : fileDocument files loader path = .error (.configuration problem)) :
      ReportsPath files loader text s := by
    refine ⟨path, problem, hpath, exec_loadFile_of_error ?_ s, habout⟩
    rw [documentAt_of_present hpath hpresent, hdocument]
  have hunread := hreports (.unreadableFile path.text) rfl
  have hunsupported (hopened : files.contentAt path ≠ .refused)
      (hsuffix : FileFormat.ofSuffix? (Text.lower path.suffix) = none) :
      ReportsPath files loader text s := by
    refine hreports (.unsupportedFormat (Text.lower path.suffix) path.text) rfl ?_
    cases hcontent : files.contentAt path with
    | refused => exact absurd hcontent hopened
    | _ => rw [fileDocument, hcontent, hsuffix]
  cases hopened : files.contentAt path with
  | refused => exact .inr (.inl (hunread (by rw [fileDocument, hopened])))
  | unreadable =>
    cases hsuffix : FileFormat.ofSuffix? (Text.lower path.suffix) with
    | none => exact .inr (.inl (hunsupported (by rw [hopened]; nofun) hsuffix))
    | some format => exact .inr (.inl (hunread (by rw [fileDocument, hopened, hsuffix])))
  | bytes content =>
    -- The file is opened, so its format comes next and then its bytes.
    cases hsuffix : FileFormat.ofSuffix? (Text.lower path.suffix) with
    | none => exact .inr (.inl (hunsupported (by rw [hopened]; nofun) hsuffix))
    | some format =>
      have hfile : NamesFile files text path format content := ⟨hpath, hpresent, hopened, hsuffix⟩
      cases hread : format.read loader content with
      | ok d => exact .inl ⟨d, path, format, content, hfile, hread⟩
      | error trouble =>
        cases trouble with
        | fault fault => exact .inr (.inr ⟨fault, .part hfile hread⟩)
        | malformed =>
          refine .inr (.inl (hunread ?_))
          rw [fileDocument, hopened, hsuffix]
          dsimp only
          rw [documentIn, hread]
          rfl

/-- A text names a file with a document, or its path is reported, or a fault escapes. -/
theorem document_or_failure (files : FileSystem) (loader : Loader) (text : String) (s : Session) :
    (∃ d, HoldsDocument files loader text d) ∨ ReportsPath files loader text s ∨
      ∃ fault, Escapes files loader text fault := by
  cases hpath : files.resolve text with
  | error fault => exact .inr (.inr ⟨fault, .unresolved hpath⟩)
  | ok path =>
    cases hpresent : files.isThere path with
    | error fault => exact .inr (.inr ⟨fault, .untold hpath hpresent⟩)
    | ok present =>
      cases present with
      | true => exact document_or_failure_of_present hpath hpresent loader s
      | false =>
        have hdocument : documentAt files loader text =
            .error (.configuration (.missingFile path.text)) := by
          rw [documentAt_of_resolved hpath, hpresent]
          rfl
        exact .inr (.inl ⟨path, _, hpath, exec_loadFile_of_error hdocument s, rfl⟩)

/-- Bytes that are no text hold no document. Where no document is found, the path is reported
exactly if no fault escapes, and a fault that escapes stops the loading. -/
theorem loadFile_without_document (hloader : loader.Documented) (files : FileSystem) (text : String)
    (s : Session) :
    (∀ path content, files.resolve text = .ok path → files.contentAt path = .bytes content →
      textOf? content = none → ∀ d, ¬ HoldsDocument files loader text d) ∧
    ((∀ d, ¬ HoldsDocument files loader text d) →
      (ReportsPath files loader text s ↔ ∀ fault, ¬ Escapes files loader text fault) ∧
      ∀ fault, Escapes files loader text fault →
        (loadFile files loader text).exec s = (.error (.fault fault), s)) := by
  refine ⟨fun path content hpath hopened hnone d hd => ?_, fun hnot =>
    ⟨⟨fun hreports fault hescapes => ?_, fun hnone => ?_⟩, fun fault hescapes =>
      hescapes.exec_loadFile s⟩⟩
  · have hsome := hd.isText hloader hpath hopened
    rw [hnone] at hsome
    cases hsome
  -- The same run would end in two ways.
  · obtain ⟨path, problem, -, hproblem, -⟩ := hreports
    rw [hescapes.exec_loadFile s] at hproblem
    cases hproblem
  · rcases document_or_failure files loader text s with ⟨d, hd⟩ | hreports | ⟨fault, hescapes⟩
    · exact absurd hd (hnot d)
    · exact hreports
    · exact absurd hescapes (hnone fault)

/-- The bytes of a document with a day that is in no month. -/
def impossibleDay : List UInt8 := "a: 2021-13-45".toUTF8.toList

/-- A tree with one file, which holds that document. -/
def impossibleDayFile : FileTree := FileTree.empty.put (Path.ofText "/s.yaml") (.file impossibleDay)

theorem read_impossibleDay : Document.Yaml.read impossibleDay = .error (.fault .badValue) := by
  have hfault : (match Document.Yaml.read impossibleDay with
      | .error (.fault .badValue) => true
      | _ => false) = true := by decide +kernel
  split at hfault
  next hread => exact hread
  next => cases hfault

/-- Loading the file with the impossible day stops with a fault, which is no problem with settings.
-/
theorem loadFile_without_document_impossibleDay :
    Document.Loader.Documented Document.Yaml.read ∧
    (∀ d, ¬ HoldsDocument impossibleDayFile.system Document.Yaml.read "/s.yaml" d) ∧
      ¬ ReportsPath impossibleDayFile.system Document.Yaml.read "/s.yaml" .initial ∧
      (loadFile impossibleDayFile.system Document.Yaml.read "/s.yaml").exec .initial =
        (.error (.fault .badValue), .initial) := by
  have hfile : NamesFile impossibleDayFile.system "/s.yaml" (Path.ofText "/s.yaml") .yaml
      impossibleDay := ⟨rfl, rfl, rfl, rfl⟩
  have hescapes : Escapes impossibleDayFile.system Document.Yaml.read "/s.yaml" .badValue :=
    .yamlPart hfile read_impossibleDay
  have hnone := hescapes.not_holdsDocument
  obtain ⟨hiff, hstops⟩ :=
    (loadFile_without_document Document.Yaml.documented impossibleDayFile.system "/s.yaml"
      .initial).2 hnone
  exact ⟨Document.Yaml.documented, hnone, fun hreports => hiff.1 hreports _ hescapes,
    hstops _ hescapes⟩

end Settings

end Conform
