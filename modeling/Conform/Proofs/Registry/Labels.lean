import Conform.Proofs.Registry.History

/-!
# Labels of registered validators

Whatever is found under a text in the process registry is a validator whose name has a text
(`Session.Labelled`), as long as validators are registered without a name or with one that has a
text (`Value.IsDisplayName`).

* `Act.labels_setValidator` and `Act.labels_applySettings`: registrations keep it so.
* `Built.labelled`: it is so in every session that fillings, registrations and settings lead to.
-/

namespace Conform

open Session (processRegistry)

/-- A name that can be given for a validator: none, or one that has a text. -/
def Value.IsDisplayName (name : Value) : Prop :=
  name.isNull = true ∨ ∃ text, name.message .unset = .ok text

/-- A validator whose name has a text. -/
def Value.IsLabelled (item : Value) : Prop :=
  ∃ id label function, item = .validator id label function ∧
    ∃ text, label.message .unset = .ok text

/-- What is found under texts are validators whose names have texts. -/
def Entries.Labelled (entries : Entries) : Prop :=
  ∀ key item, find? entries (.text key) = some item → item.IsLabelled

/-- The process registry holds validators whose names have texts. -/
def Session.Labelled (s : Session) : Prop := ∃ r, s.HasProcess r ∧ r.entries.Labelled

/-! ## Entries -/

/-- The name that a validator gets for a text has a text. -/
theorem Act.exists_label_text {name : Value} (hname : name.IsDisplayName) (key : String) :
    ∃ text, (label (.text key) name).message .unset = .ok text := by
  unfold label
  split_ifs with hnull
  · exact ⟨key, rfl⟩
  · exact hname.resolve_left hnull

/-- Only what is put under a text can be found under one afterwards. -/
theorem Entries.Labelled.put {entries : Entries} (h : entries.Labelled) {key item : Value}
    (hitem : ∀ text, key = .text text → item.IsLabelled) :
    (Entries.put key item entries).Labelled := by
  intro text found hfound
  by_cases hkey : key = .text text
  · subst hkey
    obtain rfl := Option.some.inj ((find?_put_self entries text item).symm.trans hfound)
    exact hitem text rfl
  · rw [find?_put_of_ne_text hkey] at hfound
    exact h text found hfound

/-- The built-in kinds are named by their keys. -/
theorem labelled_builtinEntries (firstId : Nat) :
    Entries.Labelled (Registry.builtinEntries firstId) := by
  intro key item hitem
  have hreflects := reflects_builtinEntries firstId
  cases hbuiltin : Registration.builtin? key with
  | none =>
    rw [hreflects.absent key hbuiltin] at hitem
    cases hitem
  | some r =>
    obtain ⟨found, hfound, id, rfl⟩ := hreflects.found key r hbuiltin
    obtain rfl := Option.some.inj (hfound.symm.trans hitem)
    obtain ⟨routine, -, rfl⟩ := Option.map_eq_some_iff.1 hbuiltin
    exact ⟨id, _, _, rfl, key, rfl⟩

/-! ## Operations -/

namespace Act

variable {α β : Type} {s : Session}

/-- An operation leaves names with texts in the process registry if there were only such before. -/
def Labels (act : Act α) (s : Session) : Prop := s.Labelled → (act.exec s).2.Labelled

theorem Spares.labels {act : Act α} (h : act.Spares s) : act.Labels s := by
  rintro ⟨r, hr, hlabelled⟩
  exact ⟨r, h r hr, hlabelled⟩

namespace Labels

theorem bind {act : Act α} {next : α → Act β} (hact : act.Labels s)
    (hnext : ∀ a s', act.exec s = (.ok a, s') → (next a).Labels s') : (act >>= next).Labels s := by
  intro hs
  have h := hact hs
  rcases hrun : act.exec s with ⟨f | a, s'⟩
  · rw [hrun] at h
    rw [exec_bind_of_error hrun]
    exact h
  · rw [hrun] at h
    rw [exec_bind_of_ok hrun]
    exact hnext a s' hrun h

theorem discard {act : Act α} (h : act.Labels s) : (Functor.discard act).Labels s := by
  intro hs
  rw [snd_exec_discard]
  exact h hs

end Labels

/-- Setting a validator in the process registry gives it a name with a text, under whatever key. -/
theorem labels_setValidator_process (key function : Value) {name : Value}
    (hname : name.IsDisplayName) (s : Session) :
    (setValidator processRegistry key function name).Labels s := by
  rintro ⟨r, hr, hlabelled⟩
  cases hkey : key.isHashable with
  | false =>
    rw [exec_setValidator_of_unhashable processRegistry hkey]
    exact ⟨r, hr, hlabelled⟩
  | true =>
    rw [setValidator_eq, exec_bind_of_ok (exec_newValidator _ _ s),
      exec_bind_of_ok (exec_hasItem processRegistry _ hkey),
      exec_bind_of_ok (exec_register processRegistry hkey (.inl rfl) _)]
    -- The validator is in. What is left is the record of a replacement.
    have hput : (s.registryAt processRegistry).entries.Labelled := by
      rw [hr.registryAt_eq]
      exact hlabelled
    refine Spares.labels ?_ ⟨_, Session.HasProcess.setRegistry hr _, hput.put ?_⟩
    · refine .ite (fun _ => ?_) fun _ => spares_pure _ _
      refine (spares_message _ key).bind fun _ s' _ => ?_
      exact (spares_log s' _ _ _).bind fun _ s'' _ => spares_pure s'' _
    · rintro text rfl
      exact ⟨_, _, _, rfl, exists_label_text hname text⟩

theorem labels_setValidator (id : Nat) (key function : Value) {name : Value}
    (hname : name.IsDisplayName) (s : Session) : (setValidator id key function name).Labels s := by
  by_cases hid : id = processRegistry
  · subst hid
    exact labels_setValidator_process key function hname s
  · exact (spares_setValidator hid s key function name).labels

/-- The name that an entry gives for messages has a text, if it gives one. -/
def NamesWell (entry : Value) : Prop :=
  ∀ name, Entries.field? entry.membersOf "name" = some name → name.IsDisplayName

/-- A declared validator is registered with its display name, in whichever registry. -/
theorem labels_applyValidator (modules : Modules) (registry key : Value) {entry : Value}
    (hentry : NamesWell entry) (s : Session) :
    (applyValidator modules registry key entry).Labels s := by
  have hname : (displayName entry).IsDisplayName := by
    rw [displayName_eq]
    cases hgiven : Entries.field? entry.membersOf "name" with
    | none => exact .inl rfl
    | some name => exact hentry name hgiven
  unfold applyValidator
  refine (spares_ofExcept s _).labels.bind fun path s₁ _ => ?_
  refine (spares_loadFunction modules path s₁).labels.bind fun function s₂ _ => ?_
  refine (spares_ofExcept s₂ _).labels.bind fun id s₃ _ => ?_
  refine (labels_setValidator id key function hname s₃).discard.bind fun _ s₄ _ => ?_
  refine (spares_message s₄ key).labels.bind fun _ s₅ _ => ?_
  exact (spares_message s₅ path).labels.bind fun _ s₆ _ => (spares_log s₆ _ _ _).labels

theorem labels_applyValidators (modules : Modules) (registry : Value) {entries : Entries}
    (hnames : ∀ entry ∈ entries, NamesWell entry.2) (s : Session) :
    (applyValidators modules registry entries).Labels s := by
  induction entries generalizing s with
  | nil => exact (spares_pure s ()).labels
  | cons entry rest ih =>
    have hrest : ∀ entry ∈ rest, NamesWell entry.2 :=
      fun entry hentry => hnames entry (List.mem_cons_of_mem _ hentry)
    exact (labels_applyValidator modules registry entry.1 (hnames entry List.mem_cons_self) s).bind
      fun _ s' _ => ih hrest s'

/-- Applying settings registers what they declare, also where a function cannot be loaded. -/
theorem labels_applySettings (modules : Modules) {settings : Value} (registry : Value)
    (hnames : ∀ entries, declaredEntries s settings = .ok entries →
      ∀ entry ∈ entries, NamesWell entry.2) :
    (applySettings modules settings registry).Labels s := by
  unfold applySettings
  refine (spares_configure .null settings s).discard.labels.bind fun _ s₁ hs₁ => ?_
  -- Setting the level leaves the registries, so the settings declare the same as before.
  have hregistries : s₁.registries = s.registries := by
    obtain ⟨answer, level, hconfigure⟩ := exec_configure .null settings s
    have hleft := snd_exec_discard s (Logging.configure .null settings)
    rw [hs₁, hconfigure] at hleft
    obtain rfl : s₁ = { s with level } := hleft
    rfl
  refine (spares_get s₁).labels.bind fun t s₂ hs₂ => ?_
  obtain ⟨ht, rfl⟩ := Prod.mk.inj hs₂
  obtain rfl := Except.ok.inj ht
  refine (spares_ofExcept s₁ _).labels.bind fun entries s₃ hs₃ => ?_
  rw [exec_ofExcept, declaredEntries_of_registries hregistries] at hs₃
  have hentries := hnames entries (Prod.mk.inj hs₃).1
  exact (labels_applyValidators modules _ hentries s₃).bind
    fun _ s₄ _ => (spares_pure s₄ _).labels

end Act

/-! ## Sessions -/

/-- The sessions that lead from one whose process registry has been filled with the built-in kinds,
by setting validators in it and by applying settings, if the names that are given have texts.
Whatever else happens leaves the process registry as it is. -/
inductive Built (modules : Modules) : Session → Prop where
  | seeded {s : Session} {r : Registry} (h : s.HasProcess r) :
    Built modules ((Act.seedRegistry processRegistry).exec s).2
  | setValidator {s : Session} (h : Built modules s) (key function : Value) {name : Value}
    (hname : name.IsDisplayName) :
    Built modules ((Act.setValidator processRegistry key function name).exec s).2
  | applySettings {s : Session} (h : Built modules s) {settings : Value} (registry : Value)
    (hnames : ∀ entries, Act.declaredEntries s settings = .ok entries →
      ∀ entry ∈ entries, Act.NamesWell entry.2) :
    Built modules ((Act.applySettings modules settings registry).exec s).2
  | elsewhere {s s' : Session} (h : Built modules s) (hkept : ∀ r, s.HasProcess r → s'.HasProcess r) :
    Built modules s'

/-- The session in which nothing has happened is the one that the first filling leaves. -/
theorem Built.initial (modules : Modules) : Built modules .initial :=
  .seeded (s := { registries := [.empty (.text "validators")] }) rfl

/-- Validators of the process registry have names with texts. -/
theorem Built.labelled {modules : Modules} {s : Session} (h : Built modules s) : s.Labelled := by
  induction h with
  | @seeded s r h =>
    exact ⟨_, h.setRegistry _, labelled_builtinEntries s.nextId⟩
  | @setValidator s _ key function name hname ih =>
    exact Act.labels_setValidator_process key function hname s ih
  | applySettings _ registry hnames ih => exact Act.labels_applySettings modules registry hnames ih
  | elsewhere _ hkept ih =>
    obtain ⟨r, hr, hlabelled⟩ := ih
    exact ⟨r, hkept r hr, hlabelled⟩

/-- What is found under a text is a validator whose name has a text. -/
theorem Session.Labelled.of_find? {s : Session} (h : s.Labelled) {key : String} {item : Value}
    (hitem : Entries.find? (s.registryAt processRegistry).entries (.text key) = some item) :
    item.IsLabelled := by
  obtain ⟨r, hr, hlabelled⟩ := h
  rw [hr.registryAt_eq] at hitem
  exact hlabelled key item hitem

end Conform
