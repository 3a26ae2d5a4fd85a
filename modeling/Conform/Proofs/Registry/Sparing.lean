import Conform.Check
import Conform.Proofs.Check.Agreement
import Conform.Settings.Application

/-!
# Operations that spare the process registry

An operation spares the process registry in a session if the registry holds afterwards what it held
before (`Act.Spares`), whether the operation succeeds or not. An operation made of such operations
is one (`Act.Spares.bind`).

* `Act.spares_check` and `Act.spares_checkType`: checks spare it if the callables that they call do.
* `Act.spares_register`, `Act.spares_setValidator` and so on: so do the operations on other
  registries, and settings that are applied to one (`Act.spares_applySettings`).
-/

namespace Conform

namespace Session

variable {s : Session} {r r' : Registry}

/-- What the process registry of a session holds. -/
def HasProcess (s : Session) (r : Registry) : Prop := s.registries[processRegistry]? = some r

theorem HasProcess.registryAt_eq (h : s.HasProcess r) : s.registryAt processRegistry = r := by
  unfold registryAt
  rw [h]
  rfl

theorem HasProcess.setRegistry (h : s.HasProcess r) (r' : Registry) :
    (s.setRegistry processRegistry r').HasProcess r' := by
  obtain ⟨hlt, -⟩ := List.getElem?_eq_some_iff.1 h
  exact List.getElem?_set_self hlt

theorem HasProcess.setRegistry_of_ne (h : s.HasProcess r) {id : Nat} (hid : id ≠ processRegistry)
    (r' : Registry) : (s.setRegistry id r').HasProcess r :=
  (List.getElem?_set_ne hid).trans h

end Session

namespace Act

variable {α β : Type} {s : Session} {host : Host}

/-- An operation leaves in the process registry what it holds in a session. -/
def Spares (act : Act α) (s : Session) : Prop :=
  ∀ r, s.HasProcess r → (act.exec s).2.HasProcess r

namespace Spares

theorem of_registries {act : Act α} (h : (act.exec s).2.registries = s.registries) :
    act.Spares s := by
  intro r hr
  unfold Session.HasProcess
  rw [h]
  exact hr

theorem of_exec {act : Act α} {answer : Except Failure α} (h : act.exec s = (answer, s)) :
    act.Spares s := .of_registries (by rw [h])

/-- An operation that is followed by another spares the registry if both do. -/
theorem bind {act : Act α} {next : α → Act β} (hact : act.Spares s)
    (hnext : ∀ a s', act.exec s = (.ok a, s') → (next a).Spares s') : (act >>= next).Spares s := by
  intro r hr
  have h := hact r hr
  rcases hrun : act.exec s with ⟨f | a, s'⟩
  · rw [hrun] at h
    rw [exec_bind_of_error hrun]
    exact h
  · rw [hrun] at h
    rw [exec_bind_of_ok hrun]
    exact hnext a s' hrun r h

/-- Leaving out an answer changes nothing about the registry. -/
theorem discard {act : Act α} (h : act.Spares s) : (Functor.discard act).Spares s := by
  intro r hr
  rw [snd_exec_discard]
  exact h r hr

theorem ite {c : Prop} [Decidable c] {act act' : Act α} (h : c → act.Spares s)
    (h' : ¬ c → act'.Spares s) : (if c then act else act').Spares s := by
  split_ifs with hc
  · exact h hc
  · exact h' hc

end Spares

section Operations

variable (s)

theorem spares_pure (a : α) : (pure a : Act α).Spares s := .of_exec rfl

theorem spares_fail (f : Failure) : (fail f : Act α).Spares s := .of_exec rfl

theorem spares_fault (f : Fault) : (fault f : Act α).Spares s := .of_exec rfl

theorem spares_get : (get : Act Session).Spares s := .of_exec rfl

theorem spares_truth (v : Value) : (truth v).Spares s := .of_exec rfl

theorem spares_registryAt (id : Nat) : (registryAt id).Spares s := .of_exec rfl

theorem spares_ofExcept (answer : Except Failure α) : (ofExcept answer).Spares s :=
  .of_exec (exec_ofExcept s answer)

theorem spares_ofText (made : Except TextFailure α) : (ofText made).Spares s :=
  .of_exec (exec_ofText s made)

theorem spares_message (v : Value) : (message v).Spares s := .of_exec (exec_message s v)

theorem spares_mention (v : Value) : (mention v).Spares s := .of_exec (exec_mention s v)

theorem spares_shown (v : Value) : (shown v).Spares s := spares_ofText s v.shown

theorem spares_warn (text : String) : (warn text).Spares s := .of_registries rfl

theorem spares_log (channel : Channel) (severity : Severity) (text : String) :
    (log channel severity text).Spares s := .of_registries rfl

theorem spares_fresh : fresh.Spares s := .of_registries rfl

/-- Setting another registry spares the process registry. -/
theorem spares_setRegistry {id : Nat} (hid : id ≠ Session.processRegistry) (r : Registry) :
    (setRegistry id r).Spares s := fun _ h => h.setRegistry_of_ne hid r

end Operations

/-! ## Checks -/

theorem spares_namePrefix (name : Value) (s : Session) : (Message.namePrefix name).Spares s := by
  unfold Message.namePrefix
  refine (spares_truth s name).bind fun _ s' _ => ?_
  exact .ite (fun _ => (spares_message s' name).bind fun _ s'' _ => spares_pure s'' _)
    fun _ => spares_pure s' _

theorem spares_rejection (value expected name : Value) (s : Session) :
    (Message.rejection value expected name).Spares s := by
  unfold Message.rejection
  refine (spares_namePrefix name s).bind fun _ s₁ _ => ?_
  refine (spares_message s₁ expected).bind fun _ s₂ _ => ?_
  exact (spares_mention s₂ value).bind fun _ s₃ _ => spares_pure s₃ _

theorem spares_reject (value expected name : Value) (s : Session) :
    (reject value expected name : Act α).Spares s :=
  (spares_rejection value expected name s).bind fun _ s' _ => spares_fail s' _

theorem spares_takeNote (host : Host) (s : Session) : (Logging.takeNote host).Spares s :=
  .of_registries (by rw [exec_takeNote])

/-- Sending a warning spares the process registry if making its text does. -/
theorem spares_emitWarning {text : Act String} (htext : text.Spares s) (host : Host) :
    (Logging.emitWarning host text).Spares s := by
  have hattempt : (attempt text).Spares s := fun r hr => htext r hr
  unfold Logging.emitWarning
  refine (spares_get s).bind fun t s₁ hs₁ => ?_
  obtain rfl := (Prod.mk.inj hs₁).2
  refine .ite (fun _ => ?_) fun _ => spares_pure _ _
  refine hattempt.bind fun written s₂ _ => ?_
  cases written with
  | error _ => exact spares_takeNote host s₂
  | ok sentence =>
    refine (spares_log s₂ _ _ _).bind fun _ s₃ _ => ?_
    exact .ite (fun _ => spares_takeNote host s₃) fun _ => spares_pure s₃ _

theorem spares_tell (style : Style) (v : Value) (s : Session) : (Logging.tell style v).Spares s :=
  .of_registries (by rw [exec_tell])

theorem spares_substitutionText (before : String) (raw given substitute : Value) (s : Session) :
    (substitutionText before raw given substitute).Spares s := by
  unfold substitutionText
  refine (spares_tell _ raw s).bind fun _ s₁ _ => ?_
  refine (spares_tell _ given s₁).bind fun _ s₂ _ => ?_
  exact (spares_tell _ substitute s₂).bind fun _ s₃ _ => spares_pure s₃ _

/-- Calls of a value on the given arguments spare the process registry. -/
def Quiet (host : Host) (callee : Value) (arguments : List Value) : Prop :=
  ∀ s, (call host callee arguments).Spares s

/-- Asking whether a value is there spares the process registry. -/
theorem quiet_isPresent (host : Host) (value : Value) :
    Quiet host (.routine .isPresent) [value] := fun _ => .of_exec rfl

theorem spares_resolveDefault {default value : Value} (h : Quiet host default [value])
    (s : Session) : (resolveDefault host default value).Spares s := by
  unfold resolveDefault
  exact .ite (fun _ => h s) fun _ => spares_pure s _

/-- A check spares the process registry if the callables that it calls do. -/
theorem spares_check {value validator expected name default warnIf : Value}
    (hvalidator : Quiet host validator [value]) (hdefault : Quiet host default [value])
    (hwarnIf : Quiet host warnIf [value]) (s : Session) :
    (check host value validator expected name default warnIf).Spares s := by
  unfold check
  refine (hvalidator s).bind fun answer s₁ _ => ?_
  refine (spares_truth s₁ answer).bind fun valid s₂ _ => ?_
  refine .ite (fun _ => spares_pure s₂ _) fun _ => ?_
  refine (spares_truth s₂ default).bind fun given s₃ _ => ?_
  refine .ite (fun _ => ?_) fun _ => spares_reject value expected name s₃
  refine (spares_resolveDefault hdefault s₃).bind fun substitute s₄ _ => ?_
  refine (spares_truth s₄ warnIf).bind fun ruled s₅ _ => ?_
  -- Whichever rule is asked, it spares the registry.
  have hrule : Quiet host (if ruled = true then warnIf else .routine .isPresent) [value] := by
    split_ifs
    · exact hwarnIf
    · exact quiet_isPresent host value
  refine (hrule s₅).bind fun verdict s₆ _ => ?_
  refine (spares_truth s₆ verdict).bind fun warned s₇ _ => ?_
  refine .ite (fun _ => ?_) fun _ => spares_pure s₇ _
  refine (spares_rejection value expected name s₇).bind fun sentence s₈ _ => ?_
  exact (spares_emitWarning (spares_pure s₈ sentence) host).bind fun _ s₉ _ => spares_pure s₉ _

/-- A refusal of a registry becomes a failure and changes nothing. -/
theorem exec_answerOf_error (r : Registry) (key : Value) (refusal : Registry.Refusal)
    (s : Session) :
    ∃ f, (answerOf r key (.error refusal) : Act α).exec s = (.error f, s) := by
  have htext (v : Value) :
      (∃ f, (message v).exec s = (.error f, s)) ∨ ∃ text, (message v).exec s = (.ok text, s) := by
    rw [exec_message]
    cases v.message s.level with
    | ok text => exact .inr ⟨text, rfl⟩
    | error e => exact .inl ⟨.ofText e, rfl⟩
  cases refusal with
  | unusableKey => exact ⟨_, rfl⟩
  | absent =>
    unfold answerOf
    rcases htext key with ⟨f, hf⟩ | ⟨keyText, hkeyText⟩
    · exact ⟨f, exec_bind_of_error hf _⟩
    · exact ⟨_, exec_bind_of_ok hkeyText _⟩
  | taken =>
    unfold answerOf
    rcases htext key with ⟨f, hf⟩ | ⟨keyText, hkeyText⟩
    · exact ⟨f, exec_bind_of_error hf _⟩
    rw [exec_bind_of_ok hkeyText]
    rcases htext r.name with ⟨f, hf⟩ | ⟨registryText, hregistryText⟩
    · exact ⟨f, exec_bind_of_error hf _⟩
    · exact ⟨_, exec_bind_of_ok hregistryText _⟩

/-- The answer of a registry is passed on without a change to the session. -/
theorem spares_answerOf (r : Registry) (key : Value) (answer : Except Registry.Refusal α)
    (s : Session) : (answerOf r key answer).Spares s := by
  cases answer with
  | ok a => exact spares_pure s a
  | error refusal =>
    obtain ⟨f, hf⟩ := exec_answerOf_error (α := α) r key refusal s
    exact .of_exec hf

/-- An item that is found is the one that the registry holds. -/
theorem getOptional_of_exec {id : Nat} {key item : Value} {s' : Session}
    (h : (getOptionalItem id key).exec s = (.ok item, s')) :
    (s.registryAt id).getOptional key = .ok item ∧ s' = s := by
  rw [getOptionalItem, exec_bind_of_ok (exec_registryAt s id)] at h
  cases hanswer : (s.registryAt id).getOptional key with
  | ok found =>
    rw [hanswer] at h
    obtain ⟨hfound, hs⟩ := Prod.mk.inj h
    exact ⟨congrArg _ (Except.ok.inj hfound), hs.symm⟩
  | error refusal =>
    obtain ⟨f, hf⟩ := exec_answerOf_error (α := Value) (s.registryAt id) key refusal s
    rw [hanswer, hf] at h
    cases h

theorem spares_getOptionalItem (id : Nat) (key : Value) (s : Session) :
    (getOptionalItem id key).Spares s :=
  (spares_registryAt s id).bind fun r s' _ => spares_answerOf r key _ s'

/-- The callables that a type argument leads to in a session spare the process registry: the
validator that is held under a key, or a predicate. -/
def QuietType (host : Host) (s : Session) (type : Value) (arguments : List Value) : Prop :=
  match TypeSpec.ofValue type with
  | ⟨.key, key⟩ =>
    ∀ item, (s.registryAt Session.processRegistry).getOptional key = .ok item →
      Quiet host item arguments
  | ⟨.predicate, predicate⟩ => Quiet host predicate arguments
  | _ => True

theorem spares_decideType {type value : Value} (h : QuietType host s type [value]) :
    (decideType host (TypeSpec.ofValue type) value).Spares s := by
  unfold decideType
  unfold QuietType at h
  -- The text of the argument is asked for first, which leaves the session in which `h` holds.
  refine (spares_message s _).bind fun text s₁ hs₁ => ?_
  obtain rfl : s = s₁ := by
    rw [exec_message] at hs₁
    exact (Prod.mk.inj hs₁).2
  generalize TypeSpec.ofValue type = spec at h ⊢
  obtain ⟨kind, raw⟩ := spec
  cases kind with
  | cls =>
    refine (spares_ofExcept s _).bind fun valid s₂ _ => ?_
    refine (spares_ofText s₂ raw.ownName).bind fun ownName s₃ _ => ?_
    cases ownName with
    | none => exact spares_fault s₃ _
    | some name => exact (spares_message s₃ name).bind fun _ s₄ _ => spares_pure s₄ _
  | key =>
    refine (spares_getOptionalItem _ raw s).bind fun item s₂ hs₂ => ?_
    -- What is called is the item found in that session.
    obtain ⟨hitem, rfl⟩ := getOptional_of_exec hs₂
    refine .ite (fun _ => spares_pure s₂ _) fun _ => ?_
    refine (h item hitem s₂).bind fun answer s₃ _ => ?_
    cases item with
    | validator id name function =>
      exact (spares_truth s₃ answer).bind fun _ s₄ _ => spares_pure s₄ _
    | _ => exact spares_fault s₃ _
  | predicate =>
    refine (h s).bind fun answer s₂ _ => ?_
    refine (spares_truth s₂ answer).bind fun _ s₃ _ => ?_
    exact (spares_mention s₃ raw).bind fun _ s₄ _ => spares_pure s₄ _
  | unsupported => exact spares_pure s _

/-- A type check spares the process registry if the callables that it calls do. -/
theorem spares_checkType {value type name warnIf : Value} {default : Option Value}
    (htype : QuietType host s type [value])
    (hdefault : ∀ d, default = some d → Quiet host d [value])
    (hwarnIf : Quiet host warnIf [value]) :
    (checkType host value type name default warnIf).Spares s := by
  unfold checkType
  -- The note changes no registry, so the argument leads to the same callables after it.
  refine (spares_warn s _).bind fun _ s₁ hs₁ => ?_
  obtain rfl := (Prod.mk.inj hs₁).2
  have hnoted : QuietType host { s with warnings := s.warnings ++ [deprecationNote] } type
    [value] := htype
  dsimp only
  refine (spares_decideType hnoted).bind fun decision s₂ _ => ?_
  match decision with
  | none => exact spares_pure s₂ _
  | some (true, _) => exact spares_pure s₂ _
  | some (false, expected) =>
    cases default with
    | none => exact spares_reject value expected name s₂
    | some d =>
      refine (spares_resolveDefault (hdefault d rfl) s₂).bind fun substitute s₃ _ => ?_
      refine (hwarnIf s₃).bind fun verdict s₄ _ => ?_
      refine (spares_truth s₄ verdict).bind fun warned s₅ _ => ?_
      refine .ite (fun _ => ?_) fun _ => spares_pure s₅ _
      refine (spares_namePrefix name s₅).bind fun before s₆ _ => ?_
      refine (spares_shown s₆ value).bind fun given s₇ _ => ?_
      have htext := spares_substitutionText before (TypeSpec.ofValue type).raw given substitute s₇
      exact (spares_emitWarning htext host).bind fun _ s₈ _ => spares_pure s₈ _

/-! ## Other registries -/

theorem spares_getItem (id : Nat) (key : Value) (s : Session) : (getItem id key).Spares s :=
  (spares_registryAt s id).bind fun _ s' _ => spares_answerOf _ key _ s'

theorem spares_hasItem (id : Nat) (key : Value) (s : Session) : (hasItem id key).Spares s :=
  (spares_registryAt s id).bind fun _ s' _ => spares_answerOf _ key _ s'

/-- A new registry has a place of its own. -/
theorem spares_newRegistry (name : Value) (s : Session) : (newRegistry name).Spares s := by
  intro r hr
  obtain ⟨hlt, -⟩ := List.getElem?_eq_some_iff.1 hr
  exact (List.getElem?_append_left hlt).trans hr

section Other

variable {id : Nat} (hid : id ≠ Session.processRegistry) (s : Session)

include hid

theorem spares_clearRegistry : (clearRegistry id).Spares s :=
  (spares_registryAt s id).bind fun _ s' _ => spares_setRegistry s' hid _

theorem spares_seedRegistry : (seedRegistry id).Spares s :=
  fun _ hr => hr.setRegistry_of_ne hid _

theorem spares_register (key item overwrite : Value) :
    (register id key item overwrite).Spares s := by
  unfold register
  refine (spares_registryAt s id).bind fun r s₁ _ => ?_
  refine (spares_truth s₁ overwrite).bind fun _ s₂ _ => ?_
  exact (spares_answerOf r key _ s₂).bind fun _ s₃ _ => spares_setRegistry s₃ hid _

/-- Setting a validator in another registry spares the process registry. -/
theorem spares_setValidator (key function name : Value) :
    (setValidator id key function name).Spares s := by
  unfold setValidator newValidator
  refine Spares.bind ((spares_fresh s).bind fun _ s₁ _ => spares_pure s₁ _) fun item s₂ _ => ?_
  refine (spares_hasItem id key s₂).bind fun replaced s₃ _ => ?_
  refine (spares_register hid s₃ key item _).bind fun _ s₄ _ => ?_
  refine .ite (fun _ => ?_) fun _ => spares_pure s₄ _
  refine (spares_message s₄ key).bind fun _ s₅ _ => ?_
  exact (spares_log s₅ _ _ _).bind fun _ s₆ _ => spares_pure s₆ _

end Other

/-- A new registry of validators has a place of its own, where it is filled. -/
theorem spares_newValidatorRegistry (name seed : Value) (s : Session) :
    (newValidatorRegistry name seed).Spares s := by
  intro r hr
  obtain ⟨hlt, -⟩ := List.getElem?_eq_some_iff.1 hr
  have hid : s.registries.length ≠ Session.processRegistry := by
    unfold Session.processRegistry at hlt ⊢
    omega
  -- The place is the one after all that exist, so it is not that of the process registry.
  refine Spares.bind (spares_newRegistry name s) (fun id s₁ hs₁ => ?_) r hr
  obtain rfl : s.registries.length = id := Except.ok.inj (Prod.mk.inj hs₁).1
  refine (spares_truth s₁ seed).bind fun _ s₂ _ => ?_
  refine .ite (fun _ => ?_) fun _ => spares_pure s₂ _
  exact (spares_seedRegistry hid s₂).bind fun _ s₃ _ => spares_pure s₃ _

/-! ## Settings -/

/-- Setting the level of the validation channel changes nothing but the level. -/
theorem exec_configure (wanted settings : Value) (s : Session) :
    ∃ answer level, (Logging.configure wanted settings).exec s = (answer, { s with level }) := by
  unfold Logging.configure
  dsimp only
  generalize (if wanted.isNull then Logging.levelIn settings else wanted) = wanted
  cases hnull : wanted.isNull with
  | true => exact ⟨.ok .channel, s.level, rfl⟩
  | false =>
    simp only [Bool.not_false, if_true]
    rw [exec_bind_of_ok (exec_get s)]
    cases hlevel : Logging.levelOf s.level wanted with
    | error f => exact ⟨.error f, s.level, exec_bind_of_error (exec_ofExcept s _) _⟩
    | ok level =>
      refine ⟨.ok .channel, level, ?_⟩
      rw [exec_bind_of_ok (exec_ofExcept s (.ok level)), exec_bind_of_ok (exec_modify s _)]
      rfl

theorem spares_configure (wanted settings : Value) (s : Session) :
    (Logging.configure wanted settings).Spares s := by
  obtain ⟨answer, level, h⟩ := exec_configure wanted settings s
  exact .of_registries (by rw [h])

theorem spares_loadFunction (modules : Modules) (path : Value) (s : Session) :
    (loadFunction modules path).Spares s := by
  unfold loadFunction
  split
  · split
    · exact spares_ofExcept s _
    · exact spares_fail s _
  · refine (spares_get s).bind fun t s₁ _ => ?_
    refine (spares_ofExcept s₁ _).bind fun _ s₂ _ => ?_
    refine .ite (fun _ => spares_fault s₂ _) fun _ => ?_
    exact (spares_message s₂ path).bind fun _ s₃ _ => spares_fail s₃ _

/-- A declared validator that is set in another registry, if in any, spares the process
registry. -/
theorem spares_applyValidator {registry : Value}
    (h : ∀ id, validatorRegistry registry = .ok id → id ≠ Session.processRegistry)
    (modules : Modules) (key entry : Value) (s : Session) :
    (applyValidator modules registry key entry).Spares s := by
  unfold applyValidator
  refine (spares_ofExcept s _).bind fun path s₁ _ => ?_
  refine (spares_loadFunction modules path s₁).bind fun function s₂ _ => ?_
  refine (spares_ofExcept s₂ _).bind fun id s₃ hs₃ => ?_
  -- The place of the registry is known once the answer is.
  have hid : id ≠ Session.processRegistry := by
    rw [exec_ofExcept] at hs₃
    exact h id (Prod.mk.inj hs₃).1
  refine (spares_setValidator hid s₃ key function _).discard.bind fun _ s₄ _ => ?_
  refine (spares_message s₄ key).bind fun _ s₅ _ => ?_
  exact (spares_message s₅ path).bind fun _ s₆ _ => spares_log s₆ _ _ _

theorem spares_applyValidators {registry : Value}
    (h : ∀ id, validatorRegistry registry = .ok id → id ≠ Session.processRegistry)
    (modules : Modules) (entries : Entries) (s : Session) :
    (applyValidators modules registry entries).Spares s := by
  induction entries generalizing s with
  | nil => exact spares_pure s ()
  | cons entry rest ih =>
    obtain ⟨key, entry⟩ := entry
    exact (spares_applyValidator h modules key entry s).bind fun _ s₁ _ => ih s₁

/-- Settings that are applied to another registry, if to any, spare the process registry. -/
theorem spares_applySettings {registry : Value} (hgiven : registry.isNull = false)
    (h : ∀ id, validatorRegistry registry = .ok id → id ≠ Session.processRegistry)
    (modules : Modules) (settings : Value) (s : Session) :
    (applySettings modules settings registry).Spares s := by
  unfold applySettings
  simp only [hgiven]
  refine (spares_configure .null settings s).discard.bind fun _ s₁ _ => ?_
  refine (spares_get s₁).bind fun t s₂ _ => ?_
  refine (spares_ofExcept s₂ _).bind fun entries s₃ _ => ?_
  exact (spares_applyValidators h modules entries s₃).bind fun _ s₄ _ => spares_pure s₄ _

end Act

end Conform
