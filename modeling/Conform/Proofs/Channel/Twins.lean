import Conform.Proofs.Registry.Sparing
import Conform.Proofs.Value.Channel

/-!
# Sessions that differ in their channel

Two sessions are twins (`Twins`) if they agree in everything but the level of the validation
channel, whether a handler on it fails, the log records, and the values that the channel asked for
their texts. An operation runs in parallel on them (`Act.Parallel`) if it gives the same answer on
both and leaves twins. An operation made of such operations is one (`Act.Parallel.bind`).

* `Act.parallel_check` and `Act.parallel_checkType`: checks run in parallel if the callables that
  they call do (`Act.Discreet`).
* `Act.parallel_register`, `Act.parallel_setValidator` and so on: so do the operations on
  registries.

The text of the channel shows its level, so the values whose texts can come into an answer must be
neutral between the two levels. The text of a warning need not be the same: it comes into no answer.
A note about a warning that could not be sent must not fail, since it is taken on one side only.
-/

namespace Conform

variable {level level' : Threshold}

/-! ## Registries without the channel -/

theorem Entries.mem_put {key item : Value} {entry : Value × Value} {entries : Entries}
    (h : entry ∈ put key item entries) : entry ∈ entries ∨ entry.2 = item := by
  induction entries with
  | nil =>
    obtain rfl := List.mem_singleton.1 h
    exact .inr rfl
  | cons first rest ih =>
    rw [put] at h
    split_ifs at h
    · rcases List.mem_cons.1 h with rfl | hrest
      · exact .inr rfl
      · exact .inl (List.mem_cons_of_mem first hrest)
    · rcases List.mem_cons.1 h with rfl | hrest
      · exact .inl List.mem_cons_self
      · exact (ih hrest).imp_left (List.mem_cons_of_mem first)

/-- The names that messages tell of an item: that of a validator. -/
def Value.toldNames : Value → List Value
  | .validator _ name _ => [name]
  | _ => []

namespace Registry

/-- A registry is neutral between two levels of the channel if its name and the names of its
validators are. -/
structure Neutral (level level' : Threshold) (r : Registry) : Prop where
  /-- The name is neutral. -/
  name : r.name.Neutral level level'
  /-- The name of every validator is neutral. -/
  items : ∀ entry ∈ r.entries, ∀ name ∈ entry.2.toldNames, name.Neutral level level'

theorem Neutral.put {r : Registry} (h : r.Neutral level level') (key : Value) {item : Value}
    (hitem : ∀ name ∈ item.toldNames, name.Neutral level level') :
    Neutral level level' { r with entries := Entries.put key item r.entries } := by
  refine ⟨h.name, fun entry hentry => ?_⟩
  rcases Entries.mem_put hentry with hold | hnew
  · exact h.items entry hold
  · rw [hnew]
    exact hitem

theorem Neutral.clear {r : Registry} (h : r.Neutral level level') : r.clear.Neutral level level' :=
  ⟨h.name, fun _ hentry => absurd hentry List.not_mem_nil⟩

/-- A registry may be filled with the built-in kinds. -/
theorem Neutral.builtin {r : Registry} (h : r.Neutral level level') (firstId : Nat) :
    Neutral level level' { r with entries := builtinEntries firstId } := by
  refine ⟨h.name, fun entry hentry name hname => .inr ?_⟩
  obtain ⟨⟨⟨key, routine⟩, i⟩, -, rfl⟩ := List.mem_map.1 hentry
  obtain rfl := List.mem_singleton.1 hname
  rfl

theorem Neutral.register {r r' : Registry} (h : r.Neutral level level') {key item : Value}
    {overwrite : Bool} (hitem : ∀ name ∈ item.toldNames, name.Neutral level level')
    (hr' : r.register key item overwrite = .ok r') : r'.Neutral level level' := by
  unfold Registry.register at hr'
  split_ifs at hr'
  obtain rfl := Except.ok.inj hr'
  exact h.put key hitem

theorem neutral_empty {name : Value} (h : name.Neutral level level') :
    (empty name).Neutral level level' :=
  ⟨h, fun _ hentry => absurd hentry List.not_mem_nil⟩

/-- What a neutral registry holds under a key has a neutral name, if any. -/
theorem Neutral.getOptional {r : Registry} (h : r.Neutral level level') {key item : Value}
    (hitem : r.getOptional key = .ok item) :
    ∀ name ∈ item.toldNames, name.Neutral level level' := by
  unfold Registry.getOptional at hitem
  split_ifs at hitem
  obtain rfl := Except.ok.inj hitem
  cases hfind : Entries.find? r.entries key with
  | none => exact fun name hname => absurd hname List.not_mem_nil
  | some found =>
    obtain ⟨entry, hentry, rfl⟩ := Option.map_eq_some_iff.1 hfind
    exact h.items entry (List.mem_of_find?_eq_some hentry)

end Registry

/-! ## Twins -/

/-- Two sessions that agree in everything but the channel, whose levels are the given ones: the
levels, whether a handler fails, the log records and the values that were asked for their texts may
differ. The registries are neutral between the levels. -/
structure Twins (level level' : Threshold) (s t : Session) : Prop where
  /-- The level of the first session. -/
  level_left : s.level = level
  /-- The level of the second session. -/
  level_right : t.level = level'
  /-- The registries agree. -/
  registries : t.registries = s.registries
  /-- The calls of the host's callables agree. -/
  calls : t.calls = s.calls
  /-- The deprecation warnings agree. -/
  warnings : t.warnings = s.warnings
  /-- The next identity agrees. -/
  nextId : t.nextId = s.nextId
  /-- The registries are neutral. -/
  neutral : ∀ r ∈ s.registries, r.Neutral level level'

namespace Twins

variable {s t : Session}

theorem registryAt_eq (h : Twins level level' s t) (id : Nat) :
    t.registryAt id = s.registryAt id := by
  unfold Session.registryAt
  rw [h.registries]

theorem neutral_registryAt (h : Twins level level' s t) (id : Nat) :
    (s.registryAt id).Neutral level level' := by
  unfold Session.registryAt
  cases hregistry : s.registries[id]? with
  | none => exact Registry.neutral_empty (.inr rfl)
  | some r => exact h.neutral r (List.mem_of_getElem? hregistry)

/-- Whether a value counts as true may depend on what a registry holds, but not on the channel. -/
theorem truth_eq (h : Twins level level' s t) (v : Value) : t.truth v = s.truth v := by
  cases v with
  | registry id kind => simp only [Session.truth, h.registryAt_eq]
  | _ => rfl

theorem setRegistry (h : Twins level level' s t) (id : Nat) {r : Registry}
    (hr : r.Neutral level level') : Twins level level' (s.setRegistry id r) (t.setRegistry id r) where
  level_left := h.level_left
  level_right := h.level_right
  registries := congrArg (List.set · id r) h.registries
  calls := h.calls
  warnings := h.warnings
  nextId := h.nextId
  neutral := fun r' hr' => by
    rcases List.mem_or_eq_of_mem_set hr' with hold | rfl
    · exact h.neutral r' hold
    · exact hr

/-- Log records do not count, and neither do the values that were asked for their texts. -/
theorem logs (h : Twins level level' s t) (records records' : List Record)
    (told told' : List Value) :
    Twins level level' { s with logs := records, told } { t with logs := records', told := told' } :=
  { h with }

end Twins

namespace Act

variable {α β : Type} {s t : Session} {host : Host}

/-- An operation runs in parallel on two sessions: it gives the same answer on both, or the same
failure, and leaves twins. -/
def Parallel (level level' : Threshold) (act : Act α) (s t : Session) : Prop :=
  (act.exec s).1 = (act.exec t).1 ∧ Twins level level' (act.exec s).2 (act.exec t).2

namespace Parallel

/-- Where the first of two sessions is left with an answer, the second is left with it as well. -/
theorem of_ok {act : Act α} (h : act.Parallel level level' s t) {a : α} {s' : Session}
    (hs : act.exec s = (.ok a, s')) :
    ∃ t', act.exec t = (.ok a, t') ∧ Twins level level' s' t' := by
  obtain ⟨hanswer, htwins⟩ := h
  rw [hs] at hanswer htwins
  exact ⟨(act.exec t).2, Prod.ext hanswer.symm rfl, htwins⟩

/-- An operation that is followed by another runs in parallel if both do. -/
theorem bind {act : Act α} {next : α → Act β} (hact : act.Parallel level level' s t)
    (hnext : ∀ a s' t', act.exec s = (.ok a, s') → Twins level level' s' t' →
      (next a).Parallel level level' s' t') :
    (act >>= next).Parallel level level' s t := by
  rcases hs : act.exec s with ⟨f | a, s'⟩
  · obtain ⟨hanswer, htwins⟩ := hact
    rw [hs] at hanswer htwins
    have ht : act.exec t = (.error f, (act.exec t).2) := Prod.ext hanswer.symm rfl
    unfold Parallel
    rw [exec_bind_of_error hs, exec_bind_of_error ht]
    exact ⟨rfl, htwins⟩
  · obtain ⟨t', ht, htwins⟩ := hact.of_ok hs
    unfold Parallel
    rw [exec_bind_of_ok hs, exec_bind_of_ok ht]
    exact hnext a s' t' hs htwins

theorem ite {c : Prop} [Decidable c] {act act' : Act α} (h : c → act.Parallel level level' s t)
    (h' : ¬ c → act'.Parallel level level' s t) :
    (if c then act else act').Parallel level level' s t := by
  split_ifs with hc
  · exact h hc
  · exact h' hc

/-- What is done with the registry at a place is done with the same registry on both sides. -/
theorem bind_registryAt (h : Twins level level' s t) {id : Nat} {next : Registry → Act β}
    (hnext : (next (s.registryAt id)).Parallel level level' s t) :
    (registryAt id >>= next).Parallel level level' s t := by
  unfold Parallel
  rw [exec_bind_of_ok (exec_registryAt s id), exec_bind_of_ok (exec_registryAt t id),
    h.registryAt_eq]
  exact hnext

/-- An operation that answers twins alike and leaves both as they are runs in parallel. -/
theorem of_exec {act : Act α} {answer : Except Failure α} (h : Twins level level' s t)
    (hs : act.exec s = (answer, s)) (ht : act.exec t = (answer, t)) :
    act.Parallel level level' s t := by
  unfold Parallel
  rw [hs, ht]
  exact ⟨rfl, h⟩

end Parallel

/-- What is made of texts is the answer, if there is one. -/
theorem ok_of_exec_ofText {made : Except TextFailure α} {a : α} {s' : Session}
    (h : (ofText made).exec s = (.ok a, s')) : made = .ok a := by
  rw [exec_ofText] at h
  cases made with
  | ok b => exact congrArg _ (Except.ok.inj (Prod.mk.inj h).1)
  | error failure => cases (Prod.mk.inj h).1

/-! ## The operations that others are made of -/

section Operations

variable (h : Twins level level' s t)

include h

theorem parallel_pure (a : α) : (pure a : Act α).Parallel level level' s t := .of_exec h rfl rfl

theorem parallel_fail (f : Failure) : (fail f : Act α).Parallel level level' s t :=
  .of_exec h rfl rfl

theorem parallel_fault (f : Fault) : (fault f : Act α).Parallel level level' s t :=
  .of_exec h rfl rfl

theorem parallel_ofExcept (answer : Except Failure α) :
    (ofExcept answer).Parallel level level' s t :=
  .of_exec h (exec_ofExcept s answer) (exec_ofExcept t answer)

theorem parallel_ofText (made : Except TextFailure α) : (ofText made).Parallel level level' s t :=
  .of_exec h (exec_ofText s made) (exec_ofText t made)

theorem parallel_truth (v : Value) : (truth v).Parallel level level' s t :=
  .of_exec h (exec_truth s v) (by rw [exec_truth, h.truth_eq])

theorem parallel_message {v : Value} (hv : v.Neutral level level') :
    (message v).Parallel level level' s t := by
  have htext : v.message level = v.message level' := Value.write_eq .message v hv
  refine .of_exec h (exec_message s v) ?_
  rw [exec_message, h.level_left, h.level_right, htext]

theorem parallel_mention {v : Value} (hv : v.Neutral level level') :
    (mention v).Parallel level level' s t := by
  have htext : v.mention level = v.mention level' := Value.write_eq .mention v hv
  refine .of_exec h (exec_mention s v) ?_
  rw [exec_mention, h.level_left, h.level_right, htext]

theorem parallel_warn (text : String) : (warn text).Parallel level level' s t :=
  ⟨rfl, { h with warnings := congrArg (· ++ [text]) h.warnings }⟩

theorem parallel_log (channel : Channel) (severity : Severity) (text : String) :
    (log channel severity text).Parallel level level' s t := ⟨rfl, h.logs _ _ _ _⟩

theorem parallel_fresh : fresh.Parallel level level' s t := by
  unfold Parallel
  rw [exec_fresh, exec_fresh, h.nextId]
  exact ⟨rfl, { h with nextId := rfl }⟩

theorem parallel_setRegistry (id : Nat) {r : Registry} (hr : r.Neutral level level') :
    (setRegistry id r).Parallel level level' s t := ⟨rfl, h.setRegistry id hr⟩

/-- Sending a warning runs in parallel where a note about it does not fail, whatever its text is
under either level and whether or not it comes. -/
theorem parallel_emitWarning (hnote : host.noteFailure = none) {text : Act String}
    (htext : ∀ s, ∃ answer asked, text.exec s = (answer, { s with told := s.told ++ asked })) :
    (Logging.emitWarning host text).Parallel level level' s t := by
  obtain ⟨answer, asked, hs⟩ := htext s
  obtain ⟨answer', asked', ht⟩ := htext t
  unfold Parallel
  rw [exec_emitWarning host hs, exec_emitWarning host ht, Session.sent_of_none hnote,
    Session.sent_of_none hnote]
  exact ⟨rfl, h.logs _ _ _ _⟩

end Operations

/-! ## Answers -/

/-- What holds of the answer of the second of two operations holds of that of both together. -/
theorem Ensures.bind {act : Act α} {next : α → Act β} {post : β → Session → Prop}
    (h : act.Ensures s fun a s' => (next a).Ensures s' post) : (act >>= next).Ensures s post := by
  intro b s'' hrun
  rcases hs : act.exec s with ⟨f | a, s'⟩
  · rw [exec_bind_of_error hs] at hrun
    cases hrun
  · rw [exec_bind_of_ok hs] at hrun
    exact h a s' hs b s'' hrun

theorem ensures_pure {a : α} {post : α → Session → Prop} (h : post a s) :
    (pure a : Act α).Ensures s post := by
  intro b s' hrun
  obtain ⟨hb, rfl⟩ := Prod.mk.inj hrun
  obtain rfl := Except.ok.inj hb
  exact h

/-- A fault is no answer. -/
theorem ensures_fault (f : Fault) {post : α → Session → Prop} :
    (fault f : Act α).Ensures s post := by
  intro a s' hrun
  cases hrun

/-! ## Checks -/

theorem parallel_namePrefix (h : Twins level level' s t) {name : Value}
    (hname : name.Neutral level level') : (Message.namePrefix name).Parallel level level' s t := by
  unfold Message.namePrefix
  refine (parallel_truth h name).bind fun _ s₁ t₁ _ h₁ => ?_
  refine .ite (fun _ => ?_) fun _ => parallel_pure h₁ _
  exact (parallel_message h₁ hname).bind fun _ s₂ t₂ _ h₂ => parallel_pure h₂ _

theorem parallel_rejection (h : Twins level level' s t) {value expected name : Value}
    (hvalue : value.Neutral level level') (hexpected : expected.Neutral level level')
    (hname : name.Neutral level level') :
    (Message.rejection value expected name).Parallel level level' s t := by
  unfold Message.rejection
  refine (parallel_namePrefix h hname).bind fun _ s₁ t₁ _ h₁ => ?_
  refine (parallel_message h₁ hexpected).bind fun _ s₂ t₂ _ h₂ => ?_
  exact (parallel_mention h₂ hvalue).bind fun _ s₃ t₃ _ h₃ => parallel_pure h₃ _

theorem parallel_reject (h : Twins level level' s t) {value expected name : Value}
    (hvalue : value.Neutral level level') (hexpected : expected.Neutral level level')
    (hname : name.Neutral level level') :
    (reject value expected name : Act α).Parallel level level' s t :=
  (parallel_rejection h hvalue hexpected hname).bind fun _ _ _ _ h₁ => parallel_fail h₁ _

/-- Calls of a value on the given arguments neither show nor change the channel: they run in
parallel on all twins. -/
def Discreet (level level' : Threshold) (host : Host) (callee : Value) (arguments : List Value) :
    Prop :=
  ∀ s t, Twins level level' s t → (call host callee arguments).Parallel level level' s t

/-- An operation that works on an answer which needs no session runs in parallel. -/
theorem parallel_map_ofExcept (h : Twins level level' s t) (answer : Except Failure β)
    (f : β → α) : (do return f (← ofExcept answer) : Act α).Parallel level level' s t :=
  (parallel_ofExcept h answer).bind fun _ _ _ _ h₁ => parallel_pure h₁ _

/-- The routines that classify values have nothing to do with the channel. -/
theorem discreet_classifier (host : Host) {r : Routine} (hr : r ∈ Routine.classifiers)
    (value : Value) : Discreet level level' host (.routine r) [value] := by
  intro s t h
  -- Each routine answers from the value alone.
  cases r with
  | parseFloat => exact parallel_ofExcept h _
  | formatNumber => exact parallel_map_ofExcept h _ _
  | isAlphanumeric => exact parallel_map_ofExcept h _ _
  | core name => simp [Routine.classifiers] at hr
  | operation name => simp [Routine.classifiers] at hr
  | isSubclass => exact parallel_fault h _
  | _ => exact parallel_pure h _

/-- A value that cannot be called has nothing to do with the channel: calling it fails. -/
theorem discreet_of_not_callable (host : Host) {v : Value} (hv : v.isCallable = false)
    (arguments : List Value) : Discreet level level' host v arguments := by
  intro s t h
  cases v with
  | foreign id face name =>
    rw [call]
    exact .ite (fun hface => absurd (hv.symm.trans hface) Bool.false_ne_true) fun _ =>
      parallel_fault h _
  | cls | routine | partialCall | subClassOf | instanceOf | validator => cases hv
  | _ => exact parallel_fault h _

/-- A validator has nothing to do with the channel if its function has not. -/
theorem discreet_validator {function value : Value} (id : Nat) (name : Value)
    (h : Discreet level level' host function [value]) :
    Discreet level level' host (.validator id name function) [value] := by
  intro s t htwins
  rw [call]
  refine (h s t htwins).bind fun answer s₁ t₁ _ h₁ => ?_
  exact (parallel_truth h₁ answer).bind fun _ s₂ t₂ _ h₂ => parallel_pure h₂ _

/-- A callable of the host has nothing to do with the channel if its answers have not. The call of
it is recorded on both sides. -/
theorem discreet_foreign {id : Nat} {face : Face} {name : Option Value} {arguments : List Value}
    (h : ∀ s t, Twins level level' s t → (host.respond id arguments).Parallel level level' s t) :
    Discreet level level' host (.foreign id face name) arguments := by
  intro s t htwins
  have hrecorded : (modify fun s => { s with calls := s.calls ++ [⟨id, arguments⟩] } :
      Act PUnit).Parallel level level' s t :=
    ⟨rfl, { htwins with calls := congrArg (· ++ [Call.mk id arguments]) htwins.calls }⟩
  rw [call]
  refine .ite (fun _ => ?_) fun _ => parallel_fault htwins _
  unfold callHost
  dsimp only
  refine .ite (fun _ => ?_) fun _ => .of_exec htwins rfl rfl
  exact hrecorded.bind fun _ s₁ t₁ _ h₁ => h s₁ t₁ h₁

theorem parallel_resolveDefault (h : Twins level level' s t) {default value : Value}
    (hdefault : Discreet level level' host default [value]) :
    (resolveDefault host default value).Parallel level level' s t := by
  unfold resolveDefault
  exact .ite (fun _ => hdefault s t h) fun _ => parallel_pure h _

/-- A check runs in parallel if the callables that it calls do and the values that it tells of are
neutral. -/
theorem parallel_check (hnote : host.noteFailure = none) (h : Twins level level' s t)
    {value validator expected name default warnIf : Value} (hvalue : value.Neutral level level')
    (hexpected : expected.Neutral level level') (hname : name.Neutral level level')
    (hvalidator : Discreet level level' host validator [value])
    (hdefault : Discreet level level' host default [value])
    (hwarnIf : Discreet level level' host warnIf [value]) :
    (check host value validator expected name default warnIf).Parallel level level' s t := by
  unfold check
  refine (hvalidator s t h).bind fun answer s₁ t₁ _ h₁ => ?_
  refine (parallel_truth h₁ answer).bind fun valid s₂ t₂ _ h₂ => ?_
  refine .ite (fun _ => parallel_pure h₂ _) fun _ => ?_
  refine (parallel_truth h₂ default).bind fun given s₃ t₃ _ h₃ => ?_
  refine .ite (fun _ => ?_) fun _ => parallel_reject h₃ hvalue hexpected hname
  refine (parallel_resolveDefault h₃ hdefault).bind fun substitute s₄ t₄ _ h₄ => ?_
  refine (parallel_truth h₄ warnIf).bind fun ruled s₅ t₅ _ h₅ => ?_
  -- Whichever rule is asked, it runs in parallel.
  have hrule : Discreet level level' host (if ruled = true then warnIf else .routine .isPresent)
      [value] := by
    split_ifs
    · exact hwarnIf
    · exact discreet_classifier host (by simp [Routine.classifiers]) value
  refine (hrule s₅ t₅ h₅).bind fun verdict s₆ t₆ _ h₆ => ?_
  refine (parallel_truth h₆ verdict).bind fun warned s₇ t₇ _ h₇ => ?_
  refine .ite (fun _ => ?_) fun _ => parallel_pure h₇ _
  refine (parallel_rejection h₇ hvalue hexpected hname).bind fun sentence s₈ t₈ _ h₈ => ?_
  have htext (s : Session) : ∃ answer asked, (pure sentence : Act String).exec s =
      (answer, { s with told := s.told ++ asked }) := ⟨.ok sentence, [], by simp⟩
  exact (parallel_emitWarning h₈ hnote htext).bind fun _ s₉ t₉ _ h₉ => parallel_pure h₉ _

/-- The answer of a registry is passed on in parallel; a failure tells the key and the name. -/
theorem parallel_answerOf (h : Twins level level' s t) {r : Registry} (hr : r.Neutral level level')
    {key : Value} (hkey : key.Neutral level level') (answer : Except Registry.Refusal α) :
    (answerOf r key answer).Parallel level level' s t := by
  cases answer with
  | ok a => exact parallel_pure h a
  | error refusal =>
    cases refusal with
    | unusableKey => exact parallel_fault h _
    | absent => exact (parallel_message h hkey).bind fun _ s₁ t₁ _ h₁ => parallel_fail h₁ _
    | taken =>
      refine (parallel_message h hkey).bind fun _ s₁ t₁ _ h₁ => ?_
      exact (parallel_message h₁ hr.name).bind fun _ s₂ t₂ _ h₂ => parallel_fail h₂ _

/-- What a registry does not refuse is passed on. -/
theorem ok_of_exec_answerOf {r : Registry} {key : Value} {answer : Except Registry.Refusal α}
    {a : α} {s' : Session} (h : (answerOf r key answer).exec s = (.ok a, s')) : answer = .ok a := by
  cases answer with
  | ok b => exact congrArg _ (Except.ok.inj (Prod.mk.inj h).1)
  | error refusal =>
    obtain ⟨f, hf⟩ := exec_answerOf_error (α := α) r key refusal s
    rw [hf] at h
    cases h

/-- What is asked of a registry, with an answer that tells no more than the key and the name where
it is a failure. -/
theorem parallel_ask (h : Twins level level' s t) (id : Nat) {key : Value}
    (hkey : key.Neutral level level') (question : Registry → Except Registry.Refusal α) :
    (do
      let r ← registryAt id
      answerOf r key (question r) : Act α).Parallel level level' s t :=
   .bind_registryAt h (parallel_answerOf h (h.neutral_registryAt id) hkey _)

theorem parallel_getItem (h : Twins level level' s t) (id : Nat) {key : Value}
    (hkey : key.Neutral level level') : (getItem id key).Parallel level level' s t :=
  parallel_ask h id hkey fun r => r.get key

theorem parallel_getOptionalItem (h : Twins level level' s t) (id : Nat) {key : Value}
    (hkey : key.Neutral level level') : (getOptionalItem id key).Parallel level level' s t :=
  parallel_ask h id hkey fun r => r.getOptional key

theorem parallel_hasItem (h : Twins level level' s t) (id : Nat) {key : Value}
    (hkey : key.Neutral level level') : (hasItem id key).Parallel level level' s t :=
  parallel_ask h id hkey fun r => r.has key

/-- The callables that a type argument leads to in a session run in parallel on the given arguments:
the validator that is held under a key, or a predicate. -/
def DiscreetType (level level' : Threshold) (host : Host) (s : Session) (type : Value)
    (arguments : List Value) : Prop :=
  match TypeSpec.ofValue type with
  | ⟨.key, key⟩ =>
    ∀ item, (s.registryAt Session.processRegistry).getOptional key = .ok item →
      Discreet level level' host item arguments
  | ⟨.predicate, predicate⟩ => Discreet level level' host predicate arguments
  | _ => True

/-- What a type argument is understood to mean is a part of it. -/
theorem neutral_raw {type : Value} (h : type.Neutral level level') :
    (TypeSpec.ofValue type).raw.Neutral level level' := by
  cases type <;> exact h

/-- What a type argument asks of a value is found out in parallel. -/
theorem parallel_decideType (h : Twins level level' s t) {type value : Value}
    (htype : type.Neutral level level')
    (hcallee : DiscreetType level level' host s type [value]) :
    (decideType host (TypeSpec.ofValue type) value).Parallel level level' s t := by
  have hraw := neutral_raw htype
  unfold decideType
  unfold DiscreetType at hcallee
  -- The text of the argument is asked for first, which leaves the session in which `hcallee` holds.
  refine (parallel_message h hraw).bind fun text s₁ t₁ hs₁ h₁ => ?_
  obtain rfl : s = s₁ := by
    rw [exec_message] at hs₁
    exact (Prod.mk.inj hs₁).2
  generalize TypeSpec.ofValue type = spec at hraw hcallee ⊢
  obtain ⟨kind, raw⟩ := spec
  cases kind with
  | cls =>
    refine (parallel_ofExcept h₁ _).bind fun valid s₂ t₂ _ h₂ => ?_
    refine (parallel_ofText h₂ raw.ownName).bind fun ownName s₃ t₃ hs₃ h₃ => ?_
    cases ownName with
    | none => exact parallel_fault h₃ _
    | some name =>
      have hneutral : name.Neutral level level' := hraw.ownName (ok_of_exec_ofText hs₃)
      exact (parallel_message h₃ hneutral).bind fun _ s₄ t₄ _ h₄ => parallel_pure h₄ _
  | key =>
    refine (parallel_getOptionalItem h₁ _ hraw).bind fun item s₂ t₂ hs₂ h₂ => ?_
    -- What is called is the item found in that session.
    obtain ⟨hitem, rfl⟩ := getOptional_of_exec hs₂
    refine .ite (fun _ => parallel_pure h₂ _) fun _ => ?_
    refine (hcallee item hitem s₂ t₂ h₂).bind fun answer s₃ t₃ _ h₃ => ?_
    cases item with
    | validator id name function =>
      exact (parallel_truth h₃ answer).bind fun _ s₄ t₄ _ h₄ => parallel_pure h₄ _
    | _ => exact parallel_fault h₃ _
  | predicate =>
    refine (hcallee s t₁ h₁).bind fun answer s₂ t₂ _ h₂ => ?_
    refine (parallel_truth h₂ answer).bind fun _ s₃ t₃ _ h₃ => ?_
    exact (parallel_mention h₃ hraw).bind fun _ s₄ t₄ _ h₄ => parallel_pure h₄ _
  | unsupported => exact parallel_pure h₁ _

/-- What is expected of a value is a text, or the name of a validator that a registry holds. -/
theorem neutral_expected (h : Twins level level' s t) {spec : TypeSpec} {value expected : Value}
    {valid : Bool} {s' : Session}
    (hs : (decideType host spec value).exec s = (.ok (some (valid, expected)), s')) :
    expected.Neutral level level' := by
  have hall : (decideType host spec value).Ensures s fun decision _ =>
      ∀ valid expected, decision = some (valid, expected) → expected.Neutral level level' := by
    unfold decideType
    refine .bind fun text s₁ hs₁ => ?_
    obtain rfl : s = s₁ := by
      rw [exec_message] at hs₁
      exact (Prod.mk.inj hs₁).2
    obtain ⟨kind, raw⟩ := spec
    -- Only a validator brings something that is not a text.
    cases kind with
    | cls =>
      refine .bind fun valid s₂ _ => .bind fun ownName s₃ _ => ?_
      cases ownName with
      | none => exact ensures_fault _
      | some name => exact .bind fun _ s₄ _ => ensures_pure (by rintro _ _ ⟨⟩; exact .inr rfl)
    | key =>
      refine .bind fun item s₂ hs₂ => ?_
      obtain ⟨hitem, rfl⟩ := getOptional_of_exec hs₂
      have hneutral := (h.neutral_registryAt Session.processRegistry).getOptional hitem
      split_ifs
      · exact ensures_pure (by simp)
      · refine .bind fun answer s₃ _ => ?_
        cases item with
        | validator id name function =>
          refine .bind fun _ s₄ _ => ensures_pure ?_
          rintro _ _ ⟨⟩
          exact hneutral _ List.mem_cons_self
        | _ => exact ensures_fault _
    | predicate =>
      refine .bind fun answer s₂ _ => .bind fun _ s₃ _ => .bind fun _ s₄ _ => ensures_pure ?_
      rintro _ _ ⟨⟩
      exact .inr rfl
    | unsupported => exact ensures_pure (by rintro _ _ ⟨⟩; exact .inr rfl)
  exact hall _ s' hs valid expected rfl

/-- A type check runs in parallel if the callables that it calls do and the values that it tells of
are neutral. -/
theorem parallel_checkType (hnote : host.noteFailure = none) (h : Twins level level' s t)
    {value type name warnIf : Value} {default : Option Value} (hvalue : value.Neutral level level')
    (htype : type.Neutral level level') (hname : name.Neutral level level')
    (hcallee : DiscreetType level level' host s type [value])
    (hdefault : ∀ d, default = some d → Discreet level level' host d [value])
    (hwarnIf : Discreet level level' host warnIf [value]) :
    (checkType host value type name default warnIf).Parallel level level' s t := by
  unfold checkType
  -- The note changes no registry, so the argument leads to the same callables after it.
  refine (parallel_warn h _).bind fun _ s₁ t₁ hs₁ h₁ => ?_
  obtain rfl := (Prod.mk.inj hs₁).2
  have hnoted : DiscreetType level level' host
      { s with warnings := s.warnings ++ [deprecationNote] } type [value] := hcallee
  dsimp only
  refine (parallel_decideType h₁ htype hnoted).bind fun decision s₂ t₂ hs₂ h₂ => ?_
  match decision with
  | none => exact parallel_pure h₂ _
  | some (true, _) => exact parallel_pure h₂ _
  | some (false, expected) =>
    cases default with
    | none => exact parallel_reject h₂ hvalue (neutral_expected h₁ hs₂) hname
    | some d =>
      refine (parallel_resolveDefault h₂ (hdefault d rfl)).bind fun substitute s₃ t₃ _ h₃ => ?_
      refine (hwarnIf s₃ t₃ h₃).bind fun verdict s₄ t₄ _ h₄ => ?_
      refine (parallel_truth h₄ verdict).bind fun warned s₅ t₅ _ h₅ => ?_
      refine .ite (fun _ => ?_) fun _ => parallel_pure h₅ _
      refine (parallel_namePrefix h₅ hname).bind fun before s₆ t₆ _ h₆ => ?_
      refine (parallel_ofText h₆ value.shown).bind fun given s₇ t₇ _ h₇ => ?_
      -- What the text is made of is only asked on the way, and its failure does not come out.
      have htext (s : Session) :=
        exec_substitutionText before (TypeSpec.ofValue type).raw given substitute s
      exact (parallel_emitWarning h₇ hnote fun s => ⟨_, _, htext s⟩).bind fun _ s₈ t₈ _ h₈ =>
        parallel_pure h₈ _

/-! ## Registries -/

theorem parallel_newRegistry (h : Twins level level' s t) {name : Value}
    (hname : name.Neutral level level') : (newRegistry name).Parallel level level' s t := by
  have hanswer : ((newRegistry name).exec s).1 = ((newRegistry name).exec t).1 := by
    show Except.ok s.registries.length = Except.ok t.registries.length
    rw [h.registries]
  refine ⟨hanswer, ?_⟩
  refine { h with registries := congrArg (· ++ [Registry.empty name]) h.registries, neutral := ?_ }
  intro r hr
  rcases List.mem_append.1 hr with hold | hnew
  · exact h.neutral r hold
  · obtain rfl := List.mem_singleton.1 hnew
    exact Registry.neutral_empty hname

theorem parallel_clearRegistry (h : Twins level level' s t) (id : Nat) :
    (clearRegistry id).Parallel level level' s t := by
  unfold clearRegistry
  exact .bind_registryAt h (parallel_setRegistry h id (h.neutral_registryAt id).clear)

theorem parallel_seedRegistry (h : Twins level level' s t) (id : Nat) :
    (seedRegistry id).Parallel level level' s t := by
  have hfilled := h.setRegistry id ((h.neutral_registryAt id).builtin s.nextId)
  refine ⟨rfl, ?_⟩
  show Twins level level'
    { s.setRegistry id { s.registryAt id with entries := Registry.builtinEntries s.nextId } with
      nextId := s.nextId + Registry.builtins.length }
    { t.setRegistry id { t.registryAt id with entries := Registry.builtinEntries t.nextId } with
      nextId := t.nextId + Registry.builtins.length }
  rw [h.registryAt_eq, h.nextId]
  exact { hfilled with nextId := rfl }

theorem parallel_newValidatorRegistry (h : Twins level level' s t) {name : Value} (seed : Value)
    (hname : name.Neutral level level') :
    (newValidatorRegistry name seed).Parallel level level' s t := by
  unfold newValidatorRegistry
  refine (parallel_newRegistry h hname).bind fun id s₁ t₁ _ h₁ => ?_
  refine (parallel_truth h₁ seed).bind fun _ s₂ t₂ _ h₂ => ?_
  refine .ite (fun _ => ?_) fun _ => parallel_pure h₂ _
  exact (parallel_seedRegistry h₂ id).bind fun _ s₃ t₃ _ h₃ => parallel_pure h₃ _

theorem parallel_register (h : Twins level level' s t) (id : Nat) {key item : Value}
    (overwrite : Value) (hkey : key.Neutral level level')
    (hitem : ∀ name ∈ item.toldNames, name.Neutral level level') :
    (register id key item overwrite).Parallel level level' s t := by
  have hr := h.neutral_registryAt id
  unfold register
  refine .bind_registryAt h ((parallel_truth h overwrite).bind fun allowed s₁ t₁ _ h₁ => ?_)
  refine (parallel_answerOf h₁ hr hkey _).bind fun r' s₂ t₂ hs₂ h₂ => ?_
  exact parallel_setRegistry h₂ id (hr.register hitem (ok_of_exec_answerOf hs₂))

/-- Setting a validator runs in parallel; the record about a replacement does not count. -/
theorem parallel_setValidator (h : Twins level level' s t) (id : Nat) {key name : Value}
    (function : Value) (hkey : key.Neutral level level') (hname : name.Neutral level level') :
    (setValidator id key function name).Parallel level level' s t := by
  have hlabel : (if name.isNull then key else name).Neutral level level' := by
    split_ifs
    · exact hkey
    · exact hname
  unfold setValidator
  dsimp only
  generalize (if name.isNull then key else name) = label at hlabel ⊢
  have hnew : (newValidator label function).Parallel level level' s t :=
    (parallel_fresh h).bind fun _ s₁ t₁ _ h₁ => parallel_pure h₁ _
  refine hnew.bind fun item s₁ t₁ hs₁ h₁ => ?_
  have hitem : ∀ name ∈ item.toldNames, name.Neutral level level' := by
    obtain rfl := Except.ok.inj (Prod.mk.inj hs₁).1
    simpa [Value.toldNames] using hlabel
  refine (parallel_hasItem h₁ id hkey).bind fun replaced s₂ t₂ _ h₂ => ?_
  refine (parallel_register h₂ id _ hkey hitem).bind fun _ s₃ t₃ _ h₃ => ?_
  refine .ite (fun _ => ?_) fun _ => parallel_pure h₃ _
  refine (parallel_message h₃ hkey).bind fun _ s₄ t₄ _ h₄ => ?_
  exact (parallel_log h₄ _ _ _).bind fun _ s₅ t₅ _ h₅ => parallel_pure h₅ _

end Act

end Conform
