import Conform.Proofs.Session.Warnings
import Conform.Proofs.Value.Texts

/-!
# Agreement of the two checks

A type check by an argument that stands for a predicate (`Resolves`) is the check by that
predicate, but for the note that it is outdated and for the text of the warning about a default.

* `Act.exec_decideType`: what a type argument asks of a value is what its predicate answers.
* `Act.agree_substitution`: the two ways to put a default in the place of a value.
* `Act.checkType_agrees_check`: the two checks agree.
* `Act.exists_records_of_agree`: where only a warning differs, both checks record something or
  neither does.
-/

namespace Conform

/-- What a type argument stands for in a session: a predicate and what it expects. A class stands
for the predicate that accepts its instances, a key for the validator that the process registry
holds under it, and another callable for itself, expecting what messages mention it by, which is one
text under all levels of the channel. -/
inductive Resolves (s : Session) : Value → Value → Value → Prop where
  | cls {type : Value} {c : Class} (id : Nat) (htype : TypeSpec.ofValue type = ⟨.cls, .cls c⟩) :
    Resolves s type (.instanceOf id (.cls c)) (.text ("instance of " ++ c.name))
  | key {type key function name : Value} {id : Nat}
    (htype : TypeSpec.ofValue type = ⟨.key, key⟩)
    (hitem : (s.registryAt Session.processRegistry).getOptional key =
      .ok (.validator id name function)) :
    Resolves s type (.validator id name function) name
  | predicate {type predicate : Value} {expected : String}
    (htype : TypeSpec.ofValue type = ⟨.predicate, predicate⟩)
    (htext : ∀ level, predicate.mention level = .ok expected) :
    Resolves s type predicate (.text expected)

/-- Two runs come out alike, but for the words of a warning: if they differ at all, then both ended
with sending a warning from one session and giving one answer. The text of the second warning is
written before it is sent; that of the first is made on the way, so it may fail, which a note tells
instead. The answers differ only if a handler fails at such a note. -/
def AgreeButForWarning {α : Type} (host : Host) (run run' : Except Failure α × Session) : Prop :=
  (host.noteFailure = none → run.1 = run'.1) ∧
    (run = run' ∨ ∃ (t : Session) (answer : α) (before sentence : String)
        (raw given substitute : Value),
      run = (do
        Logging.emitWarning host (Act.substitutionText before raw given substitute)
        return answer : Act α).exec t ∧
      run' = (do
        Logging.emitWarning host (return sentence)
        return answer : Act α).exec t)

theorem AgreeButForWarning.refl {α : Type} (host : Host) (run : Except Failure α × Session) :
    AgreeButForWarning host run run := ⟨fun _ => rfl, .inl rfl⟩

/-- The name of a subject: a text, or none. -/
def IsSubjectName (name : Value) : Prop := name = .null ∨ ∃ text, name = .text text

/-- What a message about a subject starts with: the name and a colon, or nothing where the name is
empty or there is none. -/
def Message.subject : Value → String
  | .text name => if name.isEmpty then "" else name ++ ": "
  | _ => ""

/-- What a type argument stands for depends on the registries of the session only. -/
theorem Resolves.of_registries {s t : Session} {type predicate expected : Value}
    (h : Resolves s type predicate expected) (hst : t.registries = s.registries) :
    Resolves t type predicate expected := by
  cases h with
  | cls id htype => exact .cls id htype
  | key htype hitem =>
    refine .key htype ?_
    unfold Session.registryAt at hitem ⊢
    rw [hst]
    exact hitem
  | predicate htype htext => exact .predicate htype htext

namespace Act

/-- A property that holds of the answer of an operation and of the session it leaves, if it gives
an answer. -/
def Ensures {α : Type} (act : Act α) (s : Session) (post : α → Session → Prop) : Prop :=
  ∀ a s', act.exec s = (.ok a, s') → post a s'

variable {host : Host} {s : Session} {type predicate expected value name : Value}

/-! ## What a type argument asks -/

/-- What a type argument asks of a value is what its predicate answers. -/
theorem exec_decideType (host : Host) (value : Value) (h : Resolves s type predicate expected)
    (htext : ∃ text, (TypeSpec.ofValue type).raw.message s.level = .ok text) :
    (decideType host (TypeSpec.ofValue type) value).exec s =
      (do return some (← truth (← call host predicate [value]), expected) :
        Act (Option (Bool × Value))).exec s := by
  obtain ⟨text, htext⟩ := htext
  unfold decideType
  rw [exec_bind_of_ok (exec_message_of_ok htext)]
  -- One case for each kind of argument that stands for a predicate.
  cases h with
  | cls id htype =>
    -- The predicate asks whether the value is an instance, as the class branch does.
    simp only [htype, call, Value.ownName, exec_bind, exec_ofExcept, exec_ofText, exec_message,
      Value.message, Value.write, Except.mapError]
    cases value.isInstance (.cls _) with
    | ok valid => rfl
    | error f => rfl
  | @key key function _ id htype hitem =>
    have hregistered : (getOptionalItem Session.processRegistry key).exec s =
        (.ok (.validator id expected function), s) := by
      rw [getOptionalItem, exec_bind_of_ok (exec_registryAt s _), hitem]
      rfl
    simp only [htype]
    rw [exec_bind_of_ok hregistered]
    -- A validator is never the absent value, so the key counts as registered.
    exact exec_bind_congr rfl fun answer s' _ => rfl
  | predicate htype hmention =>
    simp only [htype]
    -- The text of the predicate is asked for after the call, which may have changed the session.
    refine exec_bind_congr rfl fun answer s' _ => ?_
    rw [exec_bind_of_ok (exec_truth s' answer), exec_bind_of_ok (exec_truth s' answer),
      exec_bind_of_ok (exec_mention_of_ok (hmention s'.level))]

/-- A type check starts with the note that it is outdated and goes on with the predicate that its
argument stands for. -/
theorem exec_checkType (host : Host) (value name : Value) (default : Option Value)
    (warnIf : Value) (h : Resolves s type predicate expected)
    (htext : ∃ text, (TypeSpec.ofValue type).raw.message s.level = .ok text) :
    (checkType host value type name default warnIf).exec s =
      (do
        warn deprecationNote
        if ← truth (← call host predicate [value]) then return value
        match default with
        | none => reject value expected name
        | some default =>
          let substitute ← resolveDefault host default value
          if ← truth (← call host warnIf [value]) then
            let before ← Message.namePrefix name
            let given ← shown value
            Logging.emitWarning host
              (substitutionText before (TypeSpec.ofValue type).raw given substitute)
          return substitute : Act Value).exec s := by
  unfold checkType
  rw [exec_bind_of_ok (exec_warn s _), exec_bind_of_ok (exec_warn s _)]
  have hnoted : Resolves { s with warnings := s.warnings ++ [deprecationNote] } type predicate
    expected := h.of_registries rfl
  rw [exec_bind, exec_decideType host value hnoted htext, exec_bind, exec_bind]
  -- A failure of the predicate ends both; otherwise the truth of its answer decides.
  rcases (call host predicate [value]).exec _ with ⟨f | answer, s'⟩
  · rfl
  · simp only [exec_bind, exec_truth, exec_pure]
    cases s'.truth answer with
    | true => rfl
    | false => cases default <;> rfl

/-! ## Messages -/

/-- What a message starts with is told by the name of its subject, and asking for it does not change
the session. -/
theorem exec_namePrefix_eq (hname : IsSubjectName name) (s : Session) :
    (Message.namePrefix name).exec s = (.ok (Message.subject name), s) := by
  unfold Message.namePrefix
  obtain rfl | ⟨text, rfl⟩ := hname
  · rfl
  · have htruth : (truth (.text text)).exec s = (.ok !text.isEmpty, s) := rfl
    have htext : (message (.text text)).exec s = (.ok text, s) := exec_message_of_ok rfl
    rw [exec_bind_of_ok htruth, Message.subject]
    cases text.isEmpty with
    | true => rfl
    | false => exact exec_bind_of_ok htext _

/-- The name of a subject always has a text, and asking for it does not change the session. -/
theorem exec_namePrefix (hname : IsSubjectName name) (s : Session) :
    ∃ before, (Message.namePrefix name).exec s = (.ok before, s) :=
  ⟨_, exec_namePrefix_eq hname s⟩

/-- The sentence about a value tells the name of the subject, the text of what is expected, and the
text of the value. -/
theorem exec_rejection_of_texts (hname : IsSubjectName name) {text given : String}
    (hexpected : expected.message s.level = .ok text) (hgiven : value.mention s.level = .ok given) :
    (Message.rejection value expected name).exec s =
      (.ok (Message.sentence (Message.subject name) text given), s) := by
  unfold Message.rejection
  rw [exec_bind_of_ok (exec_namePrefix_eq hname s), exec_bind_of_ok (exec_message_of_ok hexpected),
    exec_bind_of_ok (exec_mention_of_ok hgiven)]
  rfl

/-- A text tells what is expected by itself. -/
theorem exec_rejection_eq (hname : IsSubjectName name) (text : String) {given : String}
    (hgiven : value.mention s.level = .ok given) :
    (Message.rejection value (.text text) name).exec s =
      (.ok (Message.sentence (Message.subject name) text given), s) :=
  exec_rejection_of_texts hname rfl hgiven

/-- The sentence about a value can be written when the value can. -/
theorem exec_rejection (hname : IsSubjectName name) (text : String)
    (hvalue : ∃ given, value.mention .unset = .ok given) (s : Session) :
    ∃ sentence, (Message.rejection value (.text text) name).exec s = (.ok sentence, s) := by
  obtain ⟨given, hgiven⟩ : ∃ given, value.mention s.level = .ok given :=
    (Value.write_sameOutcome .unset s.level .mention value).exists_ok hvalue
  exact ⟨_, exec_rejection_eq hname text hgiven⟩

/-- What a message mentions in place of a value is there if the value can be mentioned. -/
theorem exists_shown {level : Threshold} {text : String} (h : value.mention level = .ok text) :
    ∃ given, value.shown = .ok given ∧ given.message level = .ok text := by
  rw [Value.mention_eq_message_shown] at h
  cases hshown : value.shown with
  | error failure =>
    rw [hshown] at h
    cases h
  | ok given =>
    rw [hshown] at h
    exact ⟨given, rfl, h⟩

/-! ## Agreement -/

/-- Without a default, a type check is the check by the predicate. -/
theorem checkType_eq_check (host : Host) (value name warnIf : Value)
    (h : Resolves s type predicate expected)
    (htext : ∃ text, (TypeSpec.ofValue type).raw.message s.level = .ok text) :
    (checkType host value type name none warnIf).exec s =
      (do
        warn deprecationNote
        check host value predicate expected name .null .null : Act Value).exec s := by
  rw [exec_checkType host value name none warnIf h htext]
  unfold check
  -- Both call the predicate after the note; an absent default counts as false for the check.
  refine exec_bind_congr rfl fun _ s' _ => ?_
  refine exec_bind_congr rfl fun answer s' _ => ?_
  rw [exec_bind, exec_bind, exec_truth]
  cases s'.truth answer <;> rfl

/-- Operations that start with the same agree but for a warning if they do after that start. -/
theorem agree_bind {α β : Type} {start : Act α} {next next' : α → Act β}
    (h : ∀ a s', start.exec s = (.ok a, s') →
      AgreeButForWarning host ((next a).exec s') ((next' a).exec s')) :
    AgreeButForWarning host ((start >>= next).exec s) ((start >>= next').exec s) := by
  rcases hstart : start.exec s with ⟨f | a, s'⟩
  · rw [exec_bind_of_error hstart, exec_bind_of_error hstart]
    exact .refl _ _
  · rw [exec_bind_of_ok hstart, exec_bind_of_ok hstart]
    exact h a s' hstart

/-- Two warnings that are sent from one session agree, but for their words. -/
theorem agree_emitWarning {α : Type} (host : Host) (t : Session) (answer : α)
    (before sentence : String) (raw given substitute : Value) :
    AgreeButForWarning host
      ((do
        Logging.emitWarning host (substitutionText before raw given substitute)
        return answer : Act α).exec t)
      ((do
        Logging.emitWarning host (return sentence)
        return answer : Act α).exec t) := by
  refine ⟨fun hnote => ?_, .inr ⟨t, answer, before, sentence, raw, given, substitute, rfl, rfl⟩⟩
  rw [exec_bind, exec_bind, exec_emitWarning_substitution, exec_emitWarning_pure,
    Session.sent_of_none hnote, Session.sent_of_none hnote]
  rfl

/-- Runs that agree but for a warning add log records to one session, and the values that were asked
for their texts. One of them adds records exactly if the other does. -/
theorem exists_records_of_agree {α : Type} {run run' : Except Failure α × Session}
    (h : AgreeButForWarning host run run') :
    ∃ (t : Session) (records records' : List Record) (told : List Value),
      run.2 = { t with logs := t.logs ++ records, told } ∧
        run'.2 = { t with logs := t.logs ++ records' } ∧ (records = [] ↔ records' = []) := by
  obtain ⟨-, rfl | ⟨t, answer, before, sentence, raw, given, substitute, rfl, rfl⟩⟩ := h
  · exact ⟨run.2, [], [], run.2.told, by simp, by simp, Iff.rfl⟩
  · refine ⟨t, t.emitted (substitutionWarning t.level before raw given substitute),
      t.emitted (.ok sentence), t.toldAfter (substitutionAsked t.level raw given substitute),
      ?_, ?_, ?_⟩
    · rw [snd_exec_bind_pure, exec_emitWarning_substitution]
    · rw [snd_exec_bind_pure, exec_emitWarning_pure]
    -- The level of that session decides for both whether anything is recorded.
    · exact (Session.emitted_eq_nil_iff _).trans (Session.emitted_eq_nil_iff _).symm

/-- The substitution of a default as a type check does it and as the check does it, which writes
the sentence of the warning before it sends it. -/
theorem agree_substitution (host : Host) (raw : Value) {default warnIf : Value} (expected : String)
    (hname : IsSubjectName name) (hvalue : ∃ given, value.mention .unset = .ok given)
    (hwarn : (resolveDefault host default value).Ensures s fun _ s' => s'.truth warnIf = true) :
    AgreeButForWarning host
      ((do
        let substitute ← resolveDefault host default value
        if ← truth (← call host warnIf [value]) then
          let before ← Message.namePrefix name
          let given ← shown value
          Logging.emitWarning host (substitutionText before raw given substitute)
        return substitute : Act Value).exec s)
      ((do
        let substitute ← resolveDefault host default value
        let rule := if ← truth warnIf then warnIf else .routine .isPresent
        if ← truth (← call host rule [value]) then
          let sentence ← Message.rejection value (.text expected) name
          Logging.emitWarning host (return sentence)
        return substitute : Act Value).exec s) := by
  refine agree_bind fun substitute s₁ hsubstitute => ?_
  -- The rule is one that counts as true, so the check asks it as the type check does.
  have htrue : (truth warnIf).exec s₁ = (.ok true, s₁) :=
    congrArg (fun answer => (Except.ok answer, s₁)) (hwarn substitute s₁ hsubstitute)
  rw [exec_bind_of_ok htrue]
  refine agree_bind fun verdict s₂ _ => agree_bind fun warned s₃ _ => ?_
  cases warned with
  | false => exact .refl _ _
  | true =>
    -- From here on both send a warning from `s₃`, and nothing else happens.
    obtain ⟨before, hbefore⟩ := exec_namePrefix hname s₃
    obtain ⟨sentence, hsentence⟩ := exec_rejection hname expected hvalue s₃
    obtain ⟨text, htext⟩ := hvalue
    obtain ⟨given, hshown, -⟩ := exists_shown htext
    simp only [if_true]
    rw [exec_bind_of_ok hbefore, exec_bind_of_ok (exec_shown_of_ok hshown),
      exec_bind_of_ok hsentence]
    exact agree_emitWarning host s₃ substitute before sentence raw given substitute

/-- With a default, a type check is the check by the predicate, but for what the warning about the
default says. -/
theorem checkType_agrees_check_default (host : Host) {default warnIf : Value}
    (h : Resolves s type predicate expected)
    (htext : ∃ text, (TypeSpec.ofValue type).raw.message s.level = .ok text)
    (hexpected : ∃ text, expected = .text text) (hname : IsSubjectName name)
    (hvalue : ∃ given, value.mention .unset = .ok given)
    (hdefault : (do warn deprecationNote; call host predicate [value] : Act Value).Ensures s
      fun _ s' => s'.truth default = true)
    (hwarn : (do
      warn deprecationNote
      let _ ← call host predicate [value]
      resolveDefault host default value : Act Value).Ensures s
      fun _ s' => s'.truth warnIf = true) :
    AgreeButForWarning host
      ((checkType host value type name (some default) warnIf).exec s)
      ((do
        warn deprecationNote
        check host value predicate expected name default warnIf : Act Value).exec s) := by
  rw [exec_checkType host value name (some default) warnIf h htext]
  obtain ⟨expected, rfl⟩ := hexpected
  unfold check
  refine agree_bind fun _ s₁ hnoted => agree_bind fun answer s₂ hcall => ?_
  refine agree_bind fun valid s₃ hvalid => ?_
  obtain rfl : s₂ = s₃ := (Prod.mk.inj hvalid).2
  cases valid with
  | true => exact .refl _ _
  | false =>
    -- The default counts as true after the call of the predicate, so the check takes it as well.
    have htrue : (truth default).exec s₂ = (.ok true, s₂) :=
      congrArg (fun answer => (Except.ok answer, s₂))
        (hdefault answer s₂ ((exec_bind_of_ok hnoted _).trans hcall))
    simp only [Bool.false_eq_true, if_false]
    rw [exec_bind_of_ok htrue]
    refine agree_substitution host _ expected hname hvalue fun substitute s₄ hsubstitute => ?_
    refine hwarn substitute s₄ ?_
    rw [exec_bind_of_ok hnoted, exec_bind_of_ok hcall]
    exact hsubstitute

/-- A type check by an argument that stands for a predicate agrees with the check by the predicate.
Without a default they give the same answer or failure and leave the same session, the recorded
calls of callables included. So they do with a default and a rule for warnings that count as true
when they are asked, for a value that has a text, but for the words of a warning; and for what a
handler makes of the note that is taken where those words fail to come. -/
theorem checkType_agrees_check (host : Host) (s : Session) {type predicate expected name : Value}
    (value : Value) (h : Resolves s type predicate expected)
    (htext : ∃ text, (TypeSpec.ofValue type).raw.message s.level = .ok text)
    (hexpected : ∃ text, expected = .text text) (hname : IsSubjectName name) :
    (∀ warnIf, (checkType host value type name none warnIf).exec s =
      (do
        warn deprecationNote
        check host value predicate expected name .null .null : Act Value).exec s) ∧
    ∀ default warnIf, (∃ given, value.mention .unset = .ok given) →
      ((do warn deprecationNote; call host predicate [value] : Act Value).Ensures s
        fun _ s' => s'.truth default = true) →
      ((do
        warn deprecationNote
        let _ ← call host predicate [value]
        resolveDefault host default value : Act Value).Ensures s
        fun _ s' => s'.truth warnIf = true) →
      AgreeButForWarning host
        ((checkType host value type name (some default) warnIf).exec s)
        ((do
          warn deprecationNote
          check host value predicate expected name default warnIf : Act Value).exec s) :=
  ⟨fun warnIf => checkType_eq_check host value name warnIf h htext,
    fun _ _ hvalue hdefault hwarn =>
      checkType_agrees_check_default host h htext hexpected hname hvalue hdefault hwarn⟩

/-- The agreement for a text that is checked by the key of the built-in numbers. -/
theorem checkType_agrees_check_number :
    (checkType .bare (.text "x") (.text "number") (.text "port") none .null).exec .initial =
      (do
        warn deprecationNote
        check .bare (.text "x") (.validator 4 (.text "number") (.routine .isNumber))
          (.text "number") (.text "port") .null .null : Act Value).exec .initial ∧
    AgreeButForWarning .bare
      ((checkType .bare (.text "x") (.text "number") (.text "port") (some (.int 80))
        (.routine .isPresent)).exec .initial)
      ((do
        warn deprecationNote
        check .bare (.text "x") (.validator 4 (.text "number") (.routine .isNumber))
          (.text "number") (.text "port") (.int 80) (.routine .isPresent) : Act Value).exec
            .initial) := by
  have hkey : Resolves .initial (.text "number")
      (.validator 4 (.text "number") (.routine .isNumber)) (.text "number") := .key rfl rfl
  have hname : IsSubjectName (.text "port") := .inr ⟨_, rfl⟩
  have h := checkType_agrees_check .bare .initial (.text "x") hkey ⟨_, rfl⟩ ⟨_, rfl⟩ hname
  exact ⟨h.1 _, h.2 _ _ ⟨_, rfl⟩ (fun _ _ _ => rfl) fun _ _ _ => rfl⟩

end Act

end Conform
