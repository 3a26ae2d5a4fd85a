import Conform.Proofs.Check.Agreement

/-!
# Substitution of defaults

How the checks put a default in the place of a value. What a check comes to before it reports
anything is its verdict (`Verdict`). If that is a substitution, the check asks its rule whether to
warn, and warns.

* `Act.check_eq_conclude` and `Act.checkType_eq_conclude`: both checks conclude from their verdicts.
* `Act.substitute_answered`: what a check answers that substitutes a default: the default, unless it
  is to warn and something goes wrong outside the sending. The check writes the whole sentence
  before it sends it, the type check only finds out what is mentioned in place of the value; and the
  note about a warning that could not be sent is not guarded in either.
-/

namespace Conform

/-- What a check comes to before it asks whether to warn. -/
inductive Verdict where
  /-- An answer, for a value that is not rejected. -/
  | answers (answer : Value)
  /-- A rejected value without a default. -/
  | refuses (expected : Value)
  /-- A rejected value, with what the default comes to. -/
  | substitutes (substitute : Value)

namespace Act

/-- The verdict of a check. -/
def verdict (host : Host) (value validator expected default : Value) : Act Verdict := do
  if ← truth (← call host validator [value]) then return .answers value
  if ← truth default then return .substitutes (← resolveDefault host default value)
  return .refuses expected

/-- The verdict of a type check. -/
def typeVerdict (host : Host) (value type : Value) (default : Option Value) : Act Verdict := do
  warn deprecationNote
  match ← decideType host (TypeSpec.ofValue type) value with
  | none => return .answers (.bool false)
  | some (true, _) => return .answers value
  | some (false, expected) =>
    match default with
    | none => return .refuses expected
    | some default => return .substitutes (← resolveDefault host default value)

/-- Ask a rule about a value, as a type check does. -/
def ask (host : Host) (rule value : Value) : Act Bool := do truth (← call host rule [value])

/-- Ask a rule about a value, as a check does: one that counts as false is not asked, and the value
is warned about if it is present. -/
def askPresent (host : Host) (rule value : Value) : Act Bool := do
  ask host (if ← truth rule then rule else .routine .isPresent) value

/-- What a check does with its verdict, by the way it asks its rule and the way it warns. -/
def conclude (value name : Value) (asked : Act Bool) (report : Value → Act Unit) :
    Verdict → Act Value
  | .answers answer => return answer
  | .refuses expected => reject value expected name
  | .substitutes substitute => do
    if ← asked then report substitute
    return substitute

/-- The warning of a check: its sentence is written, and sent. -/
def reportWritten (host : Host) (value expected name : Value) : Act Unit := do
  let sentence ← Message.rejection value expected name
  Logging.emitWarning host (return sentence)

/-- The warning of a type check: what is mentioned in place of the value is found out, and then its
text is sent, and written on the way. -/
def reportUnwritten (host : Host) (value type name substitute : Value) : Act Unit := do
  let before ← Message.namePrefix name
  let given ← shown value
  Logging.emitWarning host (substitutionText before (TypeSpec.ofValue type).raw given substitute)

variable {host : Host} {s s' : Session} {value expected type name default warnIf : Value}

/-! ## Verdicts -/

/-- A check concludes from its verdict. -/
theorem check_eq_conclude (host : Host) (value validator expected name default warnIf : Value) :
    check host value validator expected name default warnIf =
      verdict host value validator expected default >>=
        conclude value name (askPresent host warnIf value) fun _ =>
          reportWritten host value expected name := by
  unfold check verdict
  simp only [bind_assoc]
  -- Both start alike; each branch of the check is one verdict, from which there is one way on.
  refine bind_congr fun answer => bind_congr fun valid => ?_
  cases valid with
  | true => rfl
  | false =>
    simp only [Bool.false_eq_true, if_false, bind_assoc]
    refine bind_congr fun usable => ?_
    cases usable with
    | false => rfl
    | true =>
      simp only [if_true, bind_assoc, pure_bind]
      refine bind_congr fun substitute => ?_
      simp only [conclude, askPresent, ask, reportWritten, bind_assoc]

/-- A type check concludes from its verdict. -/
theorem checkType_eq_conclude (host : Host) (value type name : Value) (default : Option Value)
    (warnIf : Value) :
    checkType host value type name default warnIf =
      typeVerdict host value type default >>=
        conclude value name (ask host warnIf value) (reportUnwritten host value type name) := by
  unfold checkType typeVerdict
  simp only [bind_assoc]
  -- The note comes before the verdict, so it is part of it.
  refine bind_congr fun _ => bind_congr fun decision => ?_
  rcases decision with _ | ⟨valid, expected⟩
  · rfl
  · cases valid with
    | true => rfl
    | false =>
      cases default with
      | none => rfl
      | some default =>
        simp only [bind_assoc, pure_bind]
        refine bind_congr fun substitute => ?_
        simp only [conclude, ask, reportUnwritten, bind_assoc]

/-! ## Warnings -/

/-- A check that substitutes a default asks its rule, warns where that says so, and answers the
default. -/
theorem exec_conclude_substitutes {asked : Act Bool} {report : Value → Act Unit} {warned : Bool}
    (hasked : asked.exec s = (.ok warned, s')) (substitute : Value) :
    (conclude value name asked report (.substitutes substitute)).exec s =
      ((do
        if warned then report substitute
        return substitute : Act Value)).exec s' := by
  unfold conclude
  exact exec_bind_of_ok hasked _

/-- The text of the warning of a type check about a default, in a session and from what is mentioned
in place of the value. -/
def typeWarning (s : Session) (type name given substitute : Value) : Except Failure String :=
  substitutionWarning s.level (Message.subject name) (TypeSpec.ofValue type).raw given substitute

/-- The values that are asked for their texts when that text is made. -/
def typeWarningAsked (s : Session) (type given substitute : Value) : List Value :=
  substitutionAsked s.level (TypeSpec.ofValue type).raw given substitute

/-- The warning of a type check adds the records that come of its text and the values that it asks,
once it is known what is mentioned in place of the value. -/
theorem exec_reportUnwritten_eq (hname : IsSubjectName name) {given : Value}
    (hgiven : value.shown = .ok given) (host : Host) (type substitute : Value) (s : Session) :
    (reportUnwritten host value type name substitute).exec s =
      (s.sent host (typeWarning s type name given substitute),
        { s with
          logs := s.logs ++ s.emitted (typeWarning s type name given substitute)
          told := s.toldAfter (typeWarningAsked s type given substitute) }) := by
  -- Whether the text comes is left to the sending, of which only the note can fail.
  unfold reportUnwritten
  rw [exec_bind_of_ok (exec_namePrefix_eq hname s), exec_bind_of_ok (exec_shown_of_ok hgiven),
    exec_emitWarning_substitution]
  rfl

/-- The warning of a type check about a value that is not mentioned ends with the failure of
that. -/
theorem exec_reportUnwritten_of_error (hname : IsSubjectName name) {failure : TextFailure}
    (hgiven : value.shown = .error failure) (host : Host) (type substitute : Value) (s : Session) :
    (reportUnwritten host value type name substitute).exec s = (.error (.ofText failure), s) := by
  have hshown : (shown value).exec s = (.error (.ofText failure), s) := by
    rw [exec_shown, hgiven]
    rfl
  unfold reportUnwritten
  rw [exec_bind_of_ok (exec_namePrefix_eq hname s), exec_bind_of_error hshown]

/-- The warning of a check adds the records that come of its sentence, if the value has a text. -/
theorem exec_reportWritten_eq (hname : IsSubjectName name) {text given : String}
    (hexpected : expected.message s.level = .ok text) (hgiven : value.mention s.level = .ok given)
    (host : Host) :
    (reportWritten host value expected name).exec s =
      (s.sent host (.ok (Message.sentence (Message.subject name) text given)),
        { s with logs := s.logs ++
          s.emitted (.ok (Message.sentence (Message.subject name) text given)) }) := by
  unfold reportWritten
  rw [exec_bind_of_ok (exec_rejection_of_texts hname hexpected hgiven), exec_emitWarning_pure]

/-- The warning of a check about a value without a text ends with the failure of that. -/
theorem exec_reportWritten_of_error (hname : IsSubjectName name) {text : String}
    (hexpected : expected.message s.level = .ok text) {failure : TextFailure}
    (hgiven : value.mention s.level = .error failure) (host : Host) :
    (reportWritten host value expected name).exec s = (.error (.ofText failure), s) := by
  have hmention : (mention value).exec s = (.error (.ofText failure), s) := by
    rw [exec_mention, hgiven]
    rfl
  unfold reportWritten
  refine exec_bind_of_error ?_ _
  unfold Message.rejection
  rw [exec_bind_of_ok (exec_namePrefix_eq hname s), exec_bind_of_ok (exec_message_of_ok hexpected),
    exec_bind_of_error hmention]

/-! ## Answers -/

variable {s₁ s₂ : Session} {substitute : Value} {warned : Bool}

/-- A run ends with the report of a substitute in a session, by sending a warning of the given text:
nothing is left but log records and values that were asked for their texts, and the substitute is
the answer unless a note is taken of the warning and a handler fails at that. -/
structure Reported (host : Host) (s : Session) (substitute : Value) (text : Except Failure String)
    (run : Except Failure Value × Session) : Prop where
  logsOnly : ∃ records told, run.2 = { s with logs := s.logs ++ records, told := s.told ++ told }
  answers : host.noteFailure = none ∨ s.takesNote text = false → run.1 = .ok substitute
  noteFails : ∀ message, host.noteFailure = some message → s.takesNote text = true →
    run.1 = .error (.host message)

/-- What follows the sending of a warning is its report. -/
theorem reported_of_sent {report : Act Unit} {text : Except Failure String} {asked : List Value}
    (hreport : report.exec s = (s.sent host text,
      { s with logs := s.logs ++ s.emitted text, told := s.toldAfter asked }))
    (substitute : Value) :
    Reported host s substitute text ((do report; return substitute : Act Value).exec s) := by
  have hrun : (do report; return substitute : Act Value).exec s =
      ((s.sent host text).map fun _ => substitute,
        { s with logs := s.logs ++ s.emitted text, told := s.toldAfter asked }) := by
    rw [exec_bind, hreport]
    cases s.sent host text <;> rfl
  rw [hrun]
  refine ⟨⟨s.emitted text, if s.letsWarningsThrough then asked else [], ?_⟩, ?_, ?_⟩
  · unfold Session.toldAfter
    split <;> simp
  · intro hspared
    rw [Session.sent_of_spared hspared]
    rfl
  · intro message hfails hnote
    rw [Session.sent_of_noteFails hfails hnote]
    rfl

/-- A type check that substitutes a default goes on from asking its rule with its warning. -/
theorem exec_checkType_of_substitutes {default : Option Value}
    (hverdict : (typeVerdict host value type default).exec s = (.ok (.substitutes substitute), s₁))
    (hasked : (ask host warnIf value).exec s₁ = (.ok warned, s₂)) (name : Value) :
    (checkType host value type name default warnIf).exec s =
      (do
        if warned then reportUnwritten host value type name substitute
        return substitute : Act Value).exec s₂ := by
  rw [checkType_eq_conclude, exec_bind_of_ok hverdict, exec_conclude_substitutes hasked]

/-- A check that substitutes a default goes on from asking its rule with its warning. -/
theorem exec_check_of_substitutes {validator : Value}
    (hverdict : (verdict host value validator expected default).exec s =
      (.ok (.substitutes substitute), s₁))
    (hasked : (askPresent host warnIf value).exec s₁ = (.ok warned, s₂)) (name : Value) :
    (check host value validator expected name default warnIf).exec s =
      (do
        if warned then reportWritten host value expected name
        return substitute : Act Value).exec s₂ := by
  rw [check_eq_conclude, exec_bind_of_ok hverdict, exec_conclude_substitutes hasked]

/-- What the checks answer once a value has been rejected, its default has come to a substitute and
the rule has been asked whether to warn; the verdict does not depend on the rule. Where it says not
to warn, both answer the substitute. Where it says to warn, a type check does so unless a callable
value does not tell its name, and the check unless the value has no text, whether or not the channel
lets warnings through: they end with the failure of that. Apart from that, what is left of the
warning are log records and the values that were asked for their texts; and both fail where a note
is taken of a warning that could not be sent and a handler fails at the note. -/
theorem substitute_answered (host : Host) {s s₁ s₂ : Session} {value name substitute : Value}
    {warned : Bool} (hname : IsSubjectName name) :
    (∀ type default warnIf,
      (typeVerdict host value type default).exec s = (.ok (.substitutes substitute), s₁) →
      (ask host warnIf value).exec s₁ = (.ok warned, s₂) →
      (warned = false →
        (checkType host value type name default warnIf).exec s = (.ok substitute, s₂)) ∧
      (warned = true → ∀ given, value.shown = .ok given →
        Reported host s₂ substitute (typeWarning s₂ type name given substitute)
          ((checkType host value type name default warnIf).exec s)) ∧
      (warned = true → ∀ failure, value.shown = .error failure →
        (checkType host value type name default warnIf).exec s = (.error (.ofText failure), s₂))) ∧
    ∀ validator expected text default warnIf, (∀ level, expected.message level = .ok text) →
      (verdict host value validator expected default).exec s =
        (.ok (.substitutes substitute), s₁) →
      (askPresent host warnIf value).exec s₁ = (.ok warned, s₂) →
      (warned = false →
        (check host value validator expected name default warnIf).exec s = (.ok substitute, s₂)) ∧
      (warned = true → ∀ given, value.mention s₂.level = .ok given →
        Reported host s₂ substitute (.ok (Message.sentence (Message.subject name) text given))
          ((check host value validator expected name default warnIf).exec s)) ∧
      (warned = true → ∀ failure, value.mention s₂.level = .error failure →
        (check host value validator expected name default warnIf).exec s =
          (.error (.ofText failure), s₂)) := by
  constructor
  · intro type default warnIf hverdict hasked
    rw [exec_checkType_of_substitutes hverdict hasked name]
    refine ⟨?_, ?_, ?_⟩
    · rintro rfl
      rfl
    · rintro rfl given hgiven
      exact reported_of_sent (exec_reportUnwritten_eq hname hgiven host type substitute s₂) _
    · rintro rfl failure hfailure
      exact exec_bind_of_error
        (exec_reportUnwritten_of_error hname hfailure host type substitute s₂) _
  · intro validator expected text default warnIf hexpected hverdict hasked
    rw [exec_check_of_substitutes hverdict hasked name]
    refine ⟨?_, ?_, ?_⟩
    · rintro rfl
      rfl
    · rintro rfl given hgiven
      -- The sentence is written before it is sent, so nothing is asked for its text on the way.
      have hnone : s₂.told = s₂.toldAfter [] := by simp [Session.toldAfter]
      have hreport := exec_reportWritten_eq hname (hexpected s₂.level) hgiven host
      rw [hnone] at hreport
      exact reported_of_sent hreport _
    · rintro rfl failure hfailure
      exact exec_bind_of_error
        (exec_reportWritten_of_error hname (hexpected s₂.level) hfailure host) _

/-- A session whose channel lets no warnings through. -/
def silenced : Session := { Session.initial with level := .ofNumber 40 }

/-- A callable object of the host that does not tell its name. -/
def nameless : Value :=
  .foreign 2
    { cls := Class.object, text := .ok "object", inner := .ok "object", truth := true,
      callable := true, nameFailure := some (.host "no name") } none

/-- A session whose channel lets warnings through and has a handler that fails. -/
def failing : Session := { Session.initial with failingHandler := true }

/-- A host without callables where a note cannot be taken. -/
def noteless : Host := { Host.bare with noteFailure := some "no note" }

/-- The three ways in which a default is not answered. An object without a text, where a text is
wanted: the type check answers the default, and the check does not, though no warning gets through.
A callable that does not tell its name, where a key wants a text: the type check fails as well. And
where neither the warning nor the note of it can be sent, both checks fail. -/
theorem substitute_answered_textless :
    ((checkType .bare .textless (.text "string") .null (some (.int 7))
        (.routine .isPresent)).exec silenced).1 = .ok (.int 7) ∧
    (check .bare .textless (.routine .isString) (.text "string") .null (.int 7) .null).exec
      silenced = (.error (.host "no text"), silenced) ∧
    ((checkType .bare nameless (.text "string") .null (some (.int 7))
        (.routine .isPresent)).exec silenced).1 = .error (.host "no name") ∧
    ((checkType noteless (.int 1) (.text "string") .null (some (.int 7))
        (.routine .isPresent)).exec failing).1 = .error (.host "no note") ∧
    ((check noteless (.int 1) (.routine .isString) (.text "string") .null (.int 7) .null).exec
        failing).1 = .error (.host "no note") := by
  have hstring (level : Threshold) : (Value.text "string").message level = .ok "string" := rfl
  -- The object without a text.
  have hlazy : Reported .bare _ (.int 7) _ ((checkType .bare .textless (.text "string") .null
      (some (.int 7)) (.routine .isPresent)).exec silenced) :=
    ((substitute_answered .bare (.inl rfl)).1 _ _ _ rfl rfl).2.1 rfl .textless rfl
  have heager : (check .bare .textless (.routine .isString) (.text "string") .null (.int 7)
      .null).exec silenced = (.error (.host "no text"), silenced) :=
    ((substitute_answered .bare (.inl rfl)).2 _ _ _ _ .null hstring rfl rfl).2.2 rfl
      (.host "no text") rfl
  -- The callable that does not tell its name.
  have hnameless : (checkType .bare nameless (.text "string") .null (some (.int 7))
      (.routine .isPresent)).exec silenced = (.error (.host "no name"), _) :=
    ((substitute_answered .bare (.inl rfl)).1 _ _ _ rfl rfl).2.2 rfl (.host "no name") rfl
  -- The note that cannot be taken.
  have htypeNote : Reported noteless _ (.int 7) _ ((checkType noteless (.int 1) (.text "string")
      .null (some (.int 7)) (.routine .isPresent)).exec failing) :=
    ((substitute_answered noteless (.inl rfl)).1 _ _ _ rfl rfl).2.1 rfl (.int 1) rfl
  have hnote : Reported noteless _ (.int 7) _ ((check noteless (.int 1) (.routine .isString)
      (.text "string") .null (.int 7) .null).exec failing) :=
    ((substitute_answered noteless (.inl rfl)).2 _ _ _ _ .null hstring rfl rfl).2.1 rfl "1" rfl
  exact ⟨hlazy.answers (.inl rfl), heager, congrArg Prod.fst hnameless,
    htypeNote.noteFails "no note" rfl rfl, hnote.noteFails "no note" rfl rfl⟩

end Act

end Conform
