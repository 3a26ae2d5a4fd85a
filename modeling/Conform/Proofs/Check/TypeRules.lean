import Conform.Proofs.Check.Rules
import Conform.Proofs.Registry.Commands
import Conform.Proofs.Registry.Labels

/-!
# The rules of a type check

All ways in which a type check comes to an end, each as a rule (`TypeChecks`), like the rules of a
check. They differ in what is asked of the value (`Asks`), which depends on the type argument, and
in that any default counts, whether true or false.

* `Act.Asks.exec_eq`: what a type argument asks of a value.
* `Act.TypeChecks.exec_eq` and `Act.exists_typeChecks`: a type check ends as a rule says, and some
  rule always applies where the process registry was built by registrations.
* `Act.TypeChecks.calls_eq`: each callable of the host is called once.
* `Act.checkType_follows_rules`: all of it together.
-/

namespace Conform

open Session (processRegistry)

/-- A specification that says of its argument what the argument is. A predicate is called whatever
it is, and anything may be unsupported. -/
def TypeSpec.WellTagged (spec : TypeSpec) : Prop :=
  (spec.kind = .key → ∃ key, spec.raw = .text key) ∧ (spec.kind = .cls → ∃ c, spec.raw = .cls c)

/-- An argument that is no specification is understood as what it is. -/
theorem TypeSpec.wellTagged_ofValue {type : Value} (h : ∀ id kind raw, type ≠ .spec id kind raw) :
    (TypeSpec.ofValue type).WellTagged := by
  -- Whatever is no text and no class is a predicate or unsupported, of which nothing is asked.
  have hother (htype : TypeSpec.ofValue type =
      ⟨if type.isCallable then .predicate else .unsupported, type⟩) :
      (TypeSpec.ofValue type).WellTagged := by
    rw [htype]
    constructor <;> split_ifs <;> nofun
  cases type with
  | text key => exact ⟨fun _ => ⟨key, rfl⟩, nofun⟩
  | cls c => exact ⟨nofun, fun _ => ⟨c, rfl⟩⟩
  | spec id kind raw => exact absurd rfl (h id kind raw)
  | _ => exact hother rfl

/-- The session once a type check has noted that it is outdated. -/
def Session.noted (s : Session) : Session :=
  { s with warnings := s.warnings ++ [Act.deprecationNote] }

/-- The validator that type checks find under a key in a session. -/
def Session.validatorFor (s : Session) (key : String) : Option Value :=
  Entries.find? (s.registryAt processRegistry).entries (.text key)

namespace Act

variable {host : Host} {s s' : Session} {value type name warnIf : Value} {default : Option Value}

/-! ## Rules -/

/-- What a specification asks of a value: the callables that are called on it, the answer with what
the value is expected to be, and the session that is left. Nothing is asked of a key that is not
registered. -/
inductive Asks (host : Host) (value : Value) :
    TypeSpec → Session → List Value → Except Failure (Bool × Value) → Session → Prop where
  /-- A key asks the function that is registered under it, and expects what the registration is
  named. -/
  | key {key : String} {id : Nat} {label function answer : Value} {s s' : Session}
    (hfound : s.validatorFor key = some (.validator id label function))
    (hcall : (call host function [value]).exec s = (.ok answer, s')) :
    Asks host value ⟨.key, .text key⟩ s [function] (.ok (s'.truth answer, label)) s'
  | keyFails {key : String} {id : Nat} {label function : Value} {f : Failure} {s s' : Session}
    (hfound : s.validatorFor key = some (.validator id label function))
    (hcall : (call host function [value]).exec s = (.error f, s')) :
    Asks host value ⟨.key, .text key⟩ s [function] (.error f) s'
  /-- A class asks whether the value is an instance. -/
  | cls {c : Class} {valid : Bool} {s : Session} (hvalid : value.belongsTo c = .ok valid) :
    Asks host value ⟨.cls, .cls c⟩ s [] (.ok (valid, .text ("instance of " ++ c.name))) s
  | clsFails {c : Class} {f : Failure} {s : Session} (hfails : value.belongsTo c = .error f) :
    Asks host value ⟨.cls, .cls c⟩ s [] (.error f) s
  /-- A predicate is asked itself, and expects what messages mention it by. -/
  | predicate {predicate answer : Value} {expected : String} {s s' : Session}
    (hcall : (call host predicate [value]).exec s = (.ok answer, s'))
    (hexpected : predicate.mention s'.level = .ok expected) :
    Asks host value ⟨.predicate, predicate⟩ s [predicate]
      (.ok (s'.truth answer, .text expected)) s'
  | predicateFails {predicate : Value} {f : Failure} {s s' : Session}
    (hcall : (call host predicate [value]).exec s = (.error f, s')) :
    Asks host value ⟨.predicate, predicate⟩ s [predicate] (.error f) s'
  /-- What is not supported accepts nothing, and expects its text. -/
  | unsupported {raw : Value} {text : String} {s : Session}
    (htext : raw.message s.level = .ok text) :
    Asks host value ⟨.unsupported, raw⟩ s [] (.ok (false, .text text)) s

/-- A value is rejected, and a default that was given then comes to an answer or a failure. -/
def FallsBack (host : Host) (value type : Value) (default : Option Value) (s : Session)
    (called : List Value) (answer : Except Failure Value) (s' : Session) : Prop :=
  ∃ asked expected s₁ substitute more, called = asked ++ more ∧ default = some substitute ∧
    Asks host value (TypeSpec.ofValue type) s.noted asked (.ok (false, expected)) s₁ ∧
    Substitutes host value substitute s₁ more answer s'

/-- The text of the warning about a default, from the texts of the type argument and of the value,
if the default has a text. -/
def defaultWarning (s : Session) (name : Value) (text given : String) (substitute : Value) :
    Except Failure String :=
  ((substitute.inner s.level).mapError .ofText).map fun used =>
    Message.sentence (Message.subject name) text given ++ " Using default: " ++ used

/-- How a type check ends: the callables that it calls on the value, its answer or failure, and the
session that it leaves. The note that it is outdated comes first. -/
inductive TypeChecks (host : Host) (value type name : Value) (default : Option Value)
    (warnIf : Value) (s : Session) : List Value → Except Failure Value → Session → Prop where
  /-- A key that is not registered answers false, and nothing else happens. -/
  | unknown {key : String} (htype : TypeSpec.ofValue type = ⟨.key, .text key⟩)
    (habsent : s.validatorFor key = none) :
    TypeChecks host value type name default warnIf s [] (.ok (.bool false)) s.noted
  /-- A failure of what is asked of the value is passed on. -/
  | askingFails {called : List Value} {f : Failure} {s₁ : Session}
    (hasks : Asks host value (TypeSpec.ofValue type) s.noted called (.error f) s₁) :
    TypeChecks host value type name default warnIf s called (.error f) s₁
  /-- A value that is accepted is the answer. -/
  | accepts {called : List Value} {expected : Value} {s₁ : Session}
    (hasks : Asks host value (TypeSpec.ofValue type) s.noted called (.ok (true, expected)) s₁) :
    TypeChecks host value type name default warnIf s called (.ok value) s₁
  /-- A value that is rejected is reported where no default is given. -/
  | refuses {called : List Value} {expected : Value} {text given : String} {s₁ : Session}
    (hasks : Asks host value (TypeSpec.ofValue type) s.noted called (.ok (false, expected)) s₁)
    (hnone : default = none) (hexpected : expected.message s₁.level = .ok text)
    (hgiven : value.mention s₁.level = .ok given) :
    TypeChecks host value type name default warnIf s called
      (.error (.rejected
        { value, expected, name,
          message := Message.sentence (Message.subject name) text given })) s₁
  /-- A failure of the default is passed on. -/
  | defaultFails {called : List Value} {f : Failure} {s₂ : Session}
    (hfalls : FallsBack host value type default s called (.error f) s₂) :
    TypeChecks host value type name default warnIf s called (.error f) s₂
  /-- A failure of the rule for warnings is passed on. -/
  | ruleFails {called : List Value} {substitute : Value} {f : Failure} {s₂ s₃ : Session}
    (hfalls : FallsBack host value type default s called (.ok substitute) s₂)
    (hrule : (call host warnIf [value]).exec s₂ = (.error f, s₃)) :
    TypeChecks host value type name default warnIf s (called ++ [warnIf]) (.error f) s₃
  /-- The substitute is the answer where the rule says not to warn. -/
  | silent {called : List Value} {substitute verdict : Value} {s₂ s₃ : Session}
    (hfalls : FallsBack host value type default s called (.ok substitute) s₂)
    (hrule : (call host warnIf [value]).exec s₂ = (.ok verdict, s₃))
    (hsilent : s₃.truth verdict = false) :
    TypeChecks host value type name default warnIf s (called ++ [warnIf]) (.ok substitute) s₃
  /-- The substitute is the answer where the rule says to warn, and one warning is sent, with the
  text of the type argument itself and that of the substitute, if it has one. The three values that
  the warning tells are asked for their texts where it is let through. -/
  | warns {called : List Value} {substitute verdict shown : Value} {text given : String}
    {s₂ s₃ : Session} (hfalls : FallsBack host value type default s called (.ok substitute) s₂)
    (hrule : (call host warnIf [value]).exec s₂ = (.ok verdict, s₃))
    (hwarns : s₃.truth verdict = true)
    (htext : (TypeSpec.ofValue type).raw.message s₃.level = .ok text)
    (hshown : value.shown = .ok shown) (hgiven : shown.message s₃.level = .ok given)
    (hspared : host.noteFailure = none ∨
      s₃.takesNote (defaultWarning s₃ name text given substitute) = false) :
    TypeChecks host value type name default warnIf s (called ++ [warnIf]) (.ok substitute)
      { s₃ with
        logs := s₃.logs ++ s₃.emitted (defaultWarning s₃ name text given substitute)
        told := s₃.toldAfter [(TypeSpec.ofValue type).raw, shown, substitute] }
  /-- Where a note is taken of the warning, because a handler fails at it or the substitute has no
  text, a failure of the note is passed on. -/
  | noteFails {called : List Value} {substitute verdict shown : Value} {text given message : String}
    {s₂ s₃ : Session} (hfalls : FallsBack host value type default s called (.ok substitute) s₂)
    (hrule : (call host warnIf [value]).exec s₂ = (.ok verdict, s₃))
    (hwarns : s₃.truth verdict = true)
    (htext : (TypeSpec.ofValue type).raw.message s₃.level = .ok text)
    (hshown : value.shown = .ok shown) (hgiven : shown.message s₃.level = .ok given)
    (hfails : host.noteFailure = some message)
    (hnote : s₃.takesNote (defaultWarning s₃ name text given substitute) = true) :
    TypeChecks host value type name default warnIf s (called ++ [warnIf])
      (.error (.host message))
      { s₃ with
        logs := s₃.logs ++ s₃.emitted (defaultWarning s₃ name text given substitute)
        told := s₃.toldAfter [(TypeSpec.ofValue type).raw, shown, substitute] }

/-! ## Every type check follows a rule -/

/-- What a value was expected to be has a text, if the validators of the process registry have names
with texts. -/
theorem Asks.exists_text {spec : TypeSpec} {called : List Value} {valid : Bool} {expected : Value}
    (h : Asks host value spec s called (.ok (valid, expected)) s') (hlabelled : s.Labelled) :
    ∃ text, expected.message .unset = .ok text := by
  cases h with
  | key hfound _ =>
    obtain ⟨_, _, _, hitem, htext⟩ := hlabelled.of_find? hfound
    cases hitem
    exact htext
  | cls _ => exact ⟨_, rfl⟩
  | predicate _ _ => exact ⟨_, rfl⟩
  | unsupported _ => exact ⟨_, rfl⟩

/-- A specification asks something of every value, unless it is a key that is not registered. -/
theorem exists_asks (hlabelled : s.Labelled) {spec : TypeSpec} (htagged : spec.WellTagged)
    (htext : ∃ text, spec.raw.message .unset = .ok text)
    (hmention : spec.kind = .predicate → ∃ text, spec.raw.mention .unset = .ok text)
    (host : Host) (value : Value) :
    (∃ key, spec = ⟨.key, .text key⟩ ∧ s.validatorFor key = none) ∨
      ∃ called answer s', Asks host value spec s called answer s' := by
  obtain ⟨kind, raw⟩ := spec
  cases kind with
  | key =>
    obtain ⟨key, rfl⟩ : ∃ key, raw = .text key := htagged.1 rfl
    cases hfound : s.validatorFor key with
    | none => exact .inl ⟨key, rfl, hfound⟩
    | some item =>
      right
      obtain ⟨id, label, function, rfl, -⟩ := hlabelled.of_find? hfound
      rcases hcall : (call host function [value]).exec s with ⟨f | answer, s'⟩
      · exact ⟨_, _, _, .keyFails hfound hcall⟩
      · exact ⟨_, _, _, .key hfound hcall⟩
  | cls =>
    obtain ⟨c, rfl⟩ : ∃ c, raw = .cls c := htagged.2 rfl
    right
    cases hvalid : value.belongsTo c with
    | error f => exact ⟨_, _, _, .clsFails hvalid⟩
    | ok valid => exact ⟨_, _, _, .cls hvalid⟩
  | predicate =>
    right
    rcases hcall : (call host raw [value]).exec s with ⟨f | answer, s'⟩
    · exact ⟨_, _, _, .predicateFails hcall⟩
    · obtain ⟨expected, hexpected⟩ :=
        (Value.write_sameOutcome .unset s'.level .mention raw).exists_ok (hmention rfl)
      exact ⟨_, _, _, .predicate hcall hexpected⟩
  | unsupported =>
    right
    obtain ⟨text, htext⟩ := (Value.write_sameOutcome .unset s.level .message raw).exists_ok htext
    exact ⟨_, _, _, .unsupported htext⟩

/-- Some rule tells how a type check ends, if the validators of the process registry have names with
texts and the value and the type argument have texts. -/
theorem exists_typeChecks (hlabelled : s.Labelled) (htagged : (TypeSpec.ofValue type).WellTagged)
    (htext : ∃ text, (TypeSpec.ofValue type).raw.message .unset = .ok text)
    (hmention : (TypeSpec.ofValue type).kind = .predicate →
      ∃ text, (TypeSpec.ofValue type).raw.mention .unset = .ok text)
    (hvalue : ∃ given, value.mention .unset = .ok given)
    (host : Host) (name : Value) (default : Option Value) (warnIf : Value) :
    ∃ called answer s', TypeChecks host value type name default warnIf s called answer s' := by
  have hgiven (t : Session) : ∃ given, value.mention t.level = .ok given :=
    (Value.write_sameOutcome .unset t.level .mention value).exists_ok hvalue
  have htext' (t : Session) : ∃ text, (TypeSpec.ofValue type).raw.message t.level = .ok text :=
    (Value.write_sameOutcome .unset t.level .message _).exists_ok htext
  have hnoted : s.noted.Labelled := hlabelled
  -- What is asked, the default and the rule for warnings are gone through in order.
  obtain ⟨key, htype, habsent⟩ | ⟨asked, outcome, s₁, hasks⟩ :=
    exists_asks hnoted htagged htext hmention host value
  · exact ⟨_, _, _, .unknown htype habsent⟩
  match outcome with
  | .error f => exact ⟨_, _, _, .askingFails hasks⟩
  | .ok (true, expected) => exact ⟨_, _, _, .accepts hasks⟩
  | .ok (false, expected) =>
    cases default with
    | none =>
      obtain ⟨text, hexpected⟩ :=
        (Value.write_sameOutcome .unset s₁.level .message _).exists_ok (hasks.exists_text hnoted)
      obtain ⟨given, hgiven⟩ := hgiven s₁
      exact ⟨_, _, _, .refuses hasks rfl hexpected hgiven⟩
    | some d =>
      obtain ⟨more, outcome, s₂, hsubstitutes⟩ := exists_substitutes host value d s₁
      have hfalls : FallsBack host value type (some d) s (asked ++ more) outcome s₂ :=
        ⟨asked, expected, s₁, d, more, rfl, rfl, hasks, hsubstitutes⟩
      cases outcome with
      | error f => exact ⟨_, _, _, .defaultFails hfalls⟩
      | ok substitute =>
        rcases hrule : (call host warnIf [value]).exec s₂ with ⟨f | verdict, s₃⟩
        · exact ⟨_, _, _, .ruleFails hfalls hrule⟩
        cases hverdict : s₃.truth verdict with
        | false => exact ⟨_, _, _, .silent hfalls hrule hverdict⟩
        | true =>
          obtain ⟨given, hgiven⟩ := hgiven s₃
          obtain ⟨text, htext⟩ := htext' s₃
          obtain ⟨shown, hshown, hgiven⟩ := exists_shown hgiven
          obtain hspared | ⟨message, hfails, hnote⟩ := Session.spared_or_noteFails host s₃
            (defaultWarning s₃ name text given substitute)
          · exact ⟨_, _, _, .warns hfalls hrule hverdict htext hshown hgiven hspared⟩
          · exact ⟨_, _, _, .noteFails hfalls hrule hverdict htext hshown hgiven hfails hnote⟩

/-! ## Rules tell what a type check does -/

/-- A type argument that is a key asks the function that is registered under it, and expects what
the registration is named. -/
theorem exec_decideType_of_found {key : String} {id : Nat} {label function : Value}
    (hfound : s.validatorFor key = some (.validator id label function)) (host : Host)
    (value : Value) :
    (decideType host ⟨.key, .text key⟩ value).exec s =
      (do
        let answer ← call host function [value]
        return some (← truth answer, label) : Act (Option (Bool × Value))).exec s := by
  have htext : (message (.text key)).exec s = (.ok key, s) := exec_message_of_ok rfl
  have hlookup : (getOptionalItem processRegistry (.text key)).exec s =
      (.ok (.validator id label function), s) := by
    rw [exec_getOptionalItem_text, ← Session.validatorFor, hfound]
    rfl
  rw [decideType, exec_bind_of_ok htext]
  dsimp only
  rw [exec_bind_of_ok hlookup]
  exact exec_call_validator host id label function value s fun valid => pure (some (valid, label))

/-- What a specification asks decides the type. -/
theorem Asks.exec_eq {spec : TypeSpec} {called : List Value}
    {answer : Except Failure (Bool × Value)} (h : Asks host value spec s called answer s')
    (htext : ∃ text, spec.raw.message s.level = .ok text) :
    (decideType host spec value).exec s = (answer.map some, s') := by
  obtain ⟨text, htext⟩ := htext
  have htold : (message spec.raw).exec s = (.ok text, s) := exec_message_of_ok htext
  cases h with
  | key hfound hcall =>
    exact (exec_decideType_of_found hfound host value).trans (exec_bind_of_ok hcall _)
  | keyFails hfound hcall =>
    exact (exec_decideType_of_found hfound host value).trans (exec_bind_of_error hcall _)
  | cls hvalid =>
    rw [decideType, exec_bind_of_ok htold]
    exact exec_bind_of_ok ((exec_ofExcept s _).trans (congrArg (·, s) hvalid)) _
  | clsFails hfails =>
    rw [decideType, exec_bind_of_ok htold]
    exact exec_bind_of_error ((exec_ofExcept s _).trans (congrArg (·, s) hfails)) _
  | @predicate raw answer expected _ _ hcall hexpected =>
    rw [decideType, exec_bind_of_ok htold]
    dsimp only
    rw [exec_bind_of_ok hcall, exec_bind_of_ok (exec_truth s' answer),
      exec_bind_of_ok (exec_mention_of_ok hexpected)]
    rfl
  | predicateFails hcall =>
    rw [decideType, exec_bind_of_ok htold]
    exact exec_bind_of_error hcall _
  | unsupported htext' =>
    rw [decideType, exec_bind_of_ok htold]
    obtain rfl := Except.ok.inj (htext.symm.trans htext')
    rfl

/-- The verdict of a type check, once it is decided what the value satisfies. -/
def verdictOn (host : Host) (value : Value) (default : Option Value) :
    Option (Bool × Value) → Act Verdict
  | none => return .answers (.bool false)
  | some (true, _) => return .answers value
  | some (false, expected) =>
    match default with
    | none => return .refuses expected
    | some default => return .substitutes (← resolveDefault host default value)

/-- The note comes first, and the verdict of a type check then goes by what is decided. -/
theorem exec_typeVerdict (host : Host) (value type : Value) (default : Option Value)
    (s : Session) :
    (typeVerdict host value type default).exec s =
      (decideType host (TypeSpec.ofValue type) value >>= verdictOn host value default).exec
        s.noted := by
  unfold typeVerdict
  rw [exec_bind_of_ok (exec_warn s _)]
  refine exec_bind_congr rfl fun decision s' _ => ?_
  rcases decision with _ | ⟨_ | _, expected⟩ <;> rfl

/-- A type check goes on from what is decided, with its note made. -/
theorem exec_checkType_eq (host : Host) (value type name : Value) (default : Option Value)
    (warnIf : Value) (s : Session) :
    (checkType host value type name default warnIf).exec s =
      (decideType host (TypeSpec.ofValue type) value >>= fun decision =>
        verdictOn host value default decision >>=
          conclude value name (ask host warnIf value) (reportUnwritten host value type name)).exec
        s.noted := by
  rw [checkType_eq_conclude, exec_bind, exec_typeVerdict, ← exec_bind, bind_assoc]

/-- The verdict on a value that a default stands in for is what becomes of the default. -/
theorem FallsBack.exec_typeVerdict {called : List Value} {answer : Except Failure Value}
    (h : FallsBack host value type default s called answer s')
    (htext : ∃ text, (TypeSpec.ofValue type).raw.message s.level = .ok text) :
    (typeVerdict host value type default).exec s = (answer.map .substitutes, s') := by
  obtain ⟨asked, expected, s₁, d, more, -, rfl, hasks, hsubstitutes⟩ := h
  rw [Act.exec_typeVerdict, exec_bind_of_ok (hasks.exec_eq htext), verdictOn, exec_bind,
    hsubstitutes.exec_eq]
  cases answer <;> rfl

/-- A type check goes on from a default by asking whether to warn. -/
theorem exec_checkType_of_fallsBack {called : List Value} {substitute : Value}
    (h : FallsBack host value type default s called (.ok substitute) s')
    (htext : ∃ text, (TypeSpec.ofValue type).raw.message s.level = .ok text)
    (name warnIf : Value) :
    (checkType host value type name default warnIf).exec s =
      (do
        if ← ask host warnIf value then reportUnwritten host value type name substitute
        return substitute : Act Value).exec s' := by
  have hverdict := h.exec_typeVerdict htext
  rw [checkType_eq_conclude, exec_bind_of_ok hverdict]
  rfl

/-- A type check whose rule says to warn ends by sending the warning. -/
theorem exec_checkType_of_warned {called : List Value} {substitute verdict shown : Value}
    {text given : String} {s₂ s₃ : Session} (hname : IsSubjectName name)
    (hraw : ∃ text, (TypeSpec.ofValue type).raw.message s.level = .ok text)
    (hfalls : FallsBack host value type default s called (.ok substitute) s₂)
    (hrule : (call host warnIf [value]).exec s₂ = (.ok verdict, s₃))
    (hwarns : s₃.truth verdict = true)
    (htext : (TypeSpec.ofValue type).raw.message s₃.level = .ok text)
    (hshown : value.shown = .ok shown) (hgiven : shown.message s₃.level = .ok given) :
    (checkType host value type name default warnIf).exec s =
      ((s₃.sent host (defaultWarning s₃ name text given substitute)).map fun _ => substitute,
        { s₃ with
          logs := s₃.logs ++ s₃.emitted (defaultWarning s₃ name text given substitute)
          told := s₃.toldAfter [(TypeSpec.ofValue type).raw, shown, substitute] }) := by
  have hask : (ask host warnIf value).exec s₂ = (.ok true, s₃) := by
    rw [ask, exec_bind_of_ok hrule, exec_truth, hwarns]
  have hwarning : typeWarning s₃ type name shown substitute =
      defaultWarning s₃ name text given substitute := by
    rw [typeWarning, substitutionWarning, htext, hgiven, defaultWarning]
    cases substitute.inner s₃.level <;> rfl
  have hasked : typeWarningAsked s₃ type shown substitute =
      [(TypeSpec.ofValue type).raw, shown, substitute] := by
    rw [typeWarningAsked, substitutionAsked, htext, hgiven]
  rw [exec_checkType_of_fallsBack hfalls hraw, exec_bind_of_ok hask, if_pos rfl, exec_bind,
    exec_reportUnwritten_eq hname hshown, hwarning, hasked]
  cases s₃.sent host (defaultWarning s₃ name text given substitute) <;> rfl

/-- The rules tell how a type check ends. -/
theorem TypeChecks.exec_eq {called : List Value} {answer : Except Failure Value}
    (hname : IsSubjectName name)
    (htext : ∃ text, (TypeSpec.ofValue type).raw.message .unset = .ok text)
    (h : TypeChecks host value type name default warnIf s called answer s') :
    (checkType host value type name default warnIf).exec s = (answer, s') := by
  have htext' : ∃ text, (TypeSpec.ofValue type).raw.message s.level = .ok text :=
    (Value.write_sameOutcome .unset s.level .message _).exists_ok htext
  cases h with
  | @unknown key htype habsent =>
    have hdecide : (decideType host (TypeSpec.ofValue type) value).exec s.noted =
        (.ok none, s.noted) := by
      have hlookup : (getOptionalItem processRegistry (.text key)).exec s.noted =
          (.ok .null, s.noted) := by
        rw [exec_getOptionalItem_text]
        exact congrArg (fun found : Option Value => (Except.ok (found.getD .null), s.noted)) habsent
      rw [htype, decideType, exec_bind_of_ok (exec_message_of_ok rfl)]
      exact exec_bind_of_ok hlookup _
    rw [exec_checkType_eq]
    exact exec_bind_of_ok hdecide _
  | askingFails hasks =>
    rw [exec_checkType_eq]
    exact exec_bind_of_error (hasks.exec_eq htext') _
  | accepts hasks =>
    rw [exec_checkType_eq]
    exact exec_bind_of_ok (hasks.exec_eq htext') _
  | refuses hasks hnone hexpected hgiven =>
    subst hnone
    have hsentence := exec_rejection_of_texts hname hexpected hgiven
    rw [exec_checkType_eq]
    exact (exec_bind_of_ok (hasks.exec_eq htext') _).trans (exec_bind_of_ok hsentence _)
  | defaultFails hfalls =>
    have hverdict := hfalls.exec_typeVerdict htext'
    rw [checkType_eq_conclude]
    exact exec_bind_of_error hverdict _
  | ruleFails hfalls hrule =>
    rw [exec_checkType_of_fallsBack hfalls htext']
    exact exec_bind_of_error (exec_bind_of_error hrule _) _
  | @silent _ substitute verdict s₂ _ hfalls hrule hsilent =>
    have hask : (ask host warnIf value).exec s₂ = (.ok false, s') := by
      rw [ask, exec_bind_of_ok hrule, exec_truth, hsilent]
    rw [exec_checkType_of_fallsBack hfalls htext', exec_bind_of_ok hask]
    rfl
  | warns hfalls hrule hwarns htext₃ hshown hgiven hspared =>
    rw [exec_checkType_of_warned hname htext' hfalls hrule hwarns htext₃ hshown hgiven,
      Session.sent_of_spared hspared]
    rfl
  | noteFails hfalls hrule hwarns htext₃ hshown hgiven hfails hnote =>
    rw [exec_checkType_of_warned hname htext' hfalls hrule hwarns htext₃ hshown hgiven,
      Session.sent_of_noteFails hfails hnote]
    rfl

/-! ## Recorded calls -/

/-- What is asked of a value leaves the calls of what is called for it. -/
theorem Asks.calls_eq {spec : TypeSpec} {called : List Value}
    {answer : Except Failure (Bool × Value)} (h : Asks host value spec s called answer s')
    (hplain : ∀ callee ∈ called, Plain host value callee) :
    s'.calls = s.calls ++ called.flatMap (recorded value) := by
  cases h with
  | key _ hcall | keyFails _ hcall =>
    simpa using (hplain _ List.mem_cons_self).calls_eq hcall
  | predicate hcall _ => simpa using (hplain _ List.mem_cons_self).calls_eq hcall
  | predicateFails hcall => simpa using (hplain _ List.mem_cons_self).calls_eq hcall
  | cls | clsFails | unsupported => simp

theorem Substitutes.calls_eq {substitute : Value} {called : List Value}
    {answer : Except Failure Value} (h : Substitutes host value substitute s called answer s')
    (hplain : ∀ callee ∈ called, Plain host value callee) :
    s'.calls = s.calls ++ called.flatMap (recorded value) := by
  cases h with
  | itself => simp
  | called _ hcall => simpa using (hplain _ List.mem_cons_self).calls_eq hcall

theorem FallsBack.calls_eq {called : List Value} {answer : Except Failure Value}
    (h : FallsBack host value type default s called answer s')
    (hplain : ∀ callee ∈ called, Plain host value callee) :
    s'.calls = s.calls ++ called.flatMap (recorded value) := by
  obtain ⟨asked, expected, s₁, d, more, rfl, -, hasks, hsubstitutes⟩ := h
  have hfirst := hasks.calls_eq fun callee hcallee => hplain callee (List.mem_append_left _ hcallee)
  have hsecond := hsubstitutes.calls_eq fun callee hcallee =>
    hplain callee (List.mem_append_right _ hcallee)
  -- The note that comes first records no call.
  have hnoted : s.noted.calls = s.calls := rfl
  rw [hsecond, hfirst, hnoted, List.flatMap_append, List.append_assoc]

/-- A type check leaves the calls of the callables that it calls, each once and in order. -/
theorem TypeChecks.calls_eq {called : List Value} {answer : Except Failure Value}
    (h : TypeChecks host value type name default warnIf s called answer s')
    (hplain : ∀ callee ∈ called, Plain host value callee) :
    s'.calls = s.calls ++ called.flatMap (recorded value) := by
  -- What comes before the rule for warnings is told by `FallsBack.calls_eq`.
  have hrule {earlier : List Value} {outcome : Except Failure Value} {substitute : Value}
      {s₂ s₃ : Session} (hfalls : FallsBack host value type default s earlier (.ok substitute) s₂)
      (hcall : (call host warnIf [value]).exec s₂ = (outcome, s₃))
      (hplain : ∀ callee ∈ earlier ++ [warnIf], Plain host value callee) :
      s₃.calls = s.calls ++ (earlier ++ [warnIf]).flatMap (recorded value) := by
    have hearlier := hfalls.calls_eq fun callee hcallee =>
      hplain callee (List.mem_append_left _ hcallee)
    have hlast := (hplain warnIf (by simp)).calls_eq hcall
    rw [hlast, hearlier, List.flatMap_append, List.append_assoc]
    simp
  cases h with
  | unknown => exact (List.append_nil _).symm
  | askingFails hasks => exact hasks.calls_eq hplain
  | accepts hasks => exact hasks.calls_eq hplain
  | refuses hasks => exact hasks.calls_eq hplain
  | defaultFails hfalls => exact hfalls.calls_eq hplain
  | ruleFails hfalls hcall => exact hrule hfalls hcall hplain
  | silent hfalls hcall _ => exact hrule hfalls hcall hplain
  | warns hfalls hcall _ _ _ _ _ | noteFails hfalls hcall _ _ _ _ _ _ =>
    have hcalls := hrule hfalls hcall hplain
    exact hcalls

/-! ## Type checks -/

/-- Where the process registry was built by filling it, by registrations and by settings, a type
check of a value with a text by an argument with a text ends as its rules tell, and in no other way.
A key that is not registered answers false, whatever the default and the rule for warnings, and
nothing is called or logged. Otherwise a value that is accepted is the answer. One that is rejected
is reported exactly if no default is given; any default counts, and what becomes of it is the
answer, once the rule for warnings has been asked, with one warning where that says so, of which
only a note may fail. Each callable is called on the value once, so calls of the host's callables
that call no others are recorded once and in that order. -/
theorem checkType_follows_rules {modules : Modules} (hbuilt : Built modules s) (host : Host)
    (default : Option Value) (warnIf : Value) (htagged : (TypeSpec.ofValue type).WellTagged)
    (htext : ∃ text, (TypeSpec.ofValue type).raw.message .unset = .ok text)
    (hmention : (TypeSpec.ofValue type).kind = .predicate →
      ∃ text, (TypeSpec.ofValue type).raw.mention .unset = .ok text)
    (hname : IsSubjectName name) (hvalue : ∃ given, value.mention .unset = .ok given) :
    (∀ answer s',
      (checkType host value type name default warnIf).exec s = (answer, s') ↔
        ∃ called, TypeChecks host value type name default warnIf s called answer s') ∧
    ∀ called answer s',
      TypeChecks host value type name default warnIf s called answer s' →
      (∀ callee ∈ called, Plain host value callee) →
      s'.calls = s.calls ++ called.flatMap (recorded value) := by
  refine ⟨fun answer s' => ⟨fun h => ?_, fun ⟨called, hchecks⟩ => hchecks.exec_eq hname htext⟩,
    fun called answer s' hchecks hplain => hchecks.calls_eq hplain⟩
  -- Some rule applies; what it tells is what the type check does, so it is what was given.
  obtain ⟨called, answer', s'', hchecks⟩ := exists_typeChecks hbuilt.labelled htagged htext hmention
    hvalue host name default warnIf
  obtain ⟨rfl, rfl⟩ := Prod.mk.inj ((hchecks.exec_eq hname htext).symm.trans h)
  exact ⟨called, hchecks⟩

/-- A session in which a function is registered under a key, with a name for messages. -/
def namedValidator : Session :=
  ((setValidator processRegistry (.text "even") (hostFunction 0 "is_even")
    (.text "even number")).exec .initial).2

/-- A rejected value is replaced by what its default answers, though that counts as false, and the
warning tells the key and not the name of the registration. With a key that is not registered, the
same call answers false and calls nothing. -/
theorem checkType_follows_rules_falsySubstitute :
    (∃ s', (checkType answering (.int 5) (.text "even") (.text "n") (some (hostFunction 1 "zero"))
        (hostFunction 2 "always")).exec namedValidator = (.ok (.int 0), s') ∧
      s'.calls = [⟨0, [.int 5]⟩, ⟨1, [.int 5]⟩, ⟨2, [.int 5]⟩] ∧
      s'.logs = [⟨.validation, .warning, "n: Expected even, 5 given. Using default: 0"⟩]) ∧
    (checkType answering (.int 5) (.text "odd") (.text "n") (some (hostFunction 1 "zero"))
      (hostFunction 2 "always")).exec namedValidator = (.ok (.bool false), namedValidator.noted) := by
  have hbuilt : Built [] namedValidator := .setValidator (.initial []) _ _ (.inr ⟨_, rfl⟩)
  have hname : IsSubjectName (.text "n") := .inr ⟨_, rfl⟩
  have hvalue : ∃ given, (Value.int 5).mention .unset = .ok given := ⟨_, rfl⟩
  have htagged (key : String) : (TypeSpec.ofValue (.text key)).WellTagged :=
    TypeSpec.wellTagged_ofValue nofun
  have hrules (key : String) := checkType_follows_rules hbuilt answering
    (some (hostFunction 1 "zero")) (hostFunction 2 "always") (htagged key) ⟨key, rfl⟩ nofun hname
    hvalue
  refine ⟨?_, ((hrules "odd").1 _ _).2 ⟨_, .unknown rfl rfl⟩⟩
  have hplain (id : Nat) (name : String) : Plain answering (.int 5) (hostFunction id name) := by
    refine plain_foreign rfl rfl fun s => ?_
    match id with
    | 0 | 1 | _ + 2 => rfl
  -- The function rejects the value, the default comes to zero, and the rule says to warn.
  have hfound : namedValidator.noted.validatorFor "even" =
      some (.validator 7 (.text "even number") (hostFunction 0 "is_even")) := rfl
  have hcall : (call answering (hostFunction 0 "is_even") [.int 5]).exec namedValidator.noted =
      (.ok (.bool false), { namedValidator.noted with calls := [⟨0, [.int 5]⟩] }) := rfl
  have hchecks : TypeChecks answering (.int 5) (.text "even") (.text "n")
      (some (hostFunction 1 "zero")) (hostFunction 2 "always") namedValidator _ _ _ :=
    .warns ⟨_, _, _, _, _, rfl, rfl, .key hfound hcall, .called rfl rfl⟩ rfl rfl rfl rfl rfl
      (.inl rfl)
  refine ⟨_, ((hrules "even").1 _ _).2 ⟨_, hchecks⟩, (hrules "even").2 _ _ _ hchecks ?_, rfl⟩
  intro callee hcallee
  simp only [List.cons_append, List.nil_append, List.mem_cons, List.not_mem_nil, or_false]
    at hcallee
  rcases hcallee with rfl | rfl | rfl <;> exact hplain _ _

end Act

end Conform
