import Conform.Proofs.Check.Substitution

/-!
# The rules of a check

All ways in which a check comes to an end, each as a rule (`Checks`): what it answers or how it
fails, the session that it leaves, and the callables that it calls on the value, in order. Between
the calls nothing happens to the session; each call goes on from what the one before leaves.

* `Act.Substitutes`: what becomes of a default.
* `Act.Checks.exec_eq` and `Act.exists_checks`: a check ends as a rule says, and some rule always
  applies.
* `Act.Checks.calls_eq`: each callable of the host is called once.
* `Act.check_follows_rules`: the two together.
-/

namespace Conform

namespace Session

/-- The rule that is asked whether to warn: the one that is given if it counts as true, and
otherwise whether the value is present. -/
def ruleOf (s : Session) (warnIf : Value) : Value :=
  if s.truth warnIf then warnIf else .routine .isPresent

end Session

namespace Act

variable {host : Host} {s s' : Session}
  {value validator name default warnIf : Value} {expected : String}

/-! ## Rules -/

/-- What becomes of a default in a session, with the callables that are called on the value. One
that can be called is called once, and what comes of the call is what comes of it; any other stands
for itself. -/
inductive Substitutes (host : Host) (value default : Value) (s : Session) :
    List Value → Except Failure Value → Session → Prop where
  | itself (hplain : default.isCallable = false) :
    Substitutes host value default s [] (.ok default) s
  | called {answer : Except Failure Value} {s' : Session} (hcallable : default.isCallable = true)
    (hcall : (call host default [value]).exec s = (answer, s')) :
    Substitutes host value default s [default] answer s'

/-- A validator is called on a value and answers with what counts as false. -/
def Rejects (host : Host) (value validator : Value) (s s' : Session) : Prop :=
  ∃ answer, (call host validator [value]).exec s = (.ok answer, s') ∧ s'.truth answer = false

/-- A value is rejected, and a default that counts as true then comes to an answer or a failure. -/
def Falls (host : Host) (value validator default : Value) (s : Session) (called : List Value)
    (answer : Except Failure Value) (s' : Session) : Prop :=
  ∃ s₁, Rejects host value validator s s₁ ∧ s₁.truth default = true ∧
    Substitutes host value default s₁ called answer s'

/-- How a check ends: the callables that it calls on the value, its answer or failure, and the
session that it leaves. -/
inductive Checks (host : Host) (value validator : Value) (expected : String)
    (name default warnIf : Value) (s : Session) :
    List Value → Except Failure Value → Session → Prop where
  /-- A failure of the validator is passed on. -/
  | validatorFails {f : Failure} {s₁ : Session}
    (hcall : (call host validator [value]).exec s = (.error f, s₁)) :
    Checks host value validator expected name default warnIf s [validator] (.error f) s₁
  /-- A value that is accepted is the answer. -/
  | accepts {answer : Value} {s₁ : Session}
    (hcall : (call host validator [value]).exec s = (.ok answer, s₁))
    (hvalid : s₁.truth answer = true) :
    Checks host value validator expected name default warnIf s [validator] (.ok value) s₁
  /-- A value that is rejected is reported where the default counts as false. -/
  | refuses {given : String} {s₁ : Session} (hrejects : Rejects host value validator s s₁)
    (hnone : s₁.truth default = false) (hgiven : value.mention s₁.level = .ok given) :
    Checks host value validator expected name default warnIf s [validator]
      (.error (.rejected
        { value, expected := .text expected, name,
          message := Message.sentence (Message.subject name) expected given })) s₁
  /-- A failure of the default is passed on. -/
  | defaultFails {called : List Value} {f : Failure} {s₂ : Session}
    (hfalls : Falls host value validator default s called (.error f) s₂) :
    Checks host value validator expected name default warnIf s (validator :: called) (.error f) s₂
  /-- A failure of the rule for warnings is passed on. -/
  | ruleFails {called : List Value} {substitute : Value} {f : Failure} {s₂ s₃ : Session}
    (hfalls : Falls host value validator default s called (.ok substitute) s₂)
    (hrule : (call host (s₂.ruleOf warnIf) [value]).exec s₂ = (.error f, s₃)) :
    Checks host value validator expected name default warnIf s
      (validator :: called ++ [s₂.ruleOf warnIf]) (.error f) s₃
  /-- The substitute is the answer where the rule says not to warn. -/
  | silent {called : List Value} {substitute verdict : Value} {s₂ s₃ : Session}
    (hfalls : Falls host value validator default s called (.ok substitute) s₂)
    (hrule : (call host (s₂.ruleOf warnIf) [value]).exec s₂ = (.ok verdict, s₃))
    (hsilent : s₃.truth verdict = false) :
    Checks host value validator expected name default warnIf s
      (validator :: called ++ [s₂.ruleOf warnIf]) (.ok substitute) s₃
  /-- The substitute is the answer where the rule says to warn, and one warning is sent. -/
  | warns {called : List Value} {substitute verdict : Value} {given : String} {s₂ s₃ : Session}
    (hfalls : Falls host value validator default s called (.ok substitute) s₂)
    (hrule : (call host (s₂.ruleOf warnIf) [value]).exec s₂ = (.ok verdict, s₃))
    (hwarns : s₃.truth verdict = true) (hgiven : value.mention s₃.level = .ok given)
    (hspared : host.noteFailure = none ∨
      s₃.takesNote (.ok (Message.sentence (Message.subject name) expected given)) = false) :
    Checks host value validator expected name default warnIf s
      (validator :: called ++ [s₂.ruleOf warnIf]) (.ok substitute)
      { s₃ with
        logs := s₃.logs ++
          s₃.emitted (.ok (Message.sentence (Message.subject name) expected given)) }
  /-- Where a note is taken of the warning, because a handler fails at it, a failure of the note is
  passed on. -/
  | noteFails {called : List Value} {substitute verdict : Value} {given message : String}
    {s₂ s₃ : Session} (hfalls : Falls host value validator default s called (.ok substitute) s₂)
    (hrule : (call host (s₂.ruleOf warnIf) [value]).exec s₂ = (.ok verdict, s₃))
    (hwarns : s₃.truth verdict = true) (hgiven : value.mention s₃.level = .ok given)
    (hfails : host.noteFailure = some message)
    (hnote : s₃.takesNote (.ok (Message.sentence (Message.subject name) expected given)) = true) :
    Checks host value validator expected name default warnIf s
      (validator :: called ++ [s₂.ruleOf warnIf]) (.error (.host message))
      { s₃ with
        logs := s₃.logs ++
          s₃.emitted (.ok (Message.sentence (Message.subject name) expected given)) }

/-! ## Every check follows a rule -/

/-- A default becomes something in every session. -/
theorem exists_substitutes (host : Host) (value default : Value) (s : Session) :
    ∃ called answer s', Substitutes host value default s called answer s' := by
  cases hcallable : default.isCallable with
  | false => exact ⟨[], .ok default, s, .itself hcallable⟩
  | true => exact ⟨[default], _, _, .called hcallable rfl⟩

/-- Some rule tells how a check of a value with a text ends. -/
theorem exists_checks (hvalue : ∃ given, value.mention .unset = .ok given)
    (host : Host) (s : Session) (validator : Value) (expected : String)
    (name default warnIf : Value) :
    ∃ called answer s',
      Checks host value validator expected name default warnIf s called answer s' := by
  have hgiven (t : Session) : ∃ given, value.mention t.level = .ok given :=
    (Value.write_sameOutcome .unset t.level .mention value).exists_ok hvalue
  -- The validator, the default and the rule for warnings are gone through in order.
  rcases hcall : (call host validator [value]).exec s with ⟨f | answer, s₁⟩
  · exact ⟨_, _, _, .validatorFails hcall⟩
  cases hvalid : s₁.truth answer with
  | true => exact ⟨_, _, _, .accepts hcall hvalid⟩
  | false =>
    have hrejects : Rejects host value validator s s₁ := ⟨answer, hcall, hvalid⟩
    cases hdefault : s₁.truth default with
    | false =>
      obtain ⟨given, hgiven⟩ := hgiven s₁
      exact ⟨_, _, _, .refuses hrejects hdefault hgiven⟩
    | true =>
      obtain ⟨called, outcome, s₂, hsubstitutes⟩ := exists_substitutes host value default s₁
      have hfalls : Falls host value validator default s called outcome s₂ :=
        ⟨s₁, hrejects, hdefault, hsubstitutes⟩
      cases outcome with
      | error f => exact ⟨_, _, _, .defaultFails hfalls⟩
      | ok substitute =>
        rcases hrule : (call host (s₂.ruleOf warnIf) [value]).exec s₂ with ⟨f | verdict, s₃⟩
        · exact ⟨_, _, _, .ruleFails hfalls hrule⟩
        cases hverdict : s₃.truth verdict with
        | false => exact ⟨_, _, _, .silent hfalls hrule hverdict⟩
        | true =>
          obtain ⟨given, hgiven⟩ := hgiven s₃
          obtain hspared | ⟨message, hfails, hnote⟩ := Session.spared_or_noteFails host s₃
            (.ok (Message.sentence (Message.subject name) expected given))
          · exact ⟨_, _, _, .warns hfalls hrule hverdict hgiven hspared⟩
          · exact ⟨_, _, _, .noteFails hfalls hrule hverdict hgiven hfails hnote⟩

/-! ## Rules tell what a check does -/

/-- The verdict on a value that is rejected where the default counts as false. -/
theorem exec_verdict_of_refused (hrejects : Rejects host value validator s s')
    (hnone : s'.truth default = false) (expected : Value) :
    (verdict host value validator expected default).exec s = (.ok (.refuses expected), s') := by
  obtain ⟨answer, hcall, hinvalid⟩ := hrejects
  unfold verdict
  rw [exec_bind_of_ok hcall, exec_bind_of_ok (exec_truth s' answer), hinvalid, if_neg (by simp),
    exec_bind_of_ok (exec_truth s' default), hnone, if_neg (by simp), exec_pure]

/-- What becomes of a default is what it resolves to. -/
theorem Substitutes.exec_eq {called : List Value} {answer : Except Failure Value}
    (h : Substitutes host value default s called answer s') :
    (resolveDefault host default value).exec s = (answer, s') := by
  unfold resolveDefault
  cases h with
  | itself hplain => rw [hplain, if_neg (by simp), exec_pure]
  | called hcallable hcall => rw [if_pos hcallable, hcall]

/-- The verdict on a value that a default stands in for is what becomes of the default. -/
theorem Falls.exec_verdict {called : List Value} {answer : Except Failure Value}
    (h : Falls host value validator default s called answer s') (expected : Value) :
    (verdict host value validator expected default).exec s = (answer.map .substitutes, s') := by
  obtain ⟨s₁, ⟨rejection, hcall, hinvalid⟩, hsome, hsubstitutes⟩ := h
  unfold verdict
  rw [exec_bind_of_ok hcall, exec_bind_of_ok (exec_truth s₁ rejection), hinvalid, if_neg (by simp),
    exec_bind_of_ok (exec_truth s₁ default), if_pos hsome, exec_bind, hsubstitutes.exec_eq]
  cases answer <;> rfl

/-- Asking whether to warn calls the rule. -/
theorem exec_askPresent (host : Host) (warnIf value : Value) (s : Session) :
    (askPresent host warnIf value).exec s = (ask host (s.ruleOf warnIf) value).exec s := by
  unfold askPresent
  rw [exec_bind_of_ok (exec_truth s warnIf)]
  rfl

/-- A check goes on from a default by asking whether to warn. -/
theorem exec_check_of_falls {called : List Value} {substitute : Value}
    (h : Falls host value validator default s called (.ok substitute) s')
    (expected name warnIf : Value) :
    (check host value validator expected name default warnIf).exec s =
      (do
        if ← ask host (s'.ruleOf warnIf) value then reportWritten host value expected name
        return substitute : Act Value).exec s' := by
  have hverdict := h.exec_verdict expected
  rw [check_eq_conclude, exec_bind_of_ok hverdict, conclude]
  exact exec_bind_congr (exec_askPresent host warnIf value s') fun _ _ _ => rfl

/-- A check whose rule says to warn ends by sending the warning. -/
theorem exec_check_of_warned {called : List Value} {substitute verdict : Value} {given : String}
    {s₂ s₃ : Session} (hname : IsSubjectName name)
    (hfalls : Falls host value validator default s called (.ok substitute) s₂)
    (hrule : (call host (s₂.ruleOf warnIf) [value]).exec s₂ = (.ok verdict, s₃))
    (hwarns : s₃.truth verdict = true) (hgiven : value.mention s₃.level = .ok given) :
    (check host value validator (.text expected) name default warnIf).exec s =
      ((s₃.sent host (.ok (Message.sentence (Message.subject name) expected given))).map
          fun _ => substitute,
        { s₃ with logs := s₃.logs ++
            s₃.emitted (.ok (Message.sentence (Message.subject name) expected given)) }) := by
  have hask : (ask host (s₂.ruleOf warnIf) value).exec s₂ = (.ok true, s₃) := by
    rw [ask, exec_bind_of_ok hrule, exec_truth, hwarns]
  have hexpected : (Value.text expected).message s₃.level = .ok expected := rfl
  rw [exec_check_of_falls hfalls, exec_bind_of_ok hask, if_pos rfl, exec_bind,
    exec_reportWritten_eq hname hexpected hgiven host]
  cases s₃.sent host (.ok (Message.sentence (Message.subject name) expected given)) <;> rfl

/-- The rules tell how a check ends. -/
theorem Checks.exec_eq {called : List Value} {answer : Except Failure Value}
    (hname : IsSubjectName name)
    (h : Checks host value validator expected name default warnIf s called answer s') :
    (check host value validator (.text expected) name default warnIf).exec s = (answer, s') := by
  cases h with
  | validatorFails hcall => exact exec_bind_of_error hcall _
  | accepts hcall hvalid =>
    unfold check
    rw [exec_bind_of_ok hcall, exec_bind_of_ok (exec_truth s' _), if_pos hvalid, exec_pure]
  | refuses hrejects hnone hgiven =>
    rw [check_eq_conclude, exec_bind_of_ok (exec_verdict_of_refused hrejects hnone _), conclude,
      reject, exec_bind_of_ok (exec_rejection_eq hname expected hgiven)]
    rfl
  | defaultFails hfalls =>
    have hverdict := hfalls.exec_verdict (.text expected)
    rw [check_eq_conclude]
    exact exec_bind_of_error hverdict _
  | ruleFails hfalls hrule =>
    rw [exec_check_of_falls hfalls]
    exact exec_bind_of_error (exec_bind_of_error hrule _) _
  | @silent _ substitute verdict s₂ _ hfalls hrule hsilent =>
    have hask : (ask host (s₂.ruleOf warnIf) value).exec s₂ = (.ok false, s') := by
      rw [ask, exec_bind_of_ok hrule, exec_truth, hsilent]
    rw [exec_check_of_falls hfalls, exec_bind_of_ok hask]
    rfl
  | warns hfalls hrule hwarns hgiven hspared =>
    rw [exec_check_of_warned hname hfalls hrule hwarns hgiven, Session.sent_of_spared hspared]
    rfl
  | noteFails hfalls hrule hwarns hgiven hfails hnote =>
    rw [exec_check_of_warned hname hfalls hrule hwarns hgiven,
      Session.sent_of_noteFails hfails hnote]
    rfl

/-! ## Recorded calls -/

/-- What the record of calls tells of a call on a value, if nothing else is called on the way: the
call itself, where a callable of the host is called. -/
def recorded (value : Value) : Value → List Call
  | .foreign id _ _ => [⟨id, [value]⟩]
  | _ => []

/-- A call on a value leaves the record of itself and of no other call. -/
def Plain (host : Host) (value callee : Value) : Prop :=
  ∀ s, ((call host callee [value]).exec s).2.calls = s.calls ++ recorded value callee

theorem Plain.calls_eq {callee : Value} {answer : Except Failure Value}
    (h : Plain host value callee) (hcall : (call host callee [value]).exec s = (answer, s')) :
    s'.calls = s.calls ++ recorded value callee := by
  rw [← h s, hcall]

/-- A callable of the host is plain if its answers record no calls. -/
theorem plain_foreign {id : Nat} {face : Face} {ownName : Option Value}
    (hcallable : face.callable = true) (haccepts : host.accepts id 1 = true)
    (hrespond : ∀ s, ((host.respond id [value]).exec s).2.calls = s.calls) :
    Plain host value (.foreign id face ownName) := by
  intro s
  have hcall : call host (.foreign id face ownName) [value] = (do
      modify fun s => { s with calls := s.calls ++ [⟨id, [value]⟩] }
      host.respond id [value] : Act Value) := by
    simp [call, callHost, hcallable, haccepts]
  rw [hcall, exec_bind_of_ok (exec_modify s _), hrespond]
  rfl

theorem Rejects.calls_eq (h : Rejects host value validator s s')
    (hplain : Plain host value validator) : s'.calls = s.calls ++ recorded value validator := by
  obtain ⟨answer, hcall, -⟩ := h
  exact hplain.calls_eq hcall

/-- A value that a default stands in for leaves the calls of the validator and of the default. -/
theorem Falls.calls_eq {called : List Value} {answer : Except Failure Value}
    (h : Falls host value validator default s called answer s')
    (hplain : ∀ callee ∈ validator :: called, Plain host value callee) :
    s'.calls = s.calls ++ (validator :: called).flatMap (recorded value) := by
  obtain ⟨s₁, hrejects, -, hsubstitutes⟩ := h
  have hfirst := hrejects.calls_eq (hplain validator List.mem_cons_self)
  cases hsubstitutes with
  | itself => simp [hfirst]
  | called _ hcall =>
    have hsecond := (hplain default (by simp)).calls_eq hcall
    rw [hsecond, hfirst, List.append_assoc]
    simp

/-- A check leaves the calls of the callables that it calls, each once and in order. -/
theorem Checks.calls_eq {called : List Value} {answer : Except Failure Value}
    (h : Checks host value validator expected name default warnIf s called answer s')
    (hplain : ∀ callee ∈ called, Plain host value callee) :
    s'.calls = s.calls ++ called.flatMap (recorded value) := by
  -- What comes before the rule for warnings is told by `Falls.calls_eq`, and the rule comes last.
  have hrule {earlier : List Value} {outcome : Except Failure Value} {substitute : Value}
      {s₂ s₃ : Session} (hfalls : Falls host value validator default s earlier (.ok substitute) s₂)
      (hcall : (call host (s₂.ruleOf warnIf) [value]).exec s₂ = (outcome, s₃))
      (hplain : ∀ callee ∈ validator :: earlier ++ [s₂.ruleOf warnIf], Plain host value callee) :
      s₃.calls = s.calls ++
        (validator :: earlier ++ [s₂.ruleOf warnIf]).flatMap (recorded value) := by
    have hearlier := hfalls.calls_eq fun callee hcallee =>
      hplain callee (List.mem_append_left _ hcallee)
    have hlast := (hplain (s₂.ruleOf warnIf) (by simp)).calls_eq hcall
    rw [hlast, hearlier, List.flatMap_append, List.append_assoc]
    simp
  cases h with
  | validatorFails hcall =>
    simpa using (hplain validator List.mem_cons_self).calls_eq hcall
  | accepts hcall _ => simpa using (hplain validator List.mem_cons_self).calls_eq hcall
  | refuses hrejects _ _ => simpa using hrejects.calls_eq (hplain validator List.mem_cons_self)
  | defaultFails hfalls => exact hfalls.calls_eq hplain
  | ruleFails hfalls hcall => exact hrule hfalls hcall hplain
  | silent hfalls hcall _ => exact hrule hfalls hcall hplain
  | warns hfalls hcall _ _ _ | noteFails hfalls hcall _ _ _ _ =>
    -- The warning adds records of its own kind and no calls.
    have hcalls := hrule hfalls hcall hplain
    exact hcalls

/-! ## Checks -/

/-- A check of a value that has a text ends as its rules tell, and in no other way. The validator is
called first. A value that it accepts is the answer; one that it rejects is reported, unless the
default counts as true. Then what becomes of the default is the answer, once the rule for warnings
has been asked, and one warning is sent where the rule says so; only a note that is taken of the
warning may fail. Each callable is called on the value once, so calls of the host's callables that
call no others are recorded once and in that order. -/
theorem check_follows_rules (host : Host) (s : Session) (validator : Value) (expected : String)
    (default warnIf : Value) (hname : IsSubjectName name)
    (hvalue : ∃ given, value.mention .unset = .ok given) :
    (∀ answer s',
      (check host value validator (.text expected) name default warnIf).exec s = (answer, s') ↔
        ∃ called, Checks host value validator expected name default warnIf s called answer s') ∧
    ∀ called answer s',
      Checks host value validator expected name default warnIf s called answer s' →
      (∀ callee ∈ called, Plain host value callee) →
      s'.calls = s.calls ++ called.flatMap (recorded value) := by
  refine ⟨fun answer s' => ⟨fun h => ?_, fun ⟨called, hchecks⟩ => hchecks.exec_eq hname⟩,
    fun called answer s' hchecks hplain => hchecks.calls_eq hplain⟩
  -- Some rule applies; what it tells is what the check does, so it is what was given.
  obtain ⟨called, answer', s'', hchecks⟩ :=
    exists_checks hvalue host s validator expected name default warnIf
  obtain ⟨rfl, rfl⟩ := Prod.mk.inj ((hchecks.exec_eq hname).symm.trans h)
  exact ⟨called, hchecks⟩

/-- A function of the host. -/
def hostFunction (id : Nat) (name : String) : Value :=
  .foreign id
    { cls := Class.function, text := .ok name, inner := .ok name, truth := true, callable := true }
    (some (.text name))

/-- A host whose first function answers false, the second zero, and the others true. -/
def answering : Host where
  accepts _ count := count == 1
  respond id _ :=
    match id with
    | 0 => return .bool false
    | 1 => return .int 0
    | _ => return .bool true
  operate _ _ := Act.fault .typeMismatch
  instantiate _ _ := Act.fault .typeMismatch

/-- A rejected value is replaced by what its default answers, though that counts as false, and a
warning is sent since the rule says so. -/
theorem check_follows_rules_falsySubstitute :
    ∃ s', (check answering (.int 5) (hostFunction 0 "is_even") (.text "even") (.text "n")
        (hostFunction 1 "zero") (hostFunction 2 "always")).exec .initial = (.ok (.int 0), s') ∧
      s'.calls = [⟨0, [.int 5]⟩, ⟨1, [.int 5]⟩, ⟨2, [.int 5]⟩] ∧
      s'.logs = [⟨.validation, .warning, "n: Expected even, 5 given."⟩] := by
  have hname : IsSubjectName (.text "n") := .inr ⟨_, rfl⟩
  have hvalue : ∃ given, (Value.int 5).mention .unset = .ok given := ⟨_, rfl⟩
  obtain ⟨hrules, hcalls⟩ := check_follows_rules answering .initial (hostFunction 0 "is_even")
    "even" (hostFunction 1 "zero") (hostFunction 2 "always") hname hvalue
  have hplain (id : Nat) (name : String) : Plain answering (.int 5) (hostFunction id name) := by
    refine plain_foreign rfl rfl fun s => ?_
    match id with
    | 0 | 1 | _ + 2 => rfl
  have hchecks : Checks answering (.int 5) (hostFunction 0 "is_even") "even" (.text "n")
      (hostFunction 1 "zero") (hostFunction 2 "always") .initial _ _ _ :=
    .warns ⟨_, ⟨_, rfl, rfl⟩, rfl, .called rfl rfl⟩ rfl rfl rfl (.inl rfl)
  refine ⟨_, (hrules _ _).2 ⟨_, hchecks⟩, hcalls _ _ _ hchecks ?_, rfl⟩
  intro callee hcallee
  simp only [List.cons_append, List.nil_append, List.mem_cons, List.not_mem_nil, or_false]
    at hcallee
  rcases hcallee with rfl | rfl | rfl <;> exact hplain _ _

end Act

end Conform
