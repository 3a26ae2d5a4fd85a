import Conform.Check
import Conform.Proofs.Session.Run

/-!
# Warnings on the validation channel

What sending a warning comes to in a session. Nothing happens where the channel does not let it
through. Otherwise its text is made, which may ask values for theirs, and the warning is recorded,
with a note if a handler fails or if there is no text. Only the note can fail.

* `Session.emitted`, `Session.sent` and `Session.toldAfter`: the records that come of a warning, how
  sending it ends, and which values were asked for their texts by then.
* `Act.exec_emitWarning`: sending a warning does that, and nothing else.
* `Act.exec_substitutionText`: the text of the warning about a default asks up to three values.
-/

namespace Conform

/-- How taking a note ends: with what a handler on the channel of the checks raises, or well. -/
def Host.noted (host : Host) : Except Failure Unit :=
  match host.noteFailure with
  | some message => .error (.host message)
  | none => .ok ()

theorem Host.noted_of_none {host : Host} (h : host.noteFailure = none) : host.noted = .ok () := by
  rw [Host.noted, h]

namespace Session

/-- The records that come of sending a warning in a session: none where the channel does not let it
through, and otherwise the warning, with a note if a handler fails or if there is no text. -/
def emitted (s : Session) (text : Except Failure String) : List Record :=
  if s.letsWarningsThrough then
    match text with
    | .ok sentence =>
      ⟨.validation, .warning, sentence⟩ ::
        if s.failingHandler then [⟨.checks, .debug, Logging.failedEmission⟩] else []
    | .error _ => [⟨.checks, .debug, Logging.failedEmission⟩]
  else []

/-- Whether a note is taken of a warning: it is let through, and a handler fails or there is no
text. -/
def takesNote (s : Session) (text : Except Failure String) : Bool :=
  s.letsWarningsThrough && (s.failingHandler || !text.isOk)

/-- How sending a warning ends in a session: as taking a note does where one is taken, and well
otherwise. -/
def sent (s : Session) (host : Host) (text : Except Failure String) : Except Failure Unit :=
  if s.takesNote text then host.noted else .ok ()

/-- The values that were asked for their texts once a warning is sent that asks the given ones. -/
def toldAfter (s : Session) (asked : List Value) : List Value :=
  if s.letsWarningsThrough then s.told ++ asked else s.told

variable {s : Session} {host : Host}

theorem sent_of_none (h : host.noteFailure = none) (text : Except Failure String) :
    s.sent host text = .ok () := by
  rw [sent, Host.noted_of_none h]
  split <;> rfl

variable {text : Except Failure String}

/-- A warning is sent well where notes do not fail, and where none is taken. -/
theorem sent_of_spared (h : host.noteFailure = none ∨ s.takesNote text = false) :
    s.sent host text = .ok () := by
  rcases h with hnone | hnote
  · exact sent_of_none hnone text
  · rw [sent, hnote]
    rfl

/-- Sending a warning fails as the note does that is taken. -/
theorem sent_of_noteFails {message : String} (hfails : host.noteFailure = some message)
    (hnote : s.takesNote text = true) : s.sent host text = .error (.host message) := by
  rw [sent, hnote, Host.noted, hfails]
  rfl

/-- Notes do not fail, or none is taken, or one is taken that fails. -/
theorem spared_or_noteFails (host : Host) (s : Session) (text : Except Failure String) :
    (host.noteFailure = none ∨ s.takesNote text = false) ∨
      ∃ message, host.noteFailure = some message ∧ s.takesNote text = true := by
  cases host.noteFailure <;> cases s.takesNote text <;> simp

/-- Something is recorded of a warning exactly if the channel lets it through. -/
theorem emitted_eq_nil_iff (text : Except Failure String) :
    s.emitted text = [] ↔ s.letsWarningsThrough = false := by
  unfold emitted
  cases s.letsWarningsThrough <;> cases text <;> simp

end Session

namespace Act

variable {host : Host} {s : Session}

/-! ## Sending -/

theorem exec_takeNote (host : Host) (s : Session) :
    (Logging.takeNote host).exec s =
      (host.noted, { s with logs := s.logs ++ [⟨.checks, .debug, Logging.failedEmission⟩] }) := by
  unfold Logging.takeNote Host.noted
  rw [exec_bind_of_ok (exec_log s _ _ _)]
  cases host.noteFailure <;> rfl

/-- Sending a warning adds the records that come of it and the values that were asked for their
texts, and does nothing else. -/
theorem exec_emitWarning (host : Host) {text : Act String} {answer : Except Failure String}
    {asked : List Value} (htext : text.exec s = (answer, { s with told := s.told ++ asked })) :
    (Logging.emitWarning host text).exec s =
      (s.sent host answer,
        { s with logs := s.logs ++ s.emitted answer, told := s.toldAfter asked }) := by
  unfold Logging.emitWarning
  rw [exec_bind_of_ok (exec_get s)]
  unfold Session.sent Session.takesNote Session.emitted Session.toldAfter
  cases s.letsWarningsThrough with
  | false => simp
  | true =>
    have hattempt : (attempt text).exec s = (.ok answer, { s with told := s.told ++ asked }) := by
      rw [exec_attempt, htext]
    simp only [if_true]
    rw [exec_bind_of_ok hattempt]
    -- A note is taken at once if there is no text, and after the warning if a handler fails.
    cases answer with
    | error failure =>
      simp only [exec_takeNote]
      cases s.failingHandler <;> rfl
    | ok sentence =>
      dsimp only
      rw [exec_bind_of_ok (exec_log _ _ _ _)]
      cases s.failingHandler with
      | false => simp [Except.isOk, Except.toBool]
      | true =>
        simp only [if_true]
        rw [exec_takeNote]
        simp [Except.isOk, Except.toBool]

/-- Sending a warning that is written already asks no value for its text. -/
theorem exec_emitWarning_pure (host : Host) (sentence : String) (s : Session) :
    (Logging.emitWarning host (pure sentence)).exec s =
      (s.sent host (.ok sentence), { s with logs := s.logs ++ s.emitted (.ok sentence) }) := by
  have htext : (pure sentence : Act String).exec s =
      (.ok sentence, { s with told := s.told ++ [] }) := by
    rw [exec_pure, List.append_nil]
  rw [exec_emitWarning host htext, Session.toldAfter, List.append_nil, ite_self]

/-! ## The warning about a default -/

theorem exec_tell (style : Style) (v : Value) (s : Session) :
    (Logging.tell style v).exec s =
      ((v.write s.level style).mapError .ofText, { s with told := s.told ++ [v] }) := by
  unfold Logging.tell
  rw [exec_bind_of_ok (exec_modify s _), exec_bind_of_ok (exec_get _), exec_ofText]

/-- The text of the warning about a default that a type check substituted, or why there is none. -/
def substitutionWarning (level : Threshold) (before : String) (raw given substitute : Value) :
    Except Failure String := do
  let expected ← (raw.message level).mapError .ofText
  let given ← (given.message level).mapError .ofText
  let used ← (substitute.inner level).mapError .ofText
  return Message.sentence before expected given ++ " Using default: " ++ used

/-- The values that are asked for their texts when that text is made: each only if those before it
have one. -/
def substitutionAsked (level : Threshold) (raw given substitute : Value) : List Value :=
  match raw.message level, given.message level with
  | .error _, _ => [raw]
  | .ok _, .error _ => [raw, given]
  | .ok _, .ok _ => [raw, given, substitute]

/-- Making the text of the warning about a default asks values for their texts, and does nothing
else. -/
theorem exec_substitutionText (before : String) (raw given substitute : Value) (s : Session) :
    (substitutionText before raw given substitute).exec s =
      (substitutionWarning s.level before raw given substitute,
        { s with told := s.told ++ substitutionAsked s.level raw given substitute }) := by
  have hraw := exec_tell .message raw s
  have hgiven := exec_tell .message given { s with told := s.told ++ [raw] }
  unfold substitutionText substitutionWarning substitutionAsked Value.message Value.inner
  -- Each value is asked where those before it have a text.
  cases hrawText : raw.write s.level .message with
  | error failure =>
    rw [hrawText] at hraw
    exact exec_bind_of_error hraw _
  | ok expected =>
    rw [hrawText] at hraw
    rw [exec_bind_of_ok hraw]
    cases hgivenText : given.write s.level .message with
    | error failure =>
      rw [hgivenText] at hgiven
      refine (exec_bind_of_error hgiven _).trans ?_
      simp only [List.append_assoc]
      rfl
    | ok givenText =>
      rw [hgivenText] at hgiven
      rw [exec_bind_of_ok hgiven, exec_bind, exec_tell]
      simp only [List.append_assoc]
      cases substitute.write s.level .inner <;> rfl

/-- Sending the warning about a default adds the records that come of its text, and the values that
were asked for theirs. -/
theorem exec_emitWarning_substitution (host : Host) (before : String)
    (raw given substitute : Value) (s : Session) :
    (Logging.emitWarning host (substitutionText before raw given substitute)).exec s =
      (s.sent host (substitutionWarning s.level before raw given substitute),
        { s with
          logs := s.logs ++ s.emitted (substitutionWarning s.level before raw given substitute)
          told := s.toldAfter (substitutionAsked s.level raw given substitute) }) :=
  exec_emitWarning host (exec_substitutionText before raw given substitute s)

end Act

end Conform
