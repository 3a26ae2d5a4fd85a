import Conform.Message
import Conform.Logging

/-!
# Running operations

What an operation does to a session: the answer it gives and the session it leaves (`Act.exec`).
An operation made of two runs the second on what the first leaves, unless the first fails
(`Act.exec_bind`).

* `Act.exec_message`, `Act.exec_truth` and so on: what the operations do that others are made of.
* `Act.exec_bind_congr`: two operations that start alike and go on alike do the same.
-/

namespace Conform

/-- The host program without callables and classes. -/
def Host.bare : Host where
  accepts _ _ := false
  respond _ _ := Act.fault .typeMismatch
  instantiate _ _ := Act.fault .typeMismatch
  operate _ _ := Act.fault .typeMismatch

namespace Act

variable {α β : Type}

/-- Run an operation on a session: its answer and the session that it leaves. -/
def exec (act : Act α) (s : Session) : Except Failure α × Session := act.run.run s

/-! ## The answers of operations -/

section Exec

variable (s : Session)

@[simp] theorem exec_pure (a : α) : (pure a : Act α).exec s = (.ok a, s) := rfl

@[simp] theorem exec_get : (get : Act Session).exec s = (.ok s, s) := rfl

@[simp] theorem exec_modify (f : Session → Session) :
    (modify f : Act PUnit).exec s = (.ok ⟨⟩, f s) := rfl

/-- The second of two operations runs on what the first leaves, unless the first fails. -/
theorem exec_bind (act : Act α) (next : α → Act β) :
    (act >>= next).exec s =
      match act.exec s with
      | (.ok a, s') => (next a).exec s'
      | (.error f, s') => (.error f, s') := by
  show (act >>= next).run.run s = _
  rw [ExceptT.run_bind, StateT.run_bind]
  -- The failure is told apart from the answer before the two monads are unfolded any further.
  rcases hrun : act.exec s with ⟨f | a, s'⟩
  · rw [exec] at hrun
    rw [hrun]
    rfl
  · rw [exec] at hrun
    rw [hrun]
    rfl

/-- The second of two operations runs on what the first leaves when that succeeds. -/
theorem exec_bind_of_ok {act : Act α} {a : α} {s s' : Session} (h : act.exec s = (.ok a, s'))
    (next : α → Act β) : (act >>= next).exec s = (next a).exec s' := by
  rw [exec_bind, h]

/-- Nothing runs after an operation that fails. -/
theorem exec_bind_of_error {act : Act α} {f : Failure} {s s' : Session}
    (h : act.exec s = (.error f, s')) (next : α → Act β) :
    (act >>= next).exec s = (.error f, s') := by
  rw [exec_bind, h]

@[simp] theorem exec_map (f : α → β) (act : Act α) :
    (f <$> act).exec s =
      match act.exec s with
      | (.ok a, s') => (.ok (f a), s')
      | (.error e, s') => (.error e, s') := by
  rw [map_eq_pure_bind, exec_bind]
  rfl

/-- Leaving out an answer changes nothing else. -/
theorem exec_discard (act : Act α) :
    (discard act).exec s =
      match act.exec s with
      | (.ok _, s') => (.ok (), s')
      | (.error f, s') => (.error f, s') := by
  show ((fun _ => ()) <$> act).exec s = _
  exact exec_map s _ act

theorem exec_discard_of_ok {act : Act α} {a : α} {s s' : Session} (h : act.exec s = (.ok a, s')) :
    (discard act).exec s = (.ok (), s') := by
  rw [exec_discard, h]

theorem exec_discard_of_error {act : Act α} {f : Failure} {s s' : Session}
    (h : act.exec s = (.error f, s')) : (discard act).exec s = (.error f, s') := by
  rw [exec_discard, h]

/-- An operation whose answer is left out leaves the session that it leaves with its answer. -/
theorem snd_exec_discard (act : Act α) : ((discard act).exec s).2 = (act.exec s).2 := by
  rw [exec_discard]
  rcases act.exec s with ⟨f | a, s'⟩ <;> rfl

/-- Answering with something else after an operation leaves the session as the operation does. -/
theorem snd_exec_bind_pure (act : Act α) (answer : α → β) :
    ((do return answer (← act) : Act β).exec s).2 = (act.exec s).2 := by
  rw [exec_bind]
  rcases act.exec s with ⟨f | a, s'⟩ <;> rfl

@[simp] theorem exec_ofExcept (answer : Except Failure α) :
    (ofExcept answer).exec s = (answer, s) := by
  cases answer <;> rfl

@[simp] theorem exec_truth (v : Value) : (truth v).exec s = (.ok (s.truth v), s) := rfl

@[simp] theorem exec_warn (text : String) :
    (warn text).exec s = (.ok (), { s with warnings := s.warnings ++ [text] }) := rfl

@[simp] theorem exec_log (channel : Channel) (severity : Severity) (text : String) :
    (log channel severity text).exec s =
      (.ok (), { s with logs := s.logs ++ [⟨channel, severity, text⟩] }) := rfl

@[simp] theorem exec_fresh :
    fresh.exec s = (.ok s.nextId, { s with nextId := s.nextId + 1 }) := rfl

@[simp] theorem exec_registryAt (id : Nat) :
    (registryAt id).exec s = (.ok (s.registryAt id), s) := rfl

/-- Asking for a text does not change the session. -/
theorem exec_ofText (made : Except TextFailure α) :
    (ofText made).exec s = (made.mapError .ofText, s) := by
  cases made <;> rfl

theorem exec_message (v : Value) :
    (message v).exec s = ((v.message s.level).mapError .ofText, s) := by
  simp only [message, exec_bind, exec_get, exec_ofText]

theorem exec_inner (v : Value) :
    (inner v).exec s = ((v.inner s.level).mapError .ofText, s) := by
  simp only [inner, exec_bind, exec_get, exec_ofText]

theorem exec_mention (v : Value) :
    (mention v).exec s = ((v.mention s.level).mapError .ofText, s) := by
  simp only [mention, exec_bind, exec_get, exec_ofText]

theorem exec_shown (v : Value) : (shown v).exec s = (v.shown.mapError .ofText, s) :=
  exec_ofText s v.shown

/-- How an operation ends is the answer to an attempt at it, which does not fail. -/
@[simp] theorem exec_attempt (act : Act α) :
    (attempt act).exec s = (.ok (act.exec s).1, (act.exec s).2) := rfl

variable {s}

theorem exec_message_of_ok {v : Value} {text : String} (h : v.message s.level = .ok text) :
    (message v).exec s = (.ok text, s) := by
  rw [exec_message, h]
  rfl

theorem exec_inner_of_ok {v : Value} {text : String} (h : v.inner s.level = .ok text) :
    (inner v).exec s = (.ok text, s) := by
  rw [exec_inner, h]
  rfl

theorem exec_mention_of_ok {v : Value} {text : String} (h : v.mention s.level = .ok text) :
    (mention v).exec s = (.ok text, s) := by
  rw [exec_mention, h]
  rfl

theorem exec_shown_of_ok {v given : Value} (h : v.shown = .ok given) :
    (shown v).exec s = (.ok given, s) := by
  rw [exec_shown, h]
  rfl

end Exec

/-- Two operations do the same on a session if they start with the same and, whatever answer that
gives, go on with the same. -/
theorem exec_bind_congr {start start' : Act α} {next next' : α → Act β} {s t : Session}
    (hstart : start.exec s = start'.exec t)
    (hnext : ∀ a s', start.exec s = (.ok a, s') → (next a).exec s' = (next' a).exec s') :
    (start >>= next).exec s = (start' >>= next').exec t := by
  rw [exec_bind, exec_bind, ← hstart]
  cases hs : start.exec s with
  | mk answer s' =>
    cases answer with
    | ok a => exact hnext a s' hs
    | error f => rfl

end Act

end Conform
