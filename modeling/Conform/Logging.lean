import Conform.Message
import Conform.Text.Casing

/-!
# Logging

The validation channel: how warnings are sent on it, and how its level is set.

Sending a warning fails in one way only. If its text cannot be made, or a handler fails, a debug
record on the channel of the checks takes note of that, and the note may fail in turn; the
warning itself is kept when only the handler failed. A warning below the level of the channel is
not even written.
-/

namespace Conform

namespace Logging

/-- The note about a warning that could not be sent. -/
def failedEmission : String := "Failed to emit validation warning"

/-- Take note of a warning that could not be sent. A handler on the channel of the checks may
fail at that. -/
def takeNote (host : Host) : Act Unit := do
  Act.log .checks .debug failedEmission
  match host.noteFailure with
  | some message => Act.fail (.host message)
  | none => return ()

/-- Ask a value for its text in a style, on behalf of the validation channel. -/
def tell (style : Style) (v : Value) : Act String := do
  modify fun s : Session => { s with told := s.told ++ [v] }
  Act.ofText (v.write (← get).level style)

/-- Send a warning on the validation channel; its text is only made when the level of the
channel lets the warning through. -/
def emitWarning (host : Host) (text : Act String) : Act Unit := do
  let s ← get
  if s.letsWarningsThrough then
    match ← Act.attempt text with
    | .ok message =>
      Act.log .validation .warning message
      if s.failingHandler then takeNote host
    | .error _ => takeNote host

/-- The level given as a number, as a truth value or by name in any case. Any other value is
no level, once its texts have been asked for: the one in a message and the inner one. -/
def levelOf (current : Threshold) : Value → Except Failure Threshold
  | .int n => .ok (.ofNumber n)
  | .bool b => .ok (.ofTruth b)
  | .text name =>
    match Threshold.number? (Text.upper name) with
    | some n => .ok (.ofNumber n)
    | none => .error (.fault .badValue)
  | v =>
    match v.message current, v.inner current with
    | .ok _, .ok _ => .error (.fault .typeMismatch)
    | .error failure, _ | .ok _, .error failure => .error (.ofText failure)

/-- The level that settings ask for; other values ask for none. -/
def levelIn : Value → Value
  | .settings _ logLevel _ => logLevel
  | _ => .null

/-- Set the level of the validation channel: to the given level, or else to the one that
settings ask for, and leave it alone when there is neither. -/
def configure (level settings : Value) : Act Value := do
  let wanted := if level.isNull then levelIn settings else level
  if !wanted.isNull then
    let level ← Act.ofExcept (levelOf (← get).level wanted)
    modify fun s : Session => { s with level := level }
  return .channel

/-- Attach a handler that fails to the validation channel, or take it away. -/
def setFailingHandler (failing : Bool) : Act Unit :=
  modify fun s => { s with failingHandler := failing }

end Logging

end Conform
