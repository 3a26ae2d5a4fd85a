import Conform.Callable
import Conform.Registry
import Conform.TypeSpec

/-!
# Checks

A check passes a value through if a predicate accepts it. A value that is not accepted is
replaced by a default, and a warning about that is sent, or it is rejected.

* `check` takes the predicate itself. A default that counts as false is no default.
* `checkType` takes a type argument, and looks keys up in the process registry. Any default
  that is given is used; a key that is not registered answers false.
-/

namespace Conform

namespace Act

/-- The value that stands in for a rejected one: a callable default is asked for it. -/
def resolveDefault (host : Host) (default value : Value) : Act Value :=
  if default.isCallable then call host default [value] else return default

/-- Check a value with a predicate. The warning about a substituted default is written
before it is sent, and a failure to write it is passed on. -/
def check (host : Host) (value validator expected name default warnIf : Value) : Act Value := do
  if ← truth (← call host validator [value]) then return value
  if ← truth default then
    let substitute ← resolveDefault host default value
    let rule := if ← truth warnIf then warnIf else .routine .isPresent
    if ← truth (← call host rule [value]) then
      -- The sentence is written whether or not the channel lets warnings through.
      let sentence ← Message.rejection value expected name
      Logging.emitWarning host (return sentence)
    return substitute
  reject value expected name

/-- The note that the type check is outdated. -/
def deprecationNote : String := "check_type is deprecated, use check instead"

/-- The text of the warning about a default that a type check substituted, from the text of
the subject and what stands for the value in a message. -/
def substitutionText (before : String) (raw given substitute : Value) : Act String := do
  let expected ← Logging.tell .message raw
  let given ← Logging.tell .message given
  let used ← Logging.tell .inner substitute
  return Message.sentence before expected given ++ " Using default: " ++ used

/-- What a type argument asks of a value: whether the value satisfies it and what it is
expected to be; nothing if the argument is a key that is not registered. -/
def decideType (host : Host) (spec : TypeSpec) (value : Value) : Act (Option (Bool × Value)) := do
  -- Written for every kind of argument, so that one without a text never gets further.
  let text ← message spec.raw
  match spec.kind with
  | .cls => do
    let valid ← ofExcept (value.isInstance spec.raw)
    match ← ofText spec.raw.ownName with
    | some name => return some (valid, .text ("instance of " ++ (← message name)))
    | none => fault .noAttribute
  | .key => do
    let validator ← getOptionalItem Session.processRegistry spec.raw
    if validator.isNull then return none
    let answer ← call host validator [value]
    match validator with
    | .validator _ name _ => return some (← truth answer, name)
    | _ => fault .noAttribute
  | .predicate => do
    let valid ← truth (← call host spec.raw [value])
    return some (valid, .text (← mention spec.raw))
  | .unsupported => return some (false, .text text)

/-- Check a value against a type argument. The warning about a substituted default is
written only when it is sent, and a failure to write it is not passed on; what stands in it for the
subject and for a callable value is found out before. -/
def checkType (host : Host) (value type name : Value) (default : Option Value) (warnIf : Value) :
    Act Value := do
  warn deprecationNote
  let spec := TypeSpec.ofValue type
  match ← decideType host spec value with
  | none => return .bool false
  | some (true, _) => return value
  | some (false, expected) =>
    match default with
    | none => reject value expected name
    | some default =>
      let substitute ← resolveDefault host default value
      if ← truth (← call host warnIf [value]) then
        let before ← Message.namePrefix name
        -- What is mentioned in place of a callable is found out before anything is sent.
        let given ← shown value
        Logging.emitWarning host (substitutionText before spec.raw given substitute)
      return substitute

end Act

end Conform
