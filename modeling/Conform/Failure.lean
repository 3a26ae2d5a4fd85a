import Conform.Value

/-!
# Failures

What an operation raises when it does not answer. The failures of this library are causes:
a rejected value, a key that is absent or taken, a problem with settings. Their wording is
in `Failure.message?` and the data they carry along in `Failure.context?`. Besides them an
operation may pass on an error of the host program, or stop at a fault: a value used in a
way that its kind does not allow.
-/

namespace Conform

/-- A value that failed its check, with the message that says so. -/
structure Rejection where
  /-- The value that failed. -/
  value : Value
  /-- What was expected of it. -/
  expected : Value
  /-- The name of the subject, or the absent value. -/
  name : Value
  /-- The message, made when the check failed. -/
  message : String

namespace Rejection

/-- The data a rejection carries. -/
def context (r : Rejection) : Value :=
  .mapping none
    [(.text "value", r.value), (.text "expected", r.expected), (.text "name", r.name)]

end Rejection

/-- A problem with settings. -/
inductive SettingsProblem where
  | invalid (cause : Rejection)
  | missingFile (path : String)
  | unsupportedFormat (suffix path : String)
  | unreadableFile (path : String)
  | malformedPath (path : Value) (text : String)
  | importFailed (path reason : String)
  | memberMissing (member module path : String)
  | notCallable (path : String)

namespace SettingsProblem

/-- The wording of a problem with settings. -/
def message : SettingsProblem → String
  | .invalid cause => "Invalid typecheck settings: " ++ cause.message
  | .missingFile path => "Settings file not found: " ++ path
  | .unsupportedFormat suffix _ => "Unsupported file format: " ++ suffix
  | .unreadableFile path => "Failed to read or parse settings file " ++ path ++ ": ..."
  | .malformedPath _ text => "Invalid function path: " ++ text
  | .importFailed path reason => "Failed to import " ++ path ++ ": " ++ reason
  | .memberMissing member module _ => member ++ " not found in " ++ module
  | .notCallable path => path ++ " is not callable"

/-- The data a problem with settings carries: that of its cause, or the path it is about. -/
def context : SettingsProblem → Value
  | .invalid cause => cause.context
  | .malformedPath path _ => .mapping none [(.text "path", path)]
  | .missingFile path | .unsupportedFormat _ path | .unreadableFile path
  | .importFailed path _ | .memberMissing _ _ path | .notCallable path =>
    .mapping none [(.text "path", .text path)]

/-- The rejection that a problem was raised from, if it was. -/
def cause? : SettingsProblem → Option Rejection
  | .invalid cause => some cause
  | _ => none

end SettingsProblem

/-- What an operation raises. -/
inductive Failure where
  | rejected (r : Rejection)
  | absent (key registry : Value) (keyText : String) (available : List Value)
  | taken (key registry : Value) (keyText registryText : String)
  | configuration (problem : SettingsProblem)
  | host (message : String)
  | fault (f : Fault)

namespace Failure

/-- The failure of an operation that asks for a text that does not come. -/
def ofText : TextFailure → Failure
  | .host message => .host message
  | .fault f => .fault f

/-- The kind of error that a failure of this library is. -/
def kind? : Failure → Option ErrorKind
  | .rejected _ => some .validation
  | .absent .. => some .notFound
  | .taken .. => some .operation
  | .configuration _ => some .configuration
  | .host _ | .fault _ => none

/-- The wording of a failure; a fault has none. -/
def message? : Failure → Option String
  | .rejected r => some r.message
  | .absent _ _ keyText _ => some ("Item not found: " ++ keyText)
  | .taken _ _ keyText registryText =>
    some ("Item '" ++ keyText ++ "' already registered in " ++ registryText)
  | .configuration problem => some problem.message
  | .host message => some message
  | .fault _ => none

/-- The data that a failure of this library carries. -/
def context? : Failure → Option Value
  | .rejected r => some r.context
  | .absent key registry _ available =>
    some (.mapping none
      [(.text "key", key), (.text "registry", registry),
        (.text "available_keys", .list none available)])
  | .taken key registry _ _ =>
    some (.mapping none [(.text "key", key), (.text "registry", registry)])
  | .configuration problem => some problem.context
  | .host _ | .fault _ => none

end Failure

end Conform
