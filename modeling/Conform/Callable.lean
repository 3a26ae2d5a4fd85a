import Conform.CoreFunction

/-!
# Callables

Calling a value. The host's callables answer by themselves and are recorded; routines, classes and
the predicates of this library are applied here and leave no record. Classes of the host and
operations on a session are asked of the host, since they call values in turn. A partial application
passes its bound arguments first, and a validator turns the answer of its function into a truth
value.
-/

namespace Conform

namespace Routine

/-- Answer with a truth value. -/
private def asBool (answer : Bool) : Act Value := return .bool answer

/-- Apply a routine to its arguments. -/
def apply (r : Routine) (host : Host) (arguments : List Value) : Act Value :=
  match r, arguments with
  | .isString, [v] => asBool v.isText
  | .isNumber, [v] => asBool v.isNumber
  | .isBoolean, [v] => asBool v.isBoolean
  | .isArray, [v] => asBool v.isArray
  | .isFunction, [v] => asBool v.isCallable
  | .isPlainObject, [v] => asBool v.isMapping
  | .isNil, [v] => asBool v.isNull
  | .isPresent, [v] => asBool v.isPresent
  | .parseFloat, [v] => Act.ofExcept v.readDouble
  | .formatNumber, [v] => return .text (← Act.ofExcept v.formatNumber)
  | .isAlphanumeric, [v] => return .bool (← Act.ofExcept v.isAlphanumeric)
  | .parseNumberStrict, [v] => return v.parseNumberStrict
  | .isPrimitive, [v] => asBool v.isPrimitive
  | .isClass, [v] => asBool v.isCallable
  | .ancestorsOf, [v] => return .tuple none v.ancestors
  | .isSubclass, [v, parent] => return v.isSubclass parent (.bool true) true
  | .isSubclass, [v, parent, includeIdentity] => do
    return v.isSubclass parent includeIdentity (← Act.truth includeIdentity)
  | .core name, arguments => CoreFunction.apply name arguments
  | .operation name, arguments => host.operate name arguments
  | _, _ => Act.fault .typeMismatch

end Routine

namespace Act

/-- Call a value with arguments. -/
def call (host : Host) : Value → List Value → Act Value
  | .cls c, arguments => construct host c arguments
  | .routine r, arguments => r.apply host arguments
  | .foreign id face _, arguments =>
    if face.callable then callHost host id arguments else fault .typeMismatch
  | .partialCall _ callee bound, arguments => call host callee (bound ++ arguments)
  | .subClassOf _ parent includeIdentity, [v] => do
    return v.isSubclass parent includeIdentity (← truth includeIdentity)
  | .instanceOf _ parent, [v] => return .bool (← ofExcept (v.isInstance parent))
  | .validator _ _ function, [v] => do
    return .bool (← truth (← call host function [v]))
  | _, _ => fault .typeMismatch

end Act

end Conform
