import Conform.Session

/-!
# Type Specifications

What a type argument means: a key of the registry, a class, a predicate, or nothing that a
value could satisfy. A specification made beforehand means what it says.
-/

namespace Conform

/-- A type argument with the way in which it is understood. -/
structure TypeSpec where
  /-- How the argument is understood. -/
  kind : SpecKind
  /-- The argument itself. -/
  raw : Value

namespace TypeSpec

/-- How a raw type argument is understood: a text is a key, and a class comes before other
callables. -/
def kindOf : Value → SpecKind
  | .text _ => .key
  | .cls _ => .cls
  | v => if v.isCallable then .predicate else .unsupported

/-- The specification that a type argument stands for. -/
def ofValue : Value → TypeSpec
  | .spec _ kind raw => { kind, raw }
  | v => { kind := kindOf v, raw := v }

end TypeSpec

namespace Act

/-- A specification object that understands its argument in the given way. -/
def newTypeSpec (kind : SpecKind) (raw : Value) : Act Value := return .spec (← fresh) kind raw

/-- A type argument as a specification object; one that is such an object already is left as
it is. -/
def toTypeSpec : Value → Act Value
  | .spec id kind raw => return .spec id kind raw
  | v => newTypeSpec (TypeSpec.kindOf v) v

end Act

end Conform
