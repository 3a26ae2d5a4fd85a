import Conform.Message

/-!
# Predicates on Classes

Reusable predicates that ask whether a class descends from another and whether a value is
an instance of a class. Each is an object with an identity of its own, and describes what
it asks for.
-/

namespace Conform

namespace Predicate

/-- A predicate that accepts subclasses of `parent`, and `parent` itself where that is
included. -/
def subClassOf (parent includeIdentity : Value) : Act Value :=
  return .subClassOf (← Act.fresh) parent includeIdentity

/-- A predicate that accepts instances of a class, or of one in a tuple of classes. -/
def instanceOf (parent : Value) : Act Value := return .instanceOf (← Act.fresh) parent

/-- What a predicate on classes asks for. -/
def description : Value → Act Value
  | .subClassOf _ parent _ => return .text ("subclass of " ++ (← Act.mention parent))
  | .instanceOf _ parent => return .text ("instance of " ++ (← Act.mention parent))
  | _ => Act.fault .noAttribute

end Predicate

end Conform
