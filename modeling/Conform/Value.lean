import Conform.Class
import Conform.Fault
import Conform.Moment
import Conform.Number.Scaled
import Conform.Threshold

/-!
# Values

The values that are checked, and those that checks are made of. A value is plain data
(numbers, texts, bytes, dates and collections of values), a class, a routine of this
library, an object of the host program, or one of the objects this library builds:
predicates, validators, type specifications, settings, errors, registries.

Objects have an identity, a number that tells one from another of the same content. A
number that is no integer and a collection may carry such a number as a mark: two of them
with one mark are one object, and one just made has none yet. The identity of a number
matters where it is not a number at all, and so not even equal to itself.

The channel for validation warnings is an object without a state of its own: its level is
part of the session, and whoever writes it is told the level.

What an object of the host shows of itself is a `Face`. Its texts and its name may fail to
come. They are taken to be the same whenever they are asked for, and its class to be none whose
values are looked into.
-/

namespace Conform

/-- The routines that this library and the core offer as callables. The core ones and the
operations on a session go by their names. -/
inductive Routine where
  | isString
  | isNumber
  | isBoolean
  | isArray
  | isFunction
  | isPlainObject
  | isNil
  | isPresent
  | parseFloat
  | formatNumber
  | isAlphanumeric
  | parseNumberStrict
  | isPrimitive
  | isClass
  | ancestorsOf
  | isSubclass
  | core (name : String)
  | operation (name : String)
  deriving DecidableEq, Repr

namespace Routine

/-- The name of a routine. -/
def name : Routine → String
  | .isString => "is_string"
  | .isNumber => "is_number"
  | .isBoolean => "is_boolean"
  | .isArray => "is_array"
  | .isFunction => "is_function"
  | .isPlainObject => "is_plain_object"
  | .isNil => "is_nil"
  | .isPresent => "is_present"
  | .parseFloat => "parse_float"
  | .formatNumber => "format_number"
  | .isAlphanumeric => "is_alphanumeric"
  | .parseNumberStrict => "parse_number_strict"
  | .isPrimitive => "is_primitive"
  | .isClass => "is_class"
  | .ancestorsOf => "ancestors_of"
  | .isSubclass => "is_subclass"
  | .core name | .operation name => name

/-- The routines on values that have no effect of their own. -/
def classifiers : List Routine :=
  [.isString, .isNumber, .isBoolean, .isArray, .isFunction, .isPlainObject, .isNil, .isPresent,
    .parseFloat, .formatNumber, .isAlphanumeric, .parseNumberStrict, .isPrimitive, .isClass,
    .ancestorsOf, .isSubclass]

/-- Whether a routine belongs to the core rather than to this library. -/
def isCore : Routine → Bool
  | .core _ => true
  | _ => false

end Routine

/-- What an object of the host program shows of itself. -/
structure Face where
  /-- Its class. -/
  cls : Class
  /-- Its text, or why asking for it fails. -/
  text : Except TextFailure String
  /-- Its form inside collections, or why asking for it fails. -/
  inner : Except TextFailure String
  /-- Whether it counts as true. -/
  truth : Bool
  /-- Whether it can be called. -/
  callable : Bool
  /-- Why asking for its name fails, if it does so otherwise than by there being none. -/
  nameFailure : Option TextFailure := none
  /-- Its class is none whose values are known by what they hold. -/
  closed : cls.isTransparent = false := by exact Eq.refl false

/-- The ways a type argument is understood. -/
inductive SpecKind where
  | key
  | cls
  | predicate
  | unsupported
  deriving DecidableEq, Repr

/-- The kinds of errors of this library. -/
inductive ErrorKind where
  | root
  | validation
  | notFound
  | operation
  | configuration
  deriving DecidableEq, Repr

/-- The kinds of registries. -/
inductive RegistryKind where
  | plain
  | validators
  deriving DecidableEq, Repr

/-- The number that tells an object from others of the same content, once it has one. -/
abbrev Mark := Option Nat

namespace Mark

/-- The mark of the not-a-number that reading a text without a number gives. -/
def ofReading : Mark := some 0

/-- The mark of the not-a-number that has a word of its own in JSON documents. -/
def ofJson : Mark := some 1

/-- The mark of the not-a-number that has a word of its own in YAML documents. -/
def ofYaml : Mark := some 2

/-- Whether two marks are those of one object. -/
def same (m n : Mark) : Bool := m.isSome && m == n

end Mark

/-- A value. -/
inductive Value where
  | null
  | bool (b : Bool)
  | int (n : Int)
  | float (mark : Mark) (x : Binary64)
  | fraction (mark : Mark) (q : Rat)
  | decimal (mark : Mark) (d : Scaled)
  | complex (mark : Mark) (re im : Binary64)
  | text (s : String)
  | bytes (content : List UInt8)
  | moment (m : Moment)
  | tuple (mark : Mark) (items : List Value)
  | list (mark : Mark) (items : List Value)
  | set (mark : Mark) (items : List Value)
  | mapping (mark : Mark) (entries : List (Value × Value))
  | cls (c : Class)
  | routine (r : Routine)
  | foreign (id : Nat) (face : Face) (name : Option Value)
  | partialCall (id : Nat) (callee : Value) (bound : List Value)
  | subClassOf (id : Nat) (parent includeIdentity : Value)
  | instanceOf (id : Nat) (cls : Value)
  | validator (id : Nat) (name function : Value)
  | spec (id : Nat) (kind : SpecKind) (raw : Value)
  | settings (id : Nat) (logLevel validators : Value)
  | error (id : Nat) (kind : ErrorKind) (message context : Value)
      (subject : Option (Value × Value × Value))
  | registry (id : Nat) (kind : RegistryKind)
  | channel

/-- The absent value stands where any value would do. -/
instance : Inhabited Value := ⟨.null⟩

/-- Pairs of a key and a value, in the order of their insertion. -/
abbrev Entries := List (Value × Value)

namespace ErrorKind

/-- The name of a kind of errors. -/
def name : ErrorKind → String
  | .root => "DataknobsError"
  | .validation => "ValidationError"
  | .notFound => "NotFoundError"
  | .operation => "OperationError"
  | .configuration => "ConfigurationError"

/-- The class of the errors of a kind. -/
def cls : ErrorKind → Class
  | .root => Class.packageError
  | kind => Class.errorKind kind.name

/-- All kinds of errors. -/
def all : List ErrorKind := [.root, .validation, .notFound, .operation, .configuration]

end ErrorKind

namespace SpecKind

/-- The name of a kind of type specifications. -/
def name : SpecKind → String
  | .key => "RegistryKey"
  | .cls => "ClassRef"
  | .predicate => "PredicateRef"
  | .unsupported => "UnsupportedSpec"

/-- The class of the specifications of a kind. -/
def classOf (kind : SpecKind) : Class := Class.ofPackage "type_spec" kind.name []

/-- All kinds of type specifications. -/
def all : List SpecKind := [.key, .cls, .predicate, .unsupported]

/-- The name of the one member of a specification. -/
def member : SpecKind → String
  | .key => "key"
  | .cls => "cls"
  | .predicate => "predicate"
  | .unsupported => "value"

end SpecKind

namespace RegistryKind

/-- The class of the registries of a kind. -/
def cls : RegistryKind → Class
  | .plain => Class.registry
  | .validators => Class.validatorRegistry

end RegistryKind

namespace Value

/-- The class of a value. -/
def classOf : Value → Class
  | .null => Class.nothing
  | .bool _ => Class.bool
  | .int _ => Class.int
  | .float .. => Class.float
  | .fraction .. => Class.fraction
  | .decimal .. => Class.decimal
  | .complex .. => Class.complexNumber
  | .text _ => Class.str
  | .bytes _ => Class.bytes
  | .moment m => if m.time.isSome then Class.datetime else Class.date
  | .tuple .. => Class.tuple
  | .list .. => Class.list
  | .set .. => Class.set
  | .mapping .. => Class.dict
  | .cls c => c.metaclass
  | .routine r => if r.isCore then Class.builtinFunction else Class.function
  | .foreign _ face _ => face.cls
  | .partialCall .. => Class.partialApplication
  | .subClassOf .. => Class.subClassOf
  | .instanceOf .. => Class.instanceOf
  | .validator .. => Class.validator
  | .spec _ kind _ => kind.classOf
  | .settings .. => Class.settings
  | .error _ kind .. => kind.cls
  | .registry _ kind => kind.cls
  | .channel => Class.logChannel

/-- Whether a value can be called. -/
def isCallable : Value → Bool
  | .cls _ | .routine _ | .partialCall .. | .subClassOf .. | .instanceOf .. | .validator .. => true
  | .foreign _ face _ => face.callable
  | _ => false

/-- The name that a value has as an attribute of its own: classes and functions have one,
and an object of the host may. -/
def ownName : Value → Except TextFailure (Option Value)
  | .cls c => .ok (some (.text c.name))
  | .routine r => .ok (some (.text r.name))
  | .foreign _ face name =>
    match face.nameFailure with
    | some failure => .error failure
    | none => .ok name
  | _ => .ok none

/-- An object of the host has the name that it is given, unless asking for it fails. -/
theorem ownName_foreign_eq_ok_iff {id : Nat} {face : Face} {name found : Option Value} :
    (Value.foreign id face name).ownName = .ok found ↔ face.nameFailure = none ∧ name = found := by
  simp only [ownName]
  cases face.nameFailure <;> simp

/-- The value as a message mentions it: a callable by its name, or by the name of its class
if it has none, and anything else as it is. -/
def shown (v : Value) : Except TextFailure Value :=
  if v.isCallable then v.ownName.map fun name => name.getD (.text v.classOf.name) else .ok v

/-- Whether the value is absent. -/
def isNull : Value → Bool
  | .null => true
  | _ => false

/-- Whether a value can be a key: plain collections that could change cannot, nor can what
holds one. -/
def isHashable : Value → Bool
  | .list .. | .set .. | .mapping .. | .settings .. => false
  | .tuple _ items => hashableAll items
  | .validator _ name function => name.isHashable && function.isHashable
  | .spec _ _ raw => raw.isHashable
  | .decimal _ d => !d.isSignalling
  | _ => true
where
  /-- Whether all values of a list can be keys. -/
  hashableAll : List Value → Bool
    | [] => true
    | v :: rest => v.isHashable && hashableAll rest

/-- Partial application; arguments for a callable that has some bound already are added to
those. -/
def applyPartially (id : Nat) (callee : Value) (bound : List Value) : Value :=
  match callee with
  | .partialCall _ inner earlier => .partialCall id inner (earlier ++ bound)
  | _ => .partialCall id callee bound

end Value

end Conform
