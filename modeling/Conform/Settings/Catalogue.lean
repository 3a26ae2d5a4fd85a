import Conform.CoreFunction
import Conform.Settings.FunctionPath

/-!
# Catalogue of Modules

The modules of this library and the core, as far as settings can name their members:
routines, classes, and members that are not callable. A module has the members that it
declares, those that it takes over from others, and those that every module has.
-/

namespace Conform

namespace Catalogue

/-! ## Kinds of members -/

/-- Classifiers under their names. -/
def routines (rs : List Routine) : List (String × Value) :=
  rs.map fun r => (r.name, .routine r)

/-- Operations on a session under their names. -/
def operations (names : List String) : List (String × Value) :=
  names.map fun name => (name, .routine (.operation name))

/-- Forms of types under their names, and the forms that they are cases of. They count as
callable and refuse to be called. -/
def typeForms (forms : List (String × String)) : List (String × Value) :=
  forms.map fun (name, form) => (name, .routine (.operation form))

/-- Forms of types that are no case of another. -/
def plainForms (names : List String) : List (String × Value) :=
  typeForms (names.map fun name => (name, name))

/-- Classes under their names. -/
def classes (cs : List Class) : List (String × Value) := cs.map fun c => (c.name, .cls c)

/-- Members that are there and cannot be called. -/
def data (names : List String) : List (String × Value) := names.map fun name => (name, .text name)

/-! ## Members of every module -/

/-- The methods that a module has as an object. -/
def methods : List String :=
  ["__delattr__", "__dir__", "__eq__", "__format__", "__ge__", "__getattribute__", "__getstate__",
    "__gt__", "__hash__", "__init__", "__init_subclass__", "__le__", "__lt__", "__ne__", "__new__",
    "__reduce__", "__reduce_ex__", "__repr__", "__setattr__", "__sizeof__", "__str__",
    "__subclasshook__"]

/-- The members that every module has as an object. -/
def shared : List (String × Value) :=
  [("__class__", .cls Class.moduleClass)] ++ data ["__annotations__", "__dict__"] ++
    operations methods

/-- The members that a module read from a file has. -/
def common : List (String × Value) :=
  data ["__name__", "__doc__", "__package__", "__loader__", "__spec__", "__file__", "__cached__",
    "__builtins__"] ++ shared

/-! ## The core -/

/-- The members of the core. Some exceptions have more than one name. -/
def core : List (String × Value) :=
  classes (Class.coreClasses ++ Class.coreExceptions) ++
    (Class.coreExceptions.filter fun c => c.name == "OSError").flatMap (fun c =>
      [("EnvironmentError", .cls c), ("IOError", .cls c)]) ++
    routines (CoreFunction.names.map .core) ++
    [("__loader__", .cls (.declared "_frozen_importlib" "BuiltinImporter" [Class.object]))] ++
    data ["Ellipsis", "NotImplemented", "__debug__", "__doc__", "__name__", "__package__",
      "__spec__"] ++
    [("None", .null), ("True", .bool true), ("False", .bool false)] ++ shared

/-! ## This library -/

/-- The predicates on primitive kinds, and the reading and writing of numbers. -/
def predicates : List Routine :=
  [.isString, .isNumber, .isBoolean, .isArray, .isFunction, .isPlainObject, .isNil, .isPresent,
    .parseFloat, .formatNumber]

/-- The classifiers built on the predicates. -/
def derived : List Routine :=
  [.isAlphanumeric, .parseNumberStrict, .isPrimitive, .isClass, .ancestorsOf, .isSubclass]

/-- The classes of errors. -/
def errors : List Class := ErrorKind.all.map ErrorKind.cls

/-- The classes of type specifications. -/
def specs : List Class := SpecKind.all.map SpecKind.classOf

/-- The operations on the process registry. -/
def registryOperations : List String :=
  ["get_registry", "get_validator", "get_validator_optional", "has_validator", "list_validators",
    "reset_validators", "set_validator"]

/-- The forms of types for classifiers. -/
def classifierForms : List (String × String) :=
  [("Primitive", "Union"), ("AlphanumericValue", "Union"), ("ClassLike", "Callable")]

/-- The form of types for the functions of validators. -/
def validatorForms : List (String × String) := [("ValidatorFunction", "Callable")]

/-- The form of types for type specifications. -/
def specForms : List (String × String) := [("TypeSpec", "Union")]

/-- The parts of this library and their members. -/
def parts : List (String × List (String × Value)) :=
  [("predicates",
      routines predicates ++ classes [Class.decimal, Class.real, Class.anything] ++
        data ["annotations", "math", "re", "_FLOAT_PREFIX"]),
    ("classifiers",
      routines (derived ++ [.formatNumber, .isBoolean, .isNumber, .isString, .parseFloat]) ++
        classes [Class.alphanumeric, Class.anything] ++
        plainForms ["Callable", "Tuple", "Union"] ++ typeForms classifierForms ++
        data ["annotations", "inspect", "math"]),
    ("exceptions",
      classes (errors ++ [Class.anything]) ++ operations ["name_prefix", "value_type"] ++
        plainForms ["Dict"]),
    ("combinators",
      classes [Class.predicate, Class.subClassOf, Class.instanceOf, Class.anything,
          Class.protocol] ++
        routines [.isSubclass] ++
        operations ["sub_class", "instance_of", "value_type", "runtime_checkable"] ++
        data ["annotations"]),
    ("type_spec",
      classes (specs ++ [Class.anything]) ++ operations ["to_type_spec", "dataclass"] ++
        plainForms ["Callable", "Union"] ++ typeForms specForms ++
        data ["annotations", "inspect"]),
    ("registry",
      classes [Class.validator, Class.registry, Class.validatorRegistry,
          ErrorKind.notFound.cls, ErrorKind.operation.cls, Class.anything, Class.generic,
          Class.typeParameter] ++
        routines [.isAlphanumeric, .isArray, .isBoolean, .isFunction, .isNumber, .isPlainObject,
          .isString] ++
        operations ("dataclass" :: registryOperations) ++
        plainForms ["Callable", "Dict", "Iterator", "List"] ++ typeForms validatorForms ++
        data ["annotations", "logging", "threading", "logger", "T", "BUILTIN_VALIDATORS",
          "_validators"]),
    ("checks",
      operations ["check", "check_type", "get_validator_optional", "name_prefix", "to_type_spec",
          "value_type", "_resolve_default", "_warn"] ++
        routines [.isPresent] ++
        classes (ErrorKind.validation.cls :: specs.take 3 ++
          [Class.anything, Class.typeParameter]) ++
        plainForms ["Callable"] ++
        data ["annotations", "logging", "warnings", "log", "logger", "T", "_MISSING"]),
    ("log",
      operations ["configure_logging"] ++ classes [Class.anything] ++
        data ["logging", "LOG_CHANNEL", "log"]),
    ("settings",
      classes [Class.settings, Class.validatorRegistry, ErrorKind.configuration.cls,
          ErrorKind.validation.cls, Class.anything, Class.filePath] ++
        operations ["apply_settings", "load_function", "check", "configure_logging",
          "get_registry", "dataclass", "field", "replace", "_is_log_level"] ++
        routines [.isNil, .isPlainObject, .isString] ++
        plainForms ["Callable", "Dict", "Union"] ++
        data ["annotations", "importlib", "json", "logging", "os", "yaml", "logger", "ENV_PREFIX",
          "_LOG_LEVELS"])]

/-- What this library as a whole offers. -/
def offered : List (String × Value) :=
  routines (predicates ++ derived) ++
    classes (errors ++ specs ++ [Class.alphanumeric, Class.predicate, Class.subClassOf,
      Class.instanceOf, Class.validator, Class.registry, Class.validatorRegistry,
      Class.settings]) ++
    operations (registryOperations ++ ["check", "check_type", "sub_class", "instance_of",
      "configure_logging", "apply_settings", "load_function", "to_type_spec"]) ++
    typeForms (classifierForms ++ validatorForms ++ specForms) ++
    data ["__version__", "LOG_CHANNEL", "log"]

/-- The name under which the members of this library as a whole can be imported as those of a
module without parts. -/
def flatName : String := "__init__"

/-- The modules that can be imported whatever the host offers. -/
def modules : Modules :=
  let listed := data ["__all__"] ++ common
  [("builtins", .loads false core),
    (Class.packageName, .loads true (offered ++ data ("__path__" :: parts.map Prod.fst) ++ listed)),
    (Class.packageName ++ "." ++ flatName, .loads false (offered ++ listed))] ++
    parts.map fun (name, members) =>
      (Class.packageName ++ "." ++ name, .loads false (members ++ listed))

end Catalogue

end Conform
