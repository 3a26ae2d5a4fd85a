/-!
# Classes

Classes of values: the ones this library knows by itself and the ones a host program
declares. A class is known by its module and its name, and lists its ancestors in the
order in which they are searched, the class `object` last.

The numeric classes `Number`, `Complex`, `Real` and `Rational` also hold members that
do not list them as ancestors; `Class.numericHome?` and `Class.admits` say which.
-/

namespace Conform

/-- A class: the module that declares it, its name, and its ancestors, nearest first. -/
inductive Class where
  | declared (module name : String) (ancestors : List Class)

namespace Class

/-- The module that declares the class. -/
def module : Class → String
  | .declared module _ _ => module

/-- The name of the class. -/
def name : Class → String
  | .declared _ name _ => name

/-- The ancestors of the class, nearest first, without the class itself. -/
def ancestors : Class → List Class
  | .declared _ _ ancestors => ancestors

/-- The module whose members need no module name. -/
def coreModule : String := "builtins"

/-- The name with the module before it; core classes go by their bare name. -/
def qualified (c : Class) : String :=
  if c.module = coreModule then c.name else c.module ++ "." ++ c.name

/-- The text of a class. -/
def text (c : Class) : String := "<class '" ++ c.qualified ++ "'>"

/-- Two classes are one when module and name agree. -/
instance : BEq Class := ⟨fun a b => a.module == b.module && a.name == b.name⟩

/-- Whether one class is the other or descends from it. -/
def descendsFrom (c parent : Class) : Bool := c == parent || c.ancestors.contains parent

/-! ## Core classes -/

/-- The ancestor of every class. -/
def object : Class := .declared coreModule "object" []

/-- A core class with the given ancestors below `object`. -/
def core (name : String) (ancestors : List Class) : Class :=
  .declared coreModule name (ancestors ++ [object])

/-- The class of integers. -/
def int : Class := core "int" []
/-- The class of truth values, which are integers. -/
def bool : Class := core "bool" [int]
/-- The class of texts. -/
def str : Class := core "str" []
/-- The class of doubles. -/
def float : Class := core "float" []
/-- The class of complex numbers. -/
def complexNumber : Class := core "complex" []
/-- The class of lists. -/
def list : Class := core "list" []
/-- The class of mappings. -/
def dict : Class := core "dict" []
/-- The class of tuples. -/
def tuple : Class := core "tuple" []
/-- The class of byte strings. -/
def bytes : Class := core "bytes" []
/-- The class of sets. -/
def set : Class := core "set" []
/-- The class of classes. -/
def type : Class := core "type" []
/-- The class of the absent value. -/
def nothing : Class := core "NoneType" []
/-- The class of plain functions. -/
def function : Class := core "function" []
/-- The class of built-in functions. -/
def builtinFunction : Class := core "builtin_function_or_method" []
/-- The class of modules. -/
def moduleClass : Class := core "module" []
/-- The class of sets that do not change. -/
def frozenset : Class := core "frozenset" []
/-- The class of byte strings that can change. -/
def bytearray : Class := core "bytearray" []
/-- The class of ranges of integers. -/
def range : Class := core "range" []
/-- The class of views of bytes. -/
def memoryview : Class := core "memoryview" []

/-- The core classes besides those of exceptions. -/
def coreClasses : List Class :=
  [object, int, bool, str, float, complexNumber, list, dict, tuple, bytes, set, type, frozenset,
      bytearray, range, memoryview] ++
    ["classmethod", "enumerate", "filter", "map", "property", "reversed", "slice", "staticmethod",
      "super", "zip"].map fun name => core name []

/-! ## Exceptions of the core -/

/-- The root of all exceptions. -/
def baseException : Class := core "BaseException" []
/-- The root of ordinary exceptions. -/
def exception : Class := core "Exception" [baseException]

/-- Exceptions under the name of the class right above them, which comes before them. -/
def exceptionFamilies : List (String × List String) :=
  [("BaseException", ["Exception", "BaseExceptionGroup", "GeneratorExit", "KeyboardInterrupt",
      "SystemExit"]),
    ("Exception", ["ArithmeticError", "AssertionError", "AttributeError", "BufferError",
      "EOFError", "ImportError", "LookupError", "MemoryError", "NameError", "OSError",
      "ReferenceError", "RuntimeError", "StopAsyncIteration", "StopIteration", "SyntaxError",
      "SystemError", "TypeError", "ValueError", "Warning"]),
    ("ArithmeticError", ["FloatingPointError", "OverflowError", "ZeroDivisionError"]),
    ("ImportError", ["ModuleNotFoundError"]),
    ("LookupError", ["IndexError", "KeyError"]),
    ("NameError", ["UnboundLocalError"]),
    ("OSError", ["BlockingIOError", "ChildProcessError", "ConnectionError", "FileExistsError",
      "FileNotFoundError", "InterruptedError", "IsADirectoryError", "NotADirectoryError",
      "PermissionError", "ProcessLookupError", "TimeoutError"]),
    ("ConnectionError", ["BrokenPipeError", "ConnectionAbortedError", "ConnectionRefusedError",
      "ConnectionResetError"]),
    ("RuntimeError", ["NotImplementedError", "RecursionError"]),
    ("SyntaxError", ["IndentationError"]),
    ("IndentationError", ["TabError"]),
    ("ValueError", ["UnicodeError"]),
    ("UnicodeError", ["UnicodeDecodeError", "UnicodeEncodeError", "UnicodeTranslateError"]),
    ("Warning", ["BytesWarning", "DeprecationWarning", "EncodingWarning", "FutureWarning",
      "ImportWarning", "PendingDeprecationWarning", "ResourceWarning", "RuntimeWarning",
      "SyntaxWarning", "UnicodeWarning", "UserWarning"])]

/-- The exceptions known so far and those of one more family. -/
def addFamily (known : List Class) (family : String × List String) : List Class :=
  match known.find? fun c => c.name == family.1 with
  | some above =>
    known ++ family.2.map fun name => .declared coreModule name (above :: above.ancestors)
  | none => known

/-- The exceptions that have one class right above them. -/
def singleExceptions : List Class := exceptionFamilies.foldl addFamily [baseException]

/-- Groups of ordinary exceptions, which are groups and ordinary exceptions both. -/
def exceptionGroup : Class :=
  core "ExceptionGroup" [core "BaseExceptionGroup" [baseException], exception, baseException]

/-- The exceptions of the core. -/
def coreExceptions : List Class := singleExceptions ++ [exceptionGroup]

/-! ## Numbers -/

/-- The class of all numbers. -/
def number : Class := .declared "numbers" "Number" [object]
/-- The class of complex numbers of every kind. -/
def complex : Class := .declared "numbers" "Complex" [number, object]
/-- The class of real numbers of every kind. -/
def real : Class := .declared "numbers" "Real" [complex, number, object]
/-- The class of rational numbers of every kind. -/
def rational : Class := .declared "numbers" "Rational" [real, complex, number, object]
/-- The class of fractions. -/
def fraction : Class :=
  .declared "fractions" "Fraction" [rational, real, complex, number, object]
/-- The class of scaled decimals. -/
def decimal : Class := .declared "decimal" "Decimal" [object]

/-- The numeric classes that a class belongs to without descending from them, as the
narrowest of them. -/
def numericHome? (c : Class) : Option Class :=
  if c.descendsFrom int then some rational
  else if c == float then some real
  else if c == complexNumber then some complex
  else if c == decimal then some number
  else none

/-- Whether values of class `c` are instances of `parent`: by descent, or because the
numeric class `parent` takes them in. -/
def admits (parent c : Class) : Bool :=
  c.descendsFrom parent || (c.numericHome?.any fun home => home.descendsFrom parent)

/-! ## Classes of types -/

/-- The class of classes that take in members without being their ancestors. -/
def abstractMeta : Class := .declared "abc" "ABCMeta" [type, object]

/-- The class that any value may stand for. -/
def anything : Class := .declared "typing" "Any" [object]
/-- The class of parameters of types. -/
def typeParameter : Class :=
  .declared "typing" "TypeVar"
    (["_Final", "_Immutable", "_BoundVarianceMixin", "_PickleUsingNameMixin"].map
      (fun name => .declared "typing" name [object]) ++ [object])
/-- The class of classes with parameters. -/
def generic : Class := .declared "typing" "Generic" [object]
/-- The class of protocols. -/
def protocol : Class := .declared "typing" "Protocol" [generic, object]
/-- The class of protocols as classes. -/
def protocolMeta : Class := .declared "typing" "_ProtocolMeta" [abstractMeta, type, object]
/-- The class of the class that any value may stand for. -/
def anythingMeta : Class := .declared "typing" "_AnyMeta" [type, object]
/-- The class of paths in a file system. -/
def filePath : Class :=
  .declared "pathlib" "Path" [.declared "pathlib" "PurePath" [object], object]

/-! ## Dates and partial application -/

/-- The class of dates. -/
def date : Class := .declared "datetime" "date" [object]
/-- The class of dates with a time of day. -/
def datetime : Class := .declared "datetime" "datetime" [date, object]
/-- The class of partially applied callables. -/
def partialApplication : Class := .declared "functools" "partial" [object]
/-- The class of log channels. -/
def logChannel : Class :=
  .declared "logging" "Logger" [.declared "logging" "Filterer" [object], object]

/-! ## Classes of this library -/

/-- The name under which the functions and classes of this library are imported. -/
def packageName : String := "dataknobs_typecheck"

/-- A class of this library. -/
def ofPackage (part name : String) (ancestors : List Class) : Class :=
  .declared (packageName ++ "." ++ part) name (ancestors ++ [object])

/-- The marker for values that are text or can be read as numbers. -/
def alphanumeric : Class := ofPackage "classifiers" "Alphanumeric" []
/-- The protocol of predicates, to which all that can be called conforms. -/
def predicate : Class := ofPackage "combinators" "Predicate" [protocol, generic]
/-- The class of predicates on classes. -/
def subClassOf : Class := ofPackage "combinators" "SubClassOf" []
/-- The class of predicates on instances. -/
def instanceOf : Class := ofPackage "combinators" "InstanceOf" []
/-- The class of named predicates. -/
def validator : Class := ofPackage "registry" "Validator" []
/-- The class of plain registries. -/
def registry : Class :=
  ofPackage "registry" "Registry" [generic]
/-- The class of registries of validators. -/
def validatorRegistry : Class :=
  ofPackage "registry" "ValidatorRegistry" [registry, generic]
/-- The class of settings. -/
def settings : Class := ofPackage "settings" "TypecheckSettings" []
/-- The root of the exceptions of this library. -/
def packageError : Class := ofPackage "exceptions" "DataknobsError" [exception, baseException]

/-- An exception of this library below its root. -/
def errorKind (name : String) : Class :=
  ofPackage "exceptions" name [packageError, exception, baseException]

/-- The class of a class. -/
def metaclass (c : Class) : Class :=
  if c.module == number.module || c == fraction then abstractMeta
  else if c == protocol || c == predicate then protocolMeta
  else if c == anything then anythingMeta
  else type

/-! ## Classes whose values show what they hold -/

/-- The classes whose values are known by what they hold: those of plain data, of numbers, of
classes and of type specifications. -/
def transparent : List Class :=
  [int, str, float, complexNumber, list, tuple, dict, set, bytes, type, number] ++
    ["RegistryKey", "ClassRef", "PredicateRef", "UnsupportedSpec"].map (ofPackage "type_spec" · [])

/-- Whether a class is one of those whose values are known by what they hold, or below one. -/
def isTransparent (c : Class) : Bool := transparent.any c.descendsFrom

/-- The modules whose classes are known here: those of the core and those of this library. -/
def knownModules : List String :=
  [coreModule, "numbers", "fractions", "decimal", "abc", "typing", "pathlib", "datetime",
      "functools", "logging", "_frozen_importlib"] ++
    ["classifiers", "combinators", "registry", "settings", "exceptions", "type_spec"].map
      fun part => packageName ++ "." ++ part

/-- Whether a class is one of the core or of this library. -/
def isKnown (c : Class) : Bool := knownModules.contains c.module

end Class

end Conform
