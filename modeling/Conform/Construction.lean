import Conform.Conversion
import Conform.Predicate
import Conform.Registry
import Conform.Settings
import Conform.Signature
import Conform.TypeSpec

/-!
# Constructions

What calling a class makes.

* `Constructor.own` lists the classes of this library with the parameters that making an
  instance takes.
* `Act.constructCore` calls a core class: the classes of plain data convert what they are
  given, exceptions take anything, and the others make objects that show nothing but their
  class and whether they count as true.
* `Act.construct` is the call of any class. A class of the host is asked of the host.
-/

namespace Conform

namespace Act

/-! ## Errors -/

/-- An error of this library as a value: its details stand in for its context where they
count as true, and an empty mapping where neither does. -/
def makeError (kind : ErrorKind) (message context details : Value) : Act Value := do
  let chosen ←
    if ← truth details then pure details
    else if ← truth context then pure context
    else pure (.mapping none [])
  return .error (← fresh) kind message chosen none

/-- A validation error as a value. -/
def makeRejection (value expected name : Value) : Act Value := do
  let message ← Message.rejection value expected name
  let r : Rejection := { value, expected, name, message }
  return .error (← fresh) .validation (.text message) r.context (some (value, expected, name))

end Act

/-! ## Classes of this library -/

/-- A class of this library, the parameters it takes, and the instance it makes of their
values. -/
structure Constructor where
  /-- The class. -/
  cls : Class
  /-- The parameters. -/
  signature : Signature
  /-- The instance made of the values of the parameters. -/
  make : List Value → Act Value

namespace Constructor

/-- The constructor of a kind of errors. -/
def ofErrorKind (kind : ErrorKind) : Constructor where
  cls := kind.cls
  signature :=
    .ofList <|
      if kind = .validation then
        [.required "value", .required "expected", .default "name" .null]
      else [.required "message", .default "context" .null, .default "details" .null]
  make
    | [x, y, z] => if kind = .validation then Act.makeRejection x y z else Act.makeError kind x y z
    | _ => Act.fault .typeMismatch

/-- The constructor of a kind of type specifications. -/
def ofSpecKind (kind : SpecKind) : Constructor where
  cls := kind.classOf
  signature := .one kind.member
  make
    | [raw] => Act.newTypeSpec kind raw
    | _ => Act.fault .typeMismatch

/-- The constructor of validators. -/
def validator : Constructor where
  cls := Class.validator
  signature := .ofList [.required "name", .required "function"]
  make
    | [name, function] => Act.newValidator name function
    | _ => Act.fault .typeMismatch

/-- The constructor of plain registries. -/
def registry : Constructor where
  cls := Class.registry
  signature := .one "name"
  make
    | [name] => return .registry (← Act.newRegistry name) .plain
    | _ => Act.fault .typeMismatch

/-- The constructor of registries of validators. -/
def validatorRegistry : Constructor where
  cls := Class.validatorRegistry
  signature :=
    .ofList [.default "name" (.text "validators"), .default "seed" (.bool true)]
  make
    | [name, seed] => return .registry (← Act.newValidatorRegistry name seed) .validators
    | _ => Act.fault .typeMismatch

/-- The constructor of settings. -/
def settings : Constructor where
  cls := Class.settings
  signature :=
    .ofList [.default "log_level" .null, .default "validators" (.mapping none [])]
  make
    | [logLevel, validators] => Settings.make logLevel validators
    | _ => Act.fault .typeMismatch

/-- The constructor of predicates on classes. -/
def subClassOf : Constructor where
  cls := Class.subClassOf
  signature := .ofList [.required "parent", .default "include_identity" (.bool true)]
  make
    | [parent, includeIdentity] => Predicate.subClassOf parent includeIdentity
    | _ => Act.fault .typeMismatch

/-- The constructor of predicates on instances. -/
def instanceOf : Constructor where
  cls := Class.instanceOf
  signature := .one "cls"
  make
    | [parent] => Predicate.instanceOf parent
    | _ => Act.fault .typeMismatch

/-- The classes of this library that make something of arguments. -/
def own : List Constructor :=
  ErrorKind.all.map ofErrorKind ++ SpecKind.all.map ofSpecKind ++
    [validator, registry, validatorRegistry, settings, subClassOf, instanceOf]

/-- The instance made of arguments by place and by name, which must fit the parameters. -/
def apply (c : Constructor) (arguments : List Value) (named : List (String × Value)) : Act Value :=
  match c.signature.bind? arguments named with
  | some bound => c.make (bound.map fun v => v.getD .null)
  | none => Act.fault .typeMismatch

end Constructor

namespace Act

/-! ## Core classes -/

/-- An object that shows nothing but its class and whether it counts as true. There is none of a
class whose values are known by what they hold. -/
def makeObject (c : Class) (truth : Bool) : Act Value :=
  if closed : c.isTransparent = false then do
    let text := .ok (Value.objectText c)
    return .foreign (← fresh) { cls := c, text, inner := text, truth, callable := false, closed } none
  else fault .typeMismatch

/-- The exceptions that take their own number of arguments, and groups of exceptions, which
no plain value is a member of. -/
def strictExceptions : List String :=
  ["UnicodeDecodeError", "UnicodeEncodeError", "UnicodeTranslateError", "BaseExceptionGroup",
    "ExceptionGroup"]

/-- The text of an exception inside collections. -/
def exceptionExpression (level : Threshold) (c : Class) (arguments : List Value) :
    Except TextFailure String := do
  let parts ← arguments.mapM fun v => v.inner level
  return Value.bracketed (c.name ++ "(") parts ")"

/-- An exception of the core, made from any number of values: its text is that of the one
value, or else of all of them. A missing key is shown in its inner form. -/
def makeException (c : Class) (arguments : List Value) : Act Value := do
  if strictExceptions.contains c.name then fault .typeMismatch
  let level := (← get).level
  let text := match arguments with
    | [] => .ok ""
    | [v] => if c.name = "KeyError" then v.inner level else v.message level
    | vs => (Value.tuple none vs).message level
  let inner := exceptionExpression level c arguments
  if closed : c.isTransparent = false then
    return .foreign (← fresh) { cls := c, text, inner, truth := true, callable := false, closed } none
  else fault .typeMismatch

/-- Convert a value to the class of doubles; a double is left as it is. -/
def makeDouble : Value → Act Value
  | .float mark x => return .float mark x
  | v => return .float none (← ofExcept v.toDouble)

/-- Convert a value to the class of complex numbers; one of them is left as it is. -/
def makeComplex : Value → Act Value
  | .complex mark re im => return .complex mark re im
  | v => do
    let (re, im) ← ofExcept v.toComplex
    return .complex none re im

/-- Convert a value to the class of decimals; a decimal is left as it is. -/
def makeDecimal : Value → Act Value
  | .decimal mark d => return .decimal mark d
  | v => return .decimal none (← ofExcept v.toScaled)

/-- Convert a value to the class of tuples; a tuple is left as it is. -/
def makeTuple : Value → Act Value
  | .tuple mark items => return .tuple mark items
  | v => return .tuple none (← ofExcept ((← get).items v))

/-- Convert a value to the class of byte strings; a byte string is left as it is. -/
def makeBytes : Value → Act Value
  | .bytes content => return .bytes content
  | v => return .bytes (← ofExcept ((← get).bytesOf v))

/-- The integers that values are. -/
def indices (vs : List Value) : Act (List Int) :=
  vs.mapM fun v =>
    match v.index? with
    | some n => pure n
    | none => fault .typeMismatch

/-- A range of integers, from a start up to a stop, by steps other than zero. -/
def makeRange (arguments : List Value) : Act Value := do
  let (start, stop, step) ← match ← indices arguments with
    | [stop] => pure ((0 : Int), stop, (1 : Int))
    | [start, stop] => pure (start, stop, 1)
    | [start, stop, step] => pure (start, stop, step)
    | _ => fault .typeMismatch
  if step = 0 then fault .badValue
  makeObject Class.range (if 0 < step then start < stop else stop < start)

/-- Demand that values are collections. -/
def demandItems (vs : List Value) : Act Unit := do
  let s ← get
  discard (ofExcept (vs.mapM s.items))

/-- Whether a value keeps its items in an order that can be turned around. -/
def isReversible : Value → Bool
  | .text _ | .bytes _ | .list .. | .tuple .. | .mapping .. => true
  | _ => false

/-- How the classes of plain data convert a value. -/
def conversions : List (Class × (Value → Act Value)) :=
  [(Class.bool, fun v => return .bool (← truth v)),
    (Class.str, fun v => return .text (← message v)),
    (Class.int, fun v => return .int (← ofExcept v.toInteger)),
    (Class.float, makeDouble),
    (Class.complexNumber, makeComplex),
    (Class.fraction, fun v => return .fraction none (← ofExcept v.toFraction)),
    (Class.decimal, makeDecimal),
    (Class.list, fun v => return .list none (← ofExcept ((← get).items v))),
    (Class.tuple, makeTuple),
    (Class.set, fun v => return .set none (← ofExcept ((← get).distinct v))),
    (Class.dict, fun v => return .mapping none (← ofExcept ((← get).entries v))),
    (Class.bytes, makeBytes),
    (Class.type, fun v => return .cls v.classOf)]

/-- What calling a core class on one value makes, where that is an object of no further
interest. -/
def makeFrom (c : Class) (v : Value) : Act Value := do
  let s ← get
  if c == Class.frozenset then
    makeObject c (!(← ofExcept (s.distinct v)).isEmpty)
  else if c == Class.bytearray then
    match ← makeBytes v with
    | .bytes content => makeObject c (!content.isEmpty)
    | _ => fault .typeMismatch
  else if c == Class.memoryview then
    match v with
    | .bytes content => makeObject c (!content.isEmpty)
    | _ => fault .typeMismatch
  else if c == Class.filePath || c == Class.moduleClass then
    if v.isText then makeObject c true else fault .typeMismatch
  else if c.module == Class.coreModule && ["classmethod", "staticmethod", "slice"].contains c.name
      || c == Class.typeParameter then
    makeObject c true
  else if c.module == Class.coreModule && c.name == "super" then
    match v with
    | .cls _ => makeObject c true
    | _ => fault .typeMismatch
  else if c.module == Class.coreModule && c.name == "reversed" then
    if isReversible v then makeObject c true else fault .typeMismatch
  else if c.module == Class.coreModule && c.name == "enumerate" then
    demandItems [v]
    makeObject c true
  else fault .typeMismatch

/-- What calling a core class on nothing makes. -/
def emptyOf (c : Class) : Act Value :=
  let table : List (Class × Value) :=
    [(Class.bool, .bool false), (Class.str, .text ""), (Class.int, .int 0),
      (Class.float, .float none (.zero false)),
      (Class.complexNumber, .complex none (.zero false) (.zero false)),
      (Class.fraction, .fraction none 0), (Class.decimal, .decimal none (.ofInt 0)),
      (Class.list, .list none []), (Class.tuple, .tuple none []), (Class.set, .set none []),
      (Class.dict, .mapping none []), (Class.bytes, .bytes []), (Class.nothing, .null)]
  match table.find? fun entry => entry.1 == c with
  | some (_, v) => return v
  | none =>
    if c == Class.frozenset || c == Class.bytearray then makeObject c false
    else if [Class.object, Class.filePath, Class.alphanumeric, Class.number, Class.generic].contains c
    then makeObject c true
    else fault .typeMismatch

/-- What calling a core class on two values makes. -/
def makeFromTwo (c : Class) (v w : Value) : Act Value := do
  if c == Class.int then return .int (← ofExcept (v.toIntegerIn w))
  else if c == Class.str then return .text (← ofExcept (v.decoded (some w) none))
  else if c == Class.bytes then return .bytes (← ofExcept (v.encoded w none))
  else if c == Class.bytearray then
    makeObject c (!(← ofExcept (v.encoded w none)).isEmpty)
  else if c == Class.complexNumber then
    let (re, im) ← ofExcept (v.complexOfParts w)
    return .complex none re im
  else if c == Class.fraction then
    if w.isNull then return .fraction none (← ofExcept v.toFraction)
    else return .fraction none (← ofExcept (v.toQuotient w))
  else if c == Class.decimal then
    if w.isNull then makeDecimal v else fault .typeMismatch
  else if c == Class.filePath then
    if v.isText && w.isText then makeObject c true else fault .typeMismatch
  else fault .typeMismatch

/-- What calling a core class on three values makes: text and bytes are made with an encoding
and a way to handle what has no form in it. -/
def makeFromThree (c : Class) (v encoding handling : Value) : Act Value := do
  if c == Class.str then
    return .text (← ofExcept (v.decoded (some encoding) (some handling)))
  else if c == Class.bytes then return .bytes (← ofExcept (v.encoded encoding (some handling)))
  else if c == Class.bytearray then
    makeObject c (!(← ofExcept (v.encoded encoding (some handling))).isEmpty)
  else fault .typeMismatch

/-- A partial application of a callable to the arguments after it. -/
def makePartial : List Value → Act Value
  | callee :: bound =>
    if callee.isCallable then return Value.applyPartially (← fresh) callee bound
    else fault .typeMismatch
  | [] => fault .typeMismatch

/-- Call a core class that takes collections or anything at all; nothing for one that takes a
few values of its own. -/
def constructFromAny? (c : Class) (arguments : List Value) : Option (Act Value) :=
  if c == Class.partialApplication then some (makePartial arguments)
  else if c.module != Class.coreModule then none
  else if c.descendsFrom Class.baseException then some (makeException c arguments)
  else
    match c.name with
    | "range" => some (makeRange arguments)
    | "zip" => some do
      demandItems arguments
      makeObject c true
    | "map" => some do
      if arguments.length < 2 then fault .typeMismatch
      demandItems (arguments.drop 1)
      makeObject c true
    | "filter" => some do
      if arguments.length ≠ 2 then fault .typeMismatch
      demandItems (arguments.drop 1)
      makeObject c true
    | "property" => some (if arguments.length ≤ 4 then makeObject c true else fault .typeMismatch)
    | _ => none

/-- Call a core class. -/
def constructCore (c : Class) (arguments : List Value) : Act Value :=
  match constructFromAny? c arguments, arguments with
  | some made, _ => made
  | none, [] => emptyOf c
  | none, [v] =>
    match conversions.find? fun entry => entry.1 == c with
    | some (_, convert) => convert v
    | none => makeFrom c v
  | none, [v, w] => makeFromTwo c v w
  | none, [v, w, u] => makeFromThree c v w u
  | none, _ => fault .typeMismatch

/-- Call a class. -/
def construct (host : Host) (c : Class) (arguments : List Value) : Act Value :=
  match Constructor.own.find? fun own => own.cls == c with
  | some own => own.apply arguments []
  | none => if c.isKnown then constructCore c arguments else host.instantiate c arguments

end Act

end Conform
