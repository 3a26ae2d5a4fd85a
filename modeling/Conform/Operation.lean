import Conform.Check
import Conform.Settings.Application

/-!
# Operations by Name

The operations on a session that this library offers under names, with the parameters they
take. Settings can declare any of them as the function of a validator, and so they can be
called as values are: `Operation.host` completes a host program with their answers.

An operation that calls a value may so come to call an operation again. How deep that may go
is limited.
-/

namespace Conform

/-- An operation under a name, its parameters, and its answer to their values, with the host
and the modules that it may ask. -/
structure Operation where
  /-- The name. -/
  name : String
  /-- The parameters. -/
  signature : Signature
  /-- The answer to the values of the parameters. -/
  run : Host → Modules → List (Option Value) → Act Value

namespace Operation

/-- Answer nothing once something is done. -/
def silently (done : Act Unit) : Act Value := do
  done
  return .null

/-- An operation without parameters. -/
def ofNothing (name : String) (run : Act Value) : Operation where
  name := name
  signature := .ofList []
  run _ _ _ := run

/-- An operation with one required parameter. -/
def ofOne (name parameter : String) (run : Value → Act Value) : Operation where
  name := name
  signature := .one parameter
  run
    | _, _, [some v] => run v
    | _, _, _ => Act.fault .typeMismatch

/-- An operation with two parameters, all of which have a value. -/
def ofTwo (name : String) (p q : Parameter) (run : Value → Value → Act Value) : Operation where
  name := name
  signature := .ofList [p, q]
  run
    | _, _, [some v, some w] => run v w
    | _, _, _ => Act.fault .typeMismatch

/-- The check of a value by a predicate. Its default and its rule for warnings are given by
name only. -/
def check : Operation where
  name := "check"
  signature :=
    { parameters :=
        [.required "value", .required "validator", .required "expected", .default "name" .null,
          .default "default_value" .null, .default "warn_if" .null]
      placed := 4 }
  run
    | host, _, [some value, some validator, some expected, some name, some default, some warnIf] =>
      Act.check host value validator expected name default warnIf
    | _, _, _ => Act.fault .typeMismatch

/-- The check of a value by a type argument. -/
def checkType : Operation where
  name := "check_type"
  signature :=
    .ofList [.required "value", .required "type_", .required "name", .opened "default_value",
      .default "warn_if" (.routine .isPresent)]
  run
    | host, _, [some value, some type, some name, default, some warnIf] =>
      Act.checkType host value type name default warnIf
    | _, _, _ => Act.fault .typeMismatch

/-- The default that stands in for a value. -/
def resolveDefault : Operation where
  name := "_resolve_default"
  signature := .ofList [.required "default_value", .required "value"]
  run
    | host, _, [some default, some value] => Act.resolveDefault host default value
    | _, _, _ => Act.fault .typeMismatch

/-- The loading of a function by its path. -/
def loadFunction : Operation where
  name := "load_function"
  signature := .one "path"
  run
    | _, modules, [some path] => Act.loadFunction modules path
    | _, _, _ => Act.fault .typeMismatch

/-- The application of settings to a registry. -/
def applySettings : Operation where
  name := "apply_settings"
  signature := .ofList [.required "settings", .default "registry" .null]
  run
    | _, modules, [some settings, some registry] => Act.applySettings modules settings registry
    | _, _, _ => Act.fault .typeMismatch

/-- The setting of a validator in the process registry. -/
def setValidator : Operation where
  name := "set_validator"
  signature := .ofList [.required "type_key", .required "validator", .default "name" .null]
  run
    | _, _, [some key, some function, some name] =>
      silently (discard (Act.setValidator Session.processRegistry key function name))
    | _, _, _ => Act.fault .typeMismatch

/-- The sending of a warning on the validation channel. -/
def sendWarning : Operation where
  name := "_warn"
  signature := .one "message"
  run
    | host, _, [some v] => silently (Logging.emitWarning host (Logging.tell .message v))
    | _, _, _ => Act.fault .typeMismatch

/-- The text that the name of a subject starts a message with. -/
def namePrefix : Operation where
  name := "name_prefix"
  signature := .ofList [.default "name" .null]
  run
    | _, _, [some name] => return .text (← Message.namePrefix name)
    | _, _, _ => Act.fault .typeMismatch

/-- A copy of an object of this library that is equal to it. -/
def copyOf : Value → Act Value
  | .settings _ level validators => return .settings (← Act.fresh) level validators
  | .validator _ name function => return .validator (← Act.fresh) name function
  | .spec _ kind raw => return .spec (← Act.fresh) kind raw
  | _ => Act.fault .typeMismatch

/-- A class as one whose instances can be compared; anything else has no members to be
compared by. -/
def asRecord : Value → Act Value
  | .null => Act.makeObject Class.function true
  | .cls c => return .cls c
  | _ => Act.fault .noAttribute

/-- The protocol of predicates as one that can be asked for instances. -/
def asCheckable : Value → Act Value
  | .cls c => if c == Class.predicate then return .cls c else Act.fault .typeMismatch
  | _ => Act.fault .typeMismatch

/-- All operations. -/
def all : List Operation :=
  [check, checkType, resolveDefault, loadFunction, applySettings, setValidator, namePrefix,
    ofOne "_is_log_level" "value" fun v => return .bool (Settings.isLevel v),
    sendWarning,
    ofOne "value_type" "value" Act.shown,
    ofOne "to_type_spec" "type_" Act.toTypeSpec,
    ofTwo "sub_class" (.required "parent") (.default "include_identity" (.bool true))
      Predicate.subClassOf,
    ofOne "instance_of" "cls" Predicate.instanceOf,
    ofNothing "get_registry" (return .registry Session.processRegistry .validators),
    ofOne "has_validator" "type_key" fun key =>
      return .bool (← Act.hasItem Session.processRegistry key),
    ofOne "get_validator" "type_key" (Act.getItem Session.processRegistry),
    ofOne "get_validator_optional" "type_key" (Act.getOptionalItem Session.processRegistry),
    ofNothing "list_validators" do
      return .list none (← Act.registryAt Session.processRegistry).keys,
    ofNothing "reset_validators" (silently (Act.seedRegistry Session.processRegistry)),
    ofTwo "configure_logging" (.default "level" .null) (.default "settings" .null)
      Logging.configure,
    ofOne "replace" "obj" copyOf,
    ofOne "dataclass" "cls" asRecord,
    ofOne "runtime_checkable" "cls" asCheckable]

/-- The operation with a name. -/
def find? (name : String) : Option Operation := all.find? fun o => o.name == name

/-- The answer of an operation to arguments by place and by name, which must fit its
parameters. -/
def apply (o : Operation) (host : Host) (modules : Modules) (arguments : List Value)
    (named : List (String × Value)) : Act Value :=
  match o.signature.bind? arguments named with
  | some bound => o.run host modules bound
  | none => Act.fault .typeMismatch

/-- A host program completed with the answers of operations, which may call one another up to
a depth. -/
def host (modules : Modules) (base : Host) : Nat → Host
  | 0 => { base with operate := fun _ _ => Act.fault .tooDeep }
  | depth + 1 =>
    { base with
      operate := fun name arguments =>
        match find? name with
        | some o => o.apply (host modules base depth) modules arguments []
        | none => Act.fault .typeMismatch }

end Operation

end Conform
