import Conform.Logging

/-!
# Registries

A registry keeps items under keys, in the order in which the keys came. A registry of
validators is filled with the seven built-in kinds at first and whenever it is reset. The
registry at place zero is the one that type checks look keys up in.

The operations on one registry are functions on `Registry`; the operations on a session
apply them to the registry at a place.
-/

namespace Conform

namespace Registry

/-- Why an operation on a registry did not succeed. -/
inductive Refusal where
  | unusableKey
  | absent
  | taken
  deriving DecidableEq, Repr

/-- A registry without items. -/
def empty (name : Value) : Registry := { name, entries := [] }

/-- Whether a key is present. -/
def has (r : Registry) (key : Value) : Except Refusal Bool :=
  if key.isHashable then .ok (Entries.has r.entries key) else .error .unusableKey

/-- The item under a key. -/
def get (r : Registry) (key : Value) : Except Refusal Value :=
  if key.isHashable then
    match Entries.find? r.entries key with
    | some item => .ok item
    | none => .error .absent
  else .error .unusableKey

/-- The item under a key, and the absent value where there is none. -/
def getOptional (r : Registry) (key : Value) : Except Refusal Value :=
  if key.isHashable then .ok ((Entries.find? r.entries key).getD .null) else .error .unusableKey

/-- Keep an item under a key. A key that is taken is refused unless overwriting is allowed,
and keeps its place when it is overwritten. -/
def register (r : Registry) (key item : Value) (overwrite : Bool) : Except Refusal Registry :=
  if !key.isHashable then .error .unusableKey
  else if !overwrite && Entries.has r.entries key then .error .taken
  else .ok { r with entries := Entries.put key item r.entries }

/-- The registry without its items. -/
def clear (r : Registry) : Registry := { r with entries := [] }

/-- The keys, in the order in which they came. -/
def keys (r : Registry) : List Value := Entries.keys r.entries

/-- The items, in the order of their keys. -/
def items (r : Registry) : List Value := Entries.items r.entries

/-- The number of items. -/
def count (r : Registry) : Nat := r.entries.length

/-- Whether a value is a key that is present; only a text can be. -/
def contains (r : Registry) : Value → Bool
  | .text s => Entries.has r.entries (.text s)
  | _ => false

/-- The built-in kinds: the key of each and the routine that decides it. -/
def builtins : List (String × Routine) :=
  [("alphanumeric", .isAlphanumeric), ("array", .isArray), ("boolean", .isBoolean),
    ("function", .isFunction), ("number", .isNumber), ("object", .isPlainObject),
    ("string", .isString)]

/-- The validators of the built-in kinds, with identities counted from the given one. -/
def builtinEntries (firstId : Nat) : Entries :=
  builtins.zipIdx.map fun ((key, routine), i) =>
    (.text key, .validator (firstId + i) (.text key) (.routine routine))

end Registry

namespace Session

/-- The place of the registry that type checks look keys up in. -/
def processRegistry : Nat := 0

/-- A session in which nothing has happened: the process registry holds the built-in
kinds. -/
def initial : Session where
  registries := [{ name := .text "validators", entries := Registry.builtinEntries 0 }]
  nextId := Registry.builtins.length

end Session

namespace Act

/-- Pass an answer of a registry on; a refusal becomes the failure that reports it. -/
def answerOf {α : Type} (r : Registry) (key : Value) (answer : Except Registry.Refusal α) :
    Act α :=
  match answer with
  | .ok a => pure a
  | .error .unusableKey => fault .typeMismatch
  | .error .absent => do
    let keyText ← message key
    fail (.absent key r.name keyText r.keys)
  | .error .taken => do
    let keyText ← message key
    let registryText ← message r.name
    fail (.taken key r.name keyText registryText)

/-- A new registry without items. -/
def newRegistry (name : Value) : Act Nat := do
  let s ← get
  set { s with registries := s.registries ++ [Registry.empty name] }
  return s.registries.length

/-- Empty a registry. -/
def clearRegistry (id : Nat) : Act Unit := do
  setRegistry id (← registryAt id).clear

/-- Leave exactly the built-in kinds in a registry. -/
def seedRegistry (id : Nat) : Act Unit := do
  let s ← get
  let r := s.registryAt id
  set { s.setRegistry id { r with entries := Registry.builtinEntries s.nextId } with
    nextId := s.nextId + Registry.builtins.length }

/-- A new registry of validators, filled with the built-in kinds where that is asked for. -/
def newValidatorRegistry (name seed : Value) : Act Nat := do
  let id ← newRegistry name
  if ← truth seed then seedRegistry id
  return id

/-- Keep an item under a key of a registry. -/
def register (id : Nat) (key item overwrite : Value) : Act Unit := do
  let r ← registryAt id
  setRegistry id (← answerOf r key (r.register key item (← truth overwrite)))

/-- The item under a key of a registry. -/
def getItem (id : Nat) (key : Value) : Act Value := do
  let r ← registryAt id
  answerOf r key (r.get key)

/-- The item under a key of a registry, and the absent value where there is none. -/
def getOptionalItem (id : Nat) (key : Value) : Act Value := do
  let r ← registryAt id
  answerOf r key (r.getOptional key)

/-- Whether a key is present in a registry. -/
def hasItem (id : Nat) (key : Value) : Act Bool := do
  let r ← registryAt id
  answerOf r key (r.has key)

/-- A validator: a function with a name for messages. -/
def newValidator (name function : Value) : Act Value := return .validator (← fresh) name function

/-- Register or replace the validator for a key: a function with a name for messages, which
is the key itself when no name is given. The answer is the new validator. -/
def setValidator (id : Nat) (key function name : Value) : Act Value := do
  let name := if name.isNull then key else name
  let validator ← newValidator name function
  -- Asked before the item is in, as the record tells only of replacements.
  let replaced ← hasItem id key
  register id key validator (.bool true)
  if replaced then
    log .registry .debug ("Replaced validator for type '" ++ (← message key) ++ "'")
  return validator

end Act

end Conform
