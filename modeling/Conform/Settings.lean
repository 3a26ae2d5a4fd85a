import Conform.Classifier
import Conform.Registry
import Conform.Value.Sorting

/-!
# Settings

Settings name a level for the validation channel and declare validators: under each key a
mapping with the dotted path of a function and, optionally, a name for messages.

`Settings.ofDocument` reads settings from a value and checks its shape. The checks are
taken in a fixed order and the first that fails is reported. Members that settings do not
know are kept in the entries of validators and left out, with a warning, at the top. What is
reported of a value is its text, which may show the level of the validation channel.
-/

namespace Conform

/-- Settings that have the right shape. -/
structure Settings where
  /-- The name of the level, in upper case, if one is set. -/
  logLevel : Option String
  /-- The members of each declared validator under its key, in order. -/
  validators : List (Value × Entries)

namespace Settings

/-- The names of levels that settings may use. -/
def levelNames : List String := ["CRITICAL", "ERROR", "WARNING", "INFO", "DEBUG", "NOTSET"]

/-- Whether a value is absent or names a level, in any case. -/
def isLevel : Value → Bool
  | .null => true
  | .text name => levelNames.contains (Text.upper name)
  | _ => false

/-- The members of settings that are known. -/
def knownMembers : List String := ["log_level", "validators"]

/-- Report that a value in a settings document is not what was expected. -/
def offence {α : Type} (level : Threshold) (value : Value) (expected name : String) :
    Except Failure α :=
  match value.mention level with
  | .error failure => .error (.ofText failure)
  | .ok given =>
    let message := Message.sentence (name ++ ": ") expected given
    .error (.configuration (.invalid
      { value, expected := .text expected, name := .text name, message }))

/-- The entries of a value that must be a mapping. -/
def mappingAt (level : Threshold) (value : Value) (name : String) : Except Failure Entries :=
  match value with
  | .mapping _ entries => .ok entries
  | _ => offence level value "mapping" name

/-- Demand that a value is a text. -/
def demandText (level : Threshold) (value : Value) (expected name : String) :
    Except Failure Unit :=
  if value.isText then .ok () else offence level value expected name

/-- Read one declared validator: a mapping with a text for its function and a text for its
name, in whose place the key stands where no name is given. -/
def readValidator (level : Threshold) (key entry : Value) : Except Failure (Value × Entries) :=
  match key.message level with
  | .error failure => .error (.ofText failure)
  | .ok keyText => do
    let place := "validators." ++ keyText
    let members ← mappingAt level entry place
    demandText level ((Entries.field? members "function").getD .null) "dotted path"
      (place ++ ".function")
    demandText level ((Entries.field? members "name").getD key) "string" (place ++ ".name")
    return (key, members)

/-- The name of the level a value stands for, once it is known to be a level. -/
def levelName? : Value → Option String
  | .text name => some (Text.upper name)
  | _ => none

/-- Read settings from a document. -/
def ofDocument (level : Threshold) (data : Value) : Except Failure Settings := do
  let members ← mappingAt level data "settings"
  let wanted := (Entries.field? members "log_level").getD .null
  unless isLevel wanted do offence level wanted "log level name" "log_level"
  let declared := (Entries.field? members "validators").getD .null
  let entries ← if declared.isNull then .ok [] else mappingAt level declared "validators"
  let validators ← entries.mapM fun (key, entry) => readValidator level key entry
  return { logLevel := levelName? wanted, validators }

/-- The members of a document that settings do not know. -/
def unknownMembers : Value → List Value
  | .mapping _ entries =>
    (Entries.keys entries).filter fun key => !knownMembers.any fun name => key.equal (.text name)
  | _ => []

/-- The entries that stand for the declared validators. -/
def entries (s : Settings) : Entries :=
  s.validators.map fun (key, members) => (key, .mapping none members)

/-- Settings made of any two values, whether or not they have the right shape. -/
def make (logLevel validators : Value) : Act Value :=
  return .settings (← Act.fresh) logLevel validators

/-- Settings as a value. -/
def toValue (s : Settings) : Act Value :=
  make ((s.logLevel.map Value.text).getD .null) (.mapping none s.entries)

/-- Warn about members that settings do not know, in sorted order. -/
def warnUnknown (members : List Value) : Act Unit := do
  unless members.isEmpty do
    let sorted ← Act.ofExcept (Value.sorted? members)
    -- Mentioned as a list is, with each member in its inner form.
    let text ← Act.inner (.list none sorted)
    Act.log .settings .warning ("Ignoring unknown typecheck settings: " ++ text)

/-- Settings read from a document, with a warning about members they do not know. -/
def load (data : Value) : Act Value := do
  let settings ← Act.ofExcept (ofDocument (← get).level data)
  warnUnknown (unknownMembers data)
  settings.toValue

end Settings

end Conform
