import Conform.Settings.FunctionPath

/-!
# Applying Settings

Settings are applied one after the other: first the level of the validation channel, then
each declared validator in order. What was done before a failure stays done.
-/

namespace Conform

namespace Act

/-- The function path of a declared validator; its members must be a mapping with one. -/
def functionPath : Value → Except Failure Value
  | .mapping _ members =>
    match Entries.field? members "function" with
    | some path => .ok path
    | none => .error (.fault .noKey)
  | _ => .error (.fault .typeMismatch)

/-- The name that a declared validator has for messages, absent if none is given. -/
def displayName : Value → Value
  | .mapping _ members => (Entries.field? members "name").getD .null
  | _ => .null

/-- The place of a registry that validators can be set in. -/
def validatorRegistry : Value → Except Failure Nat
  | .registry id .validators => .ok id
  | _ => .error (.fault .noAttribute)

/-- Load the function of a declared validator and register it. -/
def applyValidator (modules : Modules) (registry key entry : Value) : Act Unit := do
  let path ← ofExcept (functionPath entry)
  let function ← loadFunction modules path
  -- Whether there is a registry to set it in is found out only now.
  let id ← ofExcept (validatorRegistry registry)
  discard (setValidator id key function (displayName entry))
  let keyText ← message key
  let pathText ← message path
  log .settings .debug ("Registered validator '" ++ keyText ++ "' from " ++ pathText)

/-- Register declared validators in order. -/
def applyValidators (modules : Modules) (registry : Value) : Entries → Act Unit
  | [] => return ()
  | (key, entry) :: rest => do
    applyValidator modules registry key entry
    applyValidators modules registry rest

/-- The entries of what settings declare as validators. -/
def declaredEntries (s : Session) : Value → Except Failure Entries
  | .settings _ _ (.mapping _ entries) => .ok entries
  | .settings _ _ (.registry id _) => .ok (s.registryAt id).entries
  | _ => .error (.fault .noAttribute)

/-- Apply settings to a registry, or to the process registry if none is given. The answer is
the registry. -/
def applySettings (modules : Modules) (settings registry : Value) : Act Value := do
  let registry :=
    if registry.isNull then .registry Session.processRegistry .validators else registry
  discard (Logging.configure .null settings)
  applyValidators modules registry (← ofExcept (declaredEntries (← get) settings))
  return registry

end Act

end Conform
