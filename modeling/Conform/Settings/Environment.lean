import Conform.Conversion
import Conform.Settings

/-!
# Settings from the Environment

An environment variable may set the level: its name is a prefix followed by `LOG_LEVEL`.
A variable that is empty counts as not set. Settings can be merged with the environment,
which then wins over the level they hold; the validators stay.
-/

namespace Conform

/-- The variables of an environment and their values. -/
abbrev Environment := List (String × String)

namespace Settings

/-- The prefix of the variables that are read unless another is given. -/
def defaultPrefix : Value := .text "DATAKNOBS_TYPECHECK_"

/-- The document that an environment stands for. -/
def environmentDocument (environment : Environment) (name : String) : Value :=
  match environment.lookup name with
  | none => .mapping none []
  | some level => .mapping none (if level.isEmpty then [] else [(.text "log_level", .text level)])

/-- Settings read from an environment. -/
def ofEnvironment (environment : Environment) (start : Value) : Act Settings := do
  let start ← Act.message start
  Act.ofExcept (ofDocument (← get).level (environmentDocument environment (start ++ "LOG_LEVEL")))

/-- Settings read from an environment, as a value. -/
def loadEnvironment (environment : Environment) (start : Value) : Act Value := do
  (← ofEnvironment environment start).toValue

/-- A copy of settings in which the level that an environment sets stands in for their
own. -/
def mergeEnvironment (environment : Environment) (start : Value) : Value → Act Value
  | .settings _ level validators => do
    let overrides ← ofEnvironment environment start
    let level := (overrides.logLevel.map Value.text).getD level
    -- Settings made by hand may hold anything that can be copied into a mapping.
    let copy ← Act.ofExcept ((← get).entries validators)
    make level (.mapping none copy)
  | _ => Act.fault .noAttribute

end Settings

end Conform
