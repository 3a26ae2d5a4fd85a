import Conform.Failure
import Conform.Value.Equality
import Conform.Value.Rendering

/-!
# Sessions

The state that operations share, and the operations that only touch it. A session holds
the registries, the level of the validation channel and whether a handler on it fails,
and it keeps what happened: calls of the host's callables, log records and warnings, and which
values the validation channel asked for their texts.

An operation is an `Act`: it reads and changes the session and answers with a value or a
failure. What it changed before a failure stays changed.

The host program takes part through a `Host`, which says how its callables and its classes
answer. An answer is an operation of its own: it may depend on all calls made so far, so a
callable can have a state, and on the values whose texts were asked for, so that asking for a
text can have an effect; and it may use this library in turn. The host also says how the
routines of this library answer that work on a session, since those call values themselves, and
whether a handler fails on the channel of the checks. Handlers on the channels of the other parts
are taken not to fail.
-/

namespace Conform

/-- A call of a callable of the host, as recorded when it is entered. -/
structure Call where
  /-- The identity of the callable. -/
  callee : Nat
  /-- The arguments it was given. -/
  arguments : List Value

/-- The severity of a log record. -/
inductive Severity where
  | debug
  | warning
  deriving DecidableEq, Repr

/-- The log channels: the one for validation warnings, and those of the parts of this
library. -/
inductive Channel where
  | validation
  | checks
  | registry
  | settings
  deriving DecidableEq, Repr

/-- A log record. -/
structure Record where
  /-- The channel it was sent on. -/
  channel : Channel
  /-- Its severity. -/
  severity : Severity
  /-- Its text. -/
  message : String
  deriving DecidableEq, Repr

/-- What a registry holds. -/
structure Registry where
  /-- The name it was given. -/
  name : Value
  /-- Its items under their keys, in the order in which the keys came. -/
  entries : Entries

/-- The state that operations share. -/
structure Session where
  /-- All registries; a registry is known by its place. -/
  registries : List Registry
  /-- The level of the validation channel. -/
  level : Threshold := .unset
  /-- Whether a handler on the validation channel fails. -/
  failingHandler : Bool := false
  /-- The calls of the host's callables, in order. -/
  calls : List Call := []
  /-- The log records, in order. -/
  logs : List Record := []
  /-- The deprecation warnings, in order. -/
  warnings : List String := []
  /-- The values whose texts the validation channel asked for when it wrote a warning, in
  order. -/
  told : List Value := []
  /-- The identity that the next new object gets. -/
  nextId : Nat := 0

/-- An operation on a session. -/
abbrev Act := ExceptT Failure (StateM Session)

/-- The host program: which numbers of arguments its callables accept, and how they answer,
once the call is recorded; what calling its classes makes; how operations on a session answer
when they are called by name; and what a handler on the channel of the checks raises. -/
structure Host where
  /-- Whether a callable accepts a number of arguments. -/
  accepts : Nat → Nat → Bool
  /-- The answer of a callable to its arguments. -/
  respond : Nat → List Value → Act Value
  /-- The answer of a class of the host to its arguments. -/
  instantiate : Class → List Value → Act Value
  /-- The answer of an operation to its arguments. -/
  operate : String → List Value → Act Value
  /-- The message of the error that a debug record on the channel of the checks raises, if a
  handler there fails. -/
  noteFailure : Option String := none

namespace Session

/-- The registry at a place; an empty one where there is none. -/
def registryAt (s : Session) (id : Nat) : Registry :=
  (s.registries[id]?).getD { name := .null, entries := [] }

/-- The session with another registry at a place. -/
def setRegistry (s : Session) (id : Nat) (r : Registry) : Session :=
  { s with registries := s.registries.set id r }

/-- The level of a warning. -/
def warningLevel : Int := 30

/-- Whether a warning on the validation channel is let through. -/
def letsWarningsThrough (s : Session) : Bool := s.level.admits warningLevel

/-- Whether a value counts as true. A registry does while it holds something. -/
def truth (s : Session) : Value → Bool
  | .null => false
  | .bool b => b
  | .int n => n != 0
  | .float _ x => !x.isZero
  | .fraction _ q => q != 0
  | .decimal _ d => !d.isZero
  | .complex _ re im => !(re.isZero && im.isZero)
  | .text t => !t.isEmpty
  | .bytes content => !content.isEmpty
  | .tuple _ items | .list _ items | .set _ items => !items.isEmpty
  | .mapping _ entries => !entries.isEmpty
  | .foreign _ face _ => face.truth
  | .registry id _ => !(s.registryAt id).entries.isEmpty
  | _ => true

end Session

namespace Act

/-- Stop with a failure. -/
def fail {α : Type} (f : Failure) : Act α := throw f

/-- Stop at a fault. -/
def fault {α : Type} (f : Fault) : Act α := throw (.fault f)

/-- What is made of texts, or the failure to get one of them. -/
def ofText {α : Type} (made : Except TextFailure α) : Act α :=
  match made with
  | .ok a => pure a
  | .error failure => throw (.ofText failure)

/-- The text of a value in a message. -/
def message (v : Value) : Act String := do ofText (v.message (← get).level)

/-- The text of a value inside a collection. -/
def inner (v : Value) : Act String := do ofText (v.inner (← get).level)

/-- The text by which a message mentions a value. -/
def mention (v : Value) : Act String := do ofText (v.mention (← get).level)

/-- The value as a message mentions it. -/
def shown (v : Value) : Act Value := ofText v.shown

/-- An answer that needs no session. -/
def ofExcept {α : Type} (answer : Except Failure α) : Act α :=
  match answer with
  | .ok a => pure a
  | .error f => throw f

/-- The end of an operation as an answer: what it answers, or the failure that stops it. -/
def attempt {α : Type} (a : Act α) : Act (Except Failure α) := ExceptT.lift a.run

/-- Whether a value counts as true. -/
def truth (v : Value) : Act Bool := do return (← get).truth v

/-- An identity for a new object. -/
def fresh : Act Nat := do
  let s ← get
  set { s with nextId := s.nextId + 1 }
  return s.nextId

/-- Add a log record. -/
def log (channel : Channel) (severity : Severity) (message : String) : Act Unit :=
  modify fun s => { s with logs := s.logs ++ [⟨channel, severity, message⟩] }

/-- Add a deprecation warning. -/
def warn (message : String) : Act Unit :=
  modify fun s => { s with warnings := s.warnings ++ [message] }

/-- The registry at a place. -/
def registryAt (id : Nat) : Act Registry := do return (← get).registryAt id

/-- Put another registry at a place. -/
def setRegistry (id : Nat) (r : Registry) : Act Unit := modify (·.setRegistry id r)

/-- Record a call of a callable of the host and let the host answer it. -/
def callHost (host : Host) (id : Nat) (arguments : List Value) : Act Value := do
  unless host.accepts id arguments.length do fault .typeMismatch
  modify fun s => { s with calls := s.calls ++ [⟨id, arguments⟩] }
  host.respond id arguments

end Act

end Conform
