import Conform.Proofs.Channel.Twins

/-!
# Requests under two configurations of the channel

Sequences of checks and of requests to registries, with what can be seen of them: the answers, the
calls of the host's callables, the deprecation warnings and the registries (`Observation`).

* `RegistryRequest` and `Request`: the requests, with what keeps them from showing the channel
  (`Request.Discreet`).
* `Request.parallel_act`: one request runs in parallel on twins.
* `Request.observations_independent_of_channel`: nothing that can be seen of a sequence depends on
  the level of the validation channel, on whether a handler fails, or on the records so far.
* `Request.observations_show_channel`: what does show the channel. A value that is the channel
  itself shows its level; a callable shows it that knows which texts were asked for; and so does a
  note about a warning if it fails.
-/

namespace Conform

open Session (processRegistry)

variable {level level' : Threshold}

/-- A request to one registry. -/
inductive RegistryRequest where
  | register (key item overwrite : Value)
  | setValidator (key function name : Value)
  | get (key : Value)
  | getOptional (key : Value)
  | has (key : Value)
  | contains (key : Value)
  | keys
  | items
  | values
  | count
  | clear
  | seed

namespace RegistryRequest

/-- What a registry tells about itself. -/
def tell (id : Nat) (question : Registry → Value) : Act Value := return question (← Act.registryAt id)

/-- The operation on the registry at a place that a request asks for. -/
def act (id : Nat) : RegistryRequest → Act Value
  | .register key item overwrite => do
    Act.register id key item overwrite
    return .null
  | .setValidator key function name => Act.setValidator id key function name
  | .get key => Act.getItem id key
  | .getOptional key => Act.getOptionalItem id key
  | .has key => return .bool (← Act.hasItem id key)
  | .contains key => tell id fun r => .bool (r.contains key)
  | .keys => tell id fun r => .list none r.keys
  | .items => tell id fun r => .list none (r.entries.map fun (k, v) => .tuple none [k, v])
  | .values => tell id fun r => .list none r.items
  | .count => tell id fun r => .int r.count
  | .clear => do
    Act.clearRegistry id
    return .null
  | .seed => do
    Act.seedRegistry id
    return .null

/-- The values of a request that messages can tell of: its key, and the names of the validators
that it hands over. -/
def told : RegistryRequest → List Value
  | .register key item _ => key :: item.toldNames
  | .setValidator key _ name => [key, name]
  | .get key | .getOptional key | .has key => [key]
  | _ => []

theorem parallel_tell {s t : Session} (h : Twins level level' s t) (id : Nat)
    (question : Registry → Value) : (tell id question).Parallel level level' s t :=
  .bind_registryAt h (Act.parallel_pure h _)

/-- A request to a registry runs in parallel if the values that messages can tell of are
neutral. -/
theorem parallel_act {s t : Session} (h : Twins level level' s t) (id : Nat) {r : RegistryRequest}
    (hr : ∀ v ∈ r.told, v.Neutral level level') : (r.act id).Parallel level level' s t := by
  cases r with
  | register key item overwrite =>
    have hregister := Act.parallel_register h id overwrite (hr key List.mem_cons_self)
      fun name hname => hr name (List.mem_cons_of_mem key hname)
    exact hregister.bind fun _ s₁ t₁ _ h₁ => Act.parallel_pure h₁ _
  | setValidator key function name =>
    exact Act.parallel_setValidator h id function (hr key (by simp [told]))
      (hr name (by simp [told]))
  | get key => exact Act.parallel_getItem h id (hr key (by simp [told]))
  | getOptional key => exact Act.parallel_getOptionalItem h id (hr key (by simp [told]))
  | has key =>
    exact (Act.parallel_hasItem h id (hr key (by simp [told]))).bind fun _ s₁ t₁ _ h₁ =>
      Act.parallel_pure h₁ _
  | clear =>
    exact (Act.parallel_clearRegistry h id).bind fun _ s₁ t₁ _ h₁ => Act.parallel_pure h₁ _
  | seed =>
    exact (Act.parallel_seedRegistry h id).bind fun _ s₁ t₁ _ h₁ => Act.parallel_pure h₁ _
  | contains | keys | items | values | count => exact parallel_tell h id _

end RegistryRequest

/-- A check, or a request to a registry: to the process registry, to a new one, or to the one at a
place. -/
inductive Request where
  | check (value validator expected name default warnIf : Value)
  | checkType (value type name : Value) (default : Option Value) (warnIf : Value)
  | setValidator (key function name : Value)
  | resetValidators
  | newRegistry (name : Value)
  | newValidatorRegistry (name filled : Value)
  | onRegistry (id : Nat) (r : RegistryRequest)

/-- What can be seen after a request, the log records apart. -/
structure Observation where
  /-- The answer to the request, or the failure that it ended with. -/
  answer : Except Failure Value
  /-- The calls of the host's callables so far. -/
  calls : List Call
  /-- The deprecation warnings so far. -/
  warnings : List String
  /-- What the registries hold. -/
  registries : List Registry

namespace Request

/-- The operation that a request asks for. -/
def act (host : Host) : Request → Act Value
  | .check value validator expected name default warnIf =>
    Act.check host value validator expected name default warnIf
  | .checkType value type name default warnIf => Act.checkType host value type name default warnIf
  | .setValidator key function name => do
    let _ ← Act.setValidator processRegistry key function name
    return .null
  | .resetValidators => RegistryRequest.seed.act processRegistry
  | .newRegistry name => return .registry (← Act.newRegistry name) .plain
  | .newValidatorRegistry name filled =>
    return .registry (← Act.newValidatorRegistry name filled) .validators
  | .onRegistry id r => r.act id

/-- What can be seen of requests that are made one after the other. -/
def observations (host : Host) : List Request → Session → List Observation
  | [], _ => []
  | r :: rest, s =>
    let (answer, s') := (r.act host).exec s
    ⟨answer, s'.calls, s'.warnings, s'.registries⟩ :: observations host rest s'

/-- What is asked of a request in a session, between two levels of the channel: the values whose
texts may come into its answer or into a registry are neutral, and the callables that it calls have
nothing to do with the channel. -/
def Discreet (level level' : Threshold) (host : Host) (s : Session) : Request → Prop
  | .check value validator expected name default warnIf =>
    (∀ v ∈ [value, expected, name], v.Neutral level level') ∧
      ∀ f ∈ [validator, default, warnIf], Act.Discreet level level' host f [value]
  | .checkType value type name default warnIf =>
    (∀ v ∈ [value, type, name], v.Neutral level level') ∧
      Act.DiscreetType level level' host s type [value] ∧
      (∀ d, default = some d → Act.Discreet level level' host d [value]) ∧
      Act.Discreet level level' host warnIf [value]
  | .setValidator key _ name => ∀ v ∈ [key, name], v.Neutral level level'
  | .resetValidators => True
  | .newRegistry name => name.Neutral level level'
  | .newValidatorRegistry name _ => name.Neutral level level'
  | .onRegistry _ r => ∀ v ∈ r.told, v.Neutral level level'

/-- What is asked of requests that are made one after the other, each in the session that it
meets. -/
def AllDiscreet (level level' : Threshold) (host : Host) : List Request → Session → Prop
  | [], _ => True
  | r :: rest, s =>
    r.Discreet level level' host s ∧ AllDiscreet level level' host rest ((r.act host).exec s).2

variable {host : Host} {s t : Session}

/-- A request runs in parallel on twins. -/
theorem parallel_act (hnote : host.noteFailure = none) (h : Twins level level' s t) {r : Request}
    (hr : r.Discreet level level' host s) : (r.act host).Parallel level level' s t := by
  cases r with
  | check value validator expected name default warnIf =>
    obtain ⟨hvalues, hcallables⟩ := hr
    exact Act.parallel_check hnote h (hvalues value (by simp)) (hvalues expected (by simp))
      (hvalues name (by simp)) (hcallables validator (by simp)) (hcallables default (by simp))
      (hcallables warnIf (by simp))
  | checkType value type name default warnIf =>
    obtain ⟨hvalues, htype, hdefault, hwarnIf⟩ := hr
    exact Act.parallel_checkType hnote h (hvalues value (by simp)) (hvalues type (by simp))
      (hvalues name (by simp)) htype hdefault hwarnIf
  | setValidator key function name =>
    have hset := Act.parallel_setValidator h processRegistry function (hr key (by simp))
      (hr name (by simp))
    exact hset.bind fun _ s₁ t₁ _ h₁ => Act.parallel_pure h₁ _
  | resetValidators => exact RegistryRequest.parallel_act h _ (by simp [RegistryRequest.told])
  | newRegistry name =>
    exact (Act.parallel_newRegistry h hr).bind fun _ s₁ t₁ _ h₁ => Act.parallel_pure h₁ _
  | newValidatorRegistry name filled =>
    exact (Act.parallel_newValidatorRegistry h filled hr).bind fun _ s₁ t₁ _ h₁ =>
      Act.parallel_pure h₁ _
  | onRegistry id r => exact RegistryRequest.parallel_act h id hr

/-- The same can be seen of requests that are made in twins. -/
theorem observations_eq (hnote : host.noteFailure = none) (h : Twins level level' s t)
    {requests : List Request} (hall : AllDiscreet level level' host requests s) :
    observations host requests s = observations host requests t := by
  -- Each request leaves twins, from which the others go on.
  induction requests generalizing s t with
  | nil => rfl
  | cons r rest ih =>
    obtain ⟨hfirst, hrest⟩ := hall
    obtain ⟨hanswer, htwins⟩ := parallel_act hnote h hfirst
    simp only [observations]
    rw [← hanswer, htwins.calls, htwins.warnings, htwins.registries, ih htwins hrest]

/-- Nothing that can be seen of requests depends on the configuration of the validation channel: its
level, whether a handler on it fails, the records that there are, and the values that it asked for
their texts. This holds of requests whose callables have nothing to do with the channel, where no
value that messages tell of has the channel in it: the values that are checked, what is expected of
them and what they are called, and the keys and names of registries and of their validators. Where
the two levels go by one name, it holds whatever the values are. A note about a warning that could
not be sent must not fail. -/
theorem observations_independent_of_channel (host : Host) (hnote : host.noteFailure = none)
    (s : Session) {requests : List Request} {level' : Threshold}
    (hregistries : ∀ r ∈ s.registries, r.Neutral s.level level')
    (hall : AllDiscreet s.level level' host requests s) (failing : Bool) (logs : List Record)
    (told : List Value) :
    observations host requests s =
      observations host requests
        { s with level := level', failingHandler := failing, logs := logs, told := told } := by
  have htwins : Twins s.level level' s
      { s with level := level', failingHandler := failing, logs := logs, told := told } :=
    { level_left := rfl, level_right := rfl, registries := rfl, calls := rfl, warnings := rfl,
      nextId := rfl, neutral := hregistries }
  exact observations_eq hnote htwins hall

/-! ## Runs -/

/-- The messages of the failures that requests ended with, one by one; nothing where there was an
answer. -/
def messages (seen : List Observation) : List (Option String) :=
  seen.map fun o =>
    match o.answer with
    | .ok _ => none
    | .error f => f.message?

/-- A host whose callables take one argument and refuse it. -/
def refusing : Host where
  accepts _ count := count == 1
  respond _ _ := return .bool false
  operate _ _ := Act.fault .typeMismatch
  instantiate _ _ := Act.fault .typeMismatch

/-- A callable of the host. -/
def callback : Value :=
  .foreign 0
    { cls := Class.function, text := .ok "callback", inner := .ok "callback", truth := true,
      callable := true }
    (some (.text "callback"))

/-- Requests that replace an object without a text by a default: one through a predicate, and one
through the key that the predicate is registered under. -/
def refusals : List Request :=
  [.check .textless callback (.text "even") .null (.int 7) .null,
    .setValidator (.text "even") callback .null,
    .checkType .textless (.text "even") .null (some (.int 7)) (.routine .isPresent)]

theorem allDiscreet_refusals :
    AllDiscreet .unset (.ofNumber 40) refusing refusals .initial := by
  have hcallback : Act.Discreet .unset (.ofNumber 40) refusing callback [.textless] :=
    Act.discreet_foreign fun _ _ h => Act.parallel_pure h _
  have hdata {v : Value} (hv : v.isCallable = false) :
      Act.Discreet .unset (.ofNumber 40) refusing v [.textless] :=
    Act.discreet_of_not_callable refusing hv _
  have hrule : Act.Discreet .unset (.ofNumber 40) refusing (.routine .isPresent) [.textless] :=
    Act.discreet_classifier refusing (by simp [Routine.classifiers]) .textless
  have hneutral {v : Value} (hv : v.holdsChannel = false) : v.Neutral .unset (.ofNumber 40) :=
    .inr hv
  refine ⟨⟨?_, ?_⟩, ?_, ⟨?_, ?_, ?_, hrule⟩, trivial⟩
  · simpa using ⟨hneutral rfl, hneutral rfl, hneutral rfl⟩
  · simpa using ⟨hcallback, hdata rfl, hdata rfl⟩
  · simpa [Discreet] using ⟨hneutral rfl, hneutral rfl⟩
  · simpa using ⟨hneutral rfl, hneutral rfl, hneutral rfl⟩
  · -- The key leads to the validator that was registered just before.
    intro item hitem
    obtain rfl : .validator 7 (.text "even") callback = item := Except.ok.inj hitem
    exact Act.discreet_validator 7 _ hcallback
  · rintro d ⟨⟩
    exact hdata rfl

/-- The refusals under a failing handler and a level that keeps warnings back: the check ends with
the failure of the text, and the type check answers the default. -/
theorem observations_refusals :
    observations refusing refusals .initial =
        observations refusing refusals
          { Session.initial with
            level := .ofNumber 40, failingHandler := true, logs := [], told := [] } ∧
      messages (observations refusing refusals .initial) = [some "no text", none, none] := by
  have hregistries : ∀ r ∈ Session.initial.registries, r.Neutral .unset (.ofNumber 40) := by
    intro r hr
    obtain rfl := List.mem_singleton.1 hr
    have hname : (Value.text "validators").Neutral .unset (.ofNumber 40) := .inr rfl
    exact (Registry.neutral_empty hname).builtin 0
  exact ⟨observations_independent_of_channel refusing rfl .initial hregistries allDiscreet_refusals
    true [] [], rfl⟩

/-- The check of the channel itself, which is no text. -/
def channelRefusal : List Request :=
  [.check .channel (.routine .isString) (.text "string") .null .null .null]

/-- An object of the host, which can notice that its text is asked for. -/
def attentive : Value :=
  .foreign 1
    { cls := Class.object, text := .ok "attentive", inner := .ok "attentive", truth := true,
      callable := false }
    none

/-- A host whose callables refuse once the text of that object was asked for. -/
def listening : Host where
  accepts _ count := count == 1
  respond _ _ := do
    return .bool (!(← get).told.any fun v => match v with
      | .foreign 1 _ _ => true
      | _ => false)
  operate _ _ := Act.fault .typeMismatch
  instantiate _ _ := Act.fault .typeMismatch

/-- A warning about a default in the place of that object, and then a check by a callable. -/
def warningAndCheck : List Request :=
  [.checkType attentive (.text "string") .null (some (.int 7)) (.routine .isPresent),
    .check (.int 2) callback (.text "even") .null .null .null]

/-- A host where a note about a warning cannot be taken. -/
def noteless : Host := { refusing with noteFailure := some "no note" }

/-- A value that is the channel itself shows its level: where it is rejected, the failure tells the
level that it has. So does what a callable answers that knows whether the text of an object was
asked for, and a note about the warning that fails, which is only taken where a handler on the
channel does. -/
theorem observations_show_channel :
    (Act.Discreet .unset (.ofNumber 40) .bare (.routine .isString) [.channel] ∧
      messages (observations .bare channelRefusal .initial) =
        [some "Expected string, <Logger validation (WARNING)> given."] ∧
      messages (observations .bare channelRefusal
          { Session.initial with level := .ofNumber 40 }) =
        [some "Expected string, <Logger validation (ERROR)> given."] ∧
      observations .bare channelRefusal .initial ≠
        observations .bare channelRefusal { Session.initial with level := .ofNumber 40 }) ∧
    (messages (observations listening warningAndCheck .initial) =
        [none, some "Expected even, 2 given."] ∧
      messages (observations listening warningAndCheck
          { Session.initial with level := .ofNumber 40 }) = [none, none]) ∧
    messages (observations noteless warningAndCheck .initial) =
        [none, some "Expected even, 2 given."] ∧
      messages (observations noteless warningAndCheck
          { Session.initial with failingHandler := true }) =
        [some "no note", some "Expected even, 2 given."] := by
  refine ⟨⟨Act.discreet_classifier .bare (by simp [Routine.classifiers]) .channel, rfl, rfl, ?_⟩,
    ⟨rfl, rfl⟩, rfl, rfl⟩
  intro heq
  have hmessages := congrArg messages heq
  exact absurd hmessages (by decide)

end Request

end Conform
