import Conform.Number.Layout
import Conform.Number.Numeral
import Conform.Text.Quoted
import Conform.Value

/-!
# Texts of Values

Each value has three texts: the one it has in a message, the one it has inside a
collection, and the one by which a message mentions it, where a callable goes by its name.
A text can fail to come, because an object of the host refuses its own or because an integer
has too many digits to be written; the first failure met is the one reported. How deep values
lie in one another is taken to be no hindrance.

The text of the channel for validation warnings shows its level, which is given. The number of
a level is taken to be one that can be written.
-/

namespace Conform

/-- The three ways in which a value is written. -/
inductive Style where
  | message
  | inner
  | mention
  deriving DecidableEq, Repr

namespace Value

/-- The text of a complex number; a real part that is a positive zero is left out. -/
def complexText (re im : Binary64) : String :=
  let last := Layout.part.render im
  if re = Binary64.zero false then last ++ "j"
  else
    let signed := if Layout.part.writesSign im then last else "+" ++ last
    "(" ++ Layout.part.render re ++ signed ++ "j)"

/-- Whether the numeral of an integer has too many digits to be written. -/
def isTooLong (n : Int) : Bool := !Numeral.isReadable 10 (Nat.toDigits 10 n.natAbs).length

/-- The numeral of an integer, unless it has too many digits. -/
def numeral (n : Int) : Except TextFailure String :=
  if isTooLong n then .error (.fault .badValue) else .ok (toString n)

/-- The text of a fraction in a message. -/
def fractionText (q : Rat) : Except TextFailure String :=
  if q.den = 1 then numeral q.num
  else do
    let numerator ← numeral q.num
    let denominator ← numeral q.den
    return numerator ++ "/" ++ denominator

/-- The form of a fraction inside collections. -/
def fractionExpression (q : Rat) : Except TextFailure String := do
  let numerator ← numeral q.num
  let denominator ← numeral q.den
  return "Fraction(" ++ numerator ++ ", " ++ denominator ++ ")"

/-- The text of the channel for validation warnings. -/
def channelText (level : Threshold) : String := "<Logger validation (" ++ level.text ++ ")>"

/-- The text of a function. -/
def functionText (name : String) : String := "<function " ++ name ++ " at 0xADDR>"

/-- The text of an object that shows only its class. -/
def objectText (c : Class) : String := "<" ++ c.qualified ++ " object at 0xADDR>"

/-- The text of a routine. -/
def routineText (r : Routine) : String :=
  if r.isCore then "<built-in function " ++ r.name ++ ">" else functionText r.name

/-- Items between brackets. -/
def bracketed (opening : String) (items : List String) (closing : String) : String :=
  opening ++ ", ".intercalate items ++ closing

/-- The items of a tuple between parentheses; a single item keeps a comma. -/
def tupleText : List String → String
  | [item] => "(" ++ item ++ ",)"
  | items => bracketed "(" items ")"

/-- A value written in the given style, or the failure met on the way. -/
def write (level : Threshold) : Style → Value → Except TextFailure String
  | _, .null => .ok "None"
  | _, .bool b => .ok (if b then "True" else "False")
  | _, .int n => numeral n
  | _, .float _ x => .ok (Layout.plain.render x)
  | style, .fraction _ q => if style = .inner then fractionExpression q else fractionText q
  | style, .decimal _ d =>
    .ok (if style = .inner then "Decimal('" ++ d.render ++ "')" else d.render)
  | _, .complex _ re im => .ok (complexText re im)
  | style, .text s => .ok (if style = .inner then Text.quoted s else s)
  | _, .bytes content => .ok (Text.quotedBytes content)
  | style, .moment m => .ok (if style = .inner then m.expression else m.render)
  | _, .tuple _ items => (writeAll items).map tupleText
  | _, .list _ items => (writeAll items).map (bracketed "[" · "]")
  | _, .set _ items =>
    (writeAll items).map fun texts =>
      if texts.isEmpty then "set()" else bracketed "\x7b" texts "\x7d"
  | _, .mapping _ entries => (writeEntries entries).map (bracketed "\x7b" · "\x7d")
  | style, .cls c => .ok (if style = .mention then c.name else c.text)
  | style, .routine r => .ok (if style = .mention then r.name else routineText r)
  | style, .foreign _ face name =>
    match style with
    | .inner => face.inner
    | .message => face.text
    | .mention =>
      if face.callable then
        match face.nameFailure with
        | some failure => .error failure
        | none =>
          match name with
          | some name => write level .message name
          | none => .ok face.cls.name
      else face.text
  | style, .partialCall _ callee bound =>
    if style = .mention then .ok "partial"
    else do
      let first ← write level .inner callee
      let rest ← writeAll bound
      return bracketed "functools.partial(" (first :: rest) ")"
  | style, .subClassOf _ parent includeIdentity =>
    if style = .mention then .ok "SubClassOf"
    else do
      let parent ← write level .mention parent
      let included ← write level .message includeIdentity
      return "SubClassOf(" ++ parent ++ ", include_identity=" ++ included ++ ")"
  | style, .instanceOf _ parent =>
    if style = .mention then .ok "InstanceOf"
    else (write level .mention parent).map fun parent => "InstanceOf(" ++ parent ++ ")"
  | style, .validator _ name function =>
    if style = .mention then .ok "Validator"
    else do
      let name ← write level .inner name
      let function ← write level .inner function
      return "Validator(name=" ++ name ++ ", function=" ++ function ++ ")"
  | _, .spec _ kind raw =>
    (write level .inner raw).map fun raw => kind.name ++ "(" ++ kind.member ++ "=" ++ raw ++ ")"
  | _, .settings _ logLevel validators => do
    let logLevel ← write level .inner logLevel
    let validators ← write level .inner validators
    return "TypecheckSettings(log_level=" ++ logLevel ++ ", validators=" ++ validators ++ ")"
  | style, .error _ kind message _ _ =>
    if style = .inner then
      (write level .inner message).map fun message => kind.name ++ "(" ++ message ++ ")"
    else write level .message message
  | _, .registry _ kind => .ok (objectText kind.cls)
  | _, .channel => .ok (channelText level)
termination_by structural _ v => v
where
  /-- The items of a collection, each in its inner form. -/
  writeAll : List Value → Except TextFailure (List String)
    | [] => .ok []
    | v :: rest => do
      let first ← write level .inner v
      let others ← writeAll rest
      return first :: others
  termination_by structural items => items
  /-- The entries of a mapping, keys and values in their inner form. -/
  writeEntries : List (Value × Value) → Except TextFailure (List String)
    | [] => .ok []
    | (k, v) :: rest => do
      let key ← write level .inner k
      let value ← write level .inner v
      let others ← writeEntries rest
      return (key ++ ": " ++ value) :: others
  termination_by structural entries => entries

/-- The text of a value in a message. -/
def message (level : Threshold) (v : Value) : Except TextFailure String := v.write level .message

/-- The text of a value inside a collection. -/
def inner (level : Threshold) (v : Value) : Except TextFailure String := v.write level .inner

/-- The text by which a message mentions a value. -/
def mention (level : Threshold) (v : Value) : Except TextFailure String := v.write level .mention

/-- Mentioning a value is writing what the message shows in its place. -/
theorem mention_eq_message_shown (level : Threshold) (v : Value) :
    v.mention level = v.shown >>= message level := by
  cases v <;> try rfl
  rename_i id face name
  rcases hcallable : face.callable with _ | _ <;> rcases hname : face.nameFailure with _ | failure <;>
    rcases name with _ | name <;>
    simp [mention, shown, isCallable, ownName, classOf, write, hcallable, hname, Except.map, bind,
      Except.bind, message]

end Value

end Conform
