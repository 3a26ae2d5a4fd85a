import Conform.Classifier
import Conform.Number.Composite
import Conform.Session
import Conform.Text.Encoding

/-!
# Conversions

What values are turned into: integers, fractions, decimals and complex numbers, text and
bytes, and collections of all kinds. Registries take part as collections of their items.
-/

namespace Conform

open Text

namespace Value

/-! ## Numbers -/

/-- The integer that a value is, for an integer or a truth value. -/
def index? : Value → Option Int
  | .int n => some n
  | .bool b => some (if b then 1 else 0)
  | _ => none

/-- Convert a value to an integer: a number is cut toward zero, a text must be an integer. -/
def toInteger : Value → Except Failure Int
  | .bool b => .ok (if b then 1 else 0)
  | .int n => .ok n
  | .float _ x => ofDouble x
  | .fraction _ q => .ok (q.num.tdiv q.den)
  | .decimal _ d =>
    match d.body with
    | .finite coefficient exponent =>
      let size := if 0 ≤ exponent then coefficient * Nat.pow 10 exponent.toNat
        else coefficient / Nat.pow 10 (-exponent).toNat
      .ok (if d.negative then -size else size)
    | .infinity => .error (.fault .overflow)
    | .nan .. => .error (.fault .badValue)
  | .text s => ofOption (Numeral.integer? s)
  | .bytes content =>
    if content.all (· < 0x80) then
      ofOption (Numeral.integer? (String.ofList (content.map fun b => Char.ofNat b.toNat)))
    else .error (.fault .badValue)
  | _ => .error (.fault .typeMismatch)
where
  /-- The whole part of a double. -/
  ofDouble (x : Binary64) : Except Failure Int :=
    match x.truncate? with
    | some n => .ok n
    | none => .error (.fault (if x.isNaN then .badValue else .overflow))
  /-- A number read from text. -/
  ofOption : Option Int → Except Failure Int
    | some n => .ok n
    | none => .error (.fault .badValue)

/-- The base that a value gives: zero, or from two to thirty-six. -/
def toBase (v : Value) : Except Failure Nat :=
  match v.index? with
  | some n => if n = 0 ∨ (2 ≤ n ∧ n ≤ 36) then .ok n.toNat else .error (.fault .badValue)
  | none => .error (.fault .typeMismatch)

/-- Read an integer in a base off a text. -/
def toIntegerIn (v base : Value) : Except Failure Int := do
  let base ← base.toBase
  let digits ←
    match v with
    | .text s => .ok s.toList
    | .bytes content => .ok (content.map fun b => Char.ofNat b.toNat)
    | _ => .error (.fault .typeMismatch)
  match Numeral.integerIn? base digits with
  | some n => if v.isText || digits.all (·.toNat < 128) then .ok n else .error (.fault .badValue)
  | none => .error (.fault .badValue)

/-- The quotient that an exact value is; only a finite one is. -/
def quotientOf (finite? : Option Rat) (isNaN : Bool) : Except Failure Rat :=
  match finite? with
  | some q => .ok q
  | none => .error (.fault (if isNaN then .badValue else .overflow))

/-- Convert a value to a fraction: a real number by its exact value, a text by what it
writes. -/
def toFraction : Value → Except Failure Rat
  | .bool b => .ok (if b then 1 else 0)
  | .int n => .ok n
  | .fraction _ q => .ok q
  | .float _ x => quotientOf x.toRat? x.isNaN
  | .decimal _ d => quotientOf d.toRat? (Exact.ofScaled d).isNaN
  | .text s =>
    match Numeral.fraction? s with
    | none => .error (.fault .badValue)
    | some (numerator, denominator) =>
      if denominator = 0 then .error (.fault .zeroDivision) else .ok (mkRat numerator denominator)
  | _ => .error (.fault .typeMismatch)

/-- The value of an integer, a truth value or a fraction. -/
def rational? : Value → Option Rat
  | .fraction _ q => some q
  | v => v.index?.map fun n => (n : Rat)

/-- The fraction of two rational numbers. -/
def toQuotient (numerator denominator : Value) : Except Failure Rat :=
  match numerator.rational?, denominator.rational? with
  | some p, some q => if q = 0 then .error (.fault .zeroDivision) else .ok (p / q)
  | _, _ => .error (.fault .typeMismatch)

/-- An integer among the parts of a decimal, within a range. -/
def partWithin (low high : Int) (v : Value) : Except Failure Int :=
  match v.index? with
  | none => .error (.fault .badValue)
  | some n =>
    if n < -(Nat.pow 2 63 : Int) ∨ Nat.pow 2 63 ≤ n then .error (.fault .overflow)
    else if n < low ∨ high < n then .error (.fault .badValue)
    else .ok n

/-- The items of a list or a tuple among the parts of a decimal. -/
def partItems : Value → Except Failure (List Value)
  | .list _ items | .tuple _ items => .ok items
  | _ => .error (.fault .badValue)

/-- A decimal from its parts: a sign, which is zero or one, its digits, and an exponent or the
letter for an infinity or a not-a-number. -/
def scaledOfParts (sign digits exponent : Value) : Except Failure Scaled := do
  let sign ← sign.partWithin 0 1
  let negative := sign == 1
  let special ←
    match exponent with
    | .text "F" | .text "n" | .text "N" => .ok true
    | .text _ => .error (.fault .badValue)
    | _ => (exponent.partWithin (-(Nat.pow 2 63 : Int)) (Nat.pow 2 63)).map fun _ => false
  let digits ← (← digits.partItems).mapM fun d => (d.partWithin 0 9).map Int.toNat
  match special, exponent with
  | true, .text "F" => return ⟨negative, .infinity⟩
  | true, _ => return ⟨negative, .nan (exponent.equal (.text "N")) digits⟩
  | false, _ =>
    match Scaled.finite? negative (digitsValue digits) ((exponent.index?).getD 0) with
    | some d => return d
    | none => throw (.fault .invalidOperation)

/-- Convert a value to a decimal: a number by its exact value, a text by what it writes, and
a list or a tuple by its parts. -/
def toScaled : Value → Except Failure Scaled
  | .bool b => .ok (.ofInt (if b then 1 else 0))
  | .int n => .ok (.ofInt n)
  | .float _ x => .ok (.ofDouble x)
  | .decimal _ d => .ok d
  | .text s =>
    match Scaled.ofText? s with
    | some d => .ok d
    | none => .error (.fault .invalidOperation)
  | .list _ [sign, digits, exponent] | .tuple _ [sign, digits, exponent] =>
    scaledOfParts sign digits exponent
  | .list .. | .tuple .. => .error (.fault .badValue)
  | _ => .error (.fault .typeMismatch)

/-- The real and the imaginary part of a number. -/
def numericParts (v : Value) : Except Failure (Binary64 × Binary64) :=
  match v with
  | .complex _ re im => .ok (re, im)
  | .text _ | .bytes _ => .error (.fault .typeMismatch)
  | v => v.toDouble.map fun x => (x, Binary64.zero false)

/-- Convert a value to a complex number: a number by its value, a text by what it writes. -/
def toComplex : Value → Except Failure (Binary64 × Binary64)
  | .text s =>
    match Numeral.complex? s with
    | some parts => .ok parts
    | none => .error (.fault .badValue)
  | v => v.numericParts

/-- A complex number from a real and an imaginary part, which may be complex themselves. -/
def complexOfParts (re im : Value) : Except Failure (Binary64 × Binary64) := do
  if re.isText || im.isText then throw (.fault .typeMismatch)
  let (a, b) ← re.numericParts
  let (c, d) ← im.numericParts
  let real := match im with
    | .complex .. => a.add d.neg
    | _ => a
  let imaginary := match re with
    | .complex .. => c.add b
    | _ => c
  return (real, imaginary)

/-! ## Text and bytes -/

/-- A name that a value is; no name holds the null character. -/
def toName : Value → Except Failure String
  | .text name => if name.toList.contains '\x00' then .error (.fault .badValue) else .ok name
  | _ => .error (.fault .typeMismatch)

/-- The encoding that a name stands for. -/
def encodingOf (name : String) : Except Failure Encoding :=
  match Encoding.ofName? name with
  | some encoding => .ok encoding
  | none => .error (.fault .unknownEncoding)

/-- What was made of a text or bytes, or the fault of those that have no form. -/
def formed {α : Type} (result : Except Formless α) : Except Failure α :=
  result.mapError fun
    | .bytes => .fault .undecodable
    | .text => .fault .unencodable
    | .handling => .fault .unknownEncoding
    | .direction => .fault .typeMismatch

/-- The text that a byte string stands for in an encoding, and with a way to handle what has
no form; the encoding is UTF-8 if it is not given. An empty one needs none. -/
def decoded (v : Value) (encoding handling : Option Value) : Except Failure String := do
  let encoding ← (encoding.getD (.text "utf-8")).toName
  let handling ← (handling.getD (.text "strict")).toName
  match v with
  | .bytes [] => return ""
  | .bytes content => formed ((← encodingOf encoding).decode (Handling.ofName handling) content)
  | _ => throw (.fault .typeMismatch)

/-- The bytes that stand for a text in an encoding, with a way to handle what has no form. -/
def encoded (v encoding : Value) (handling : Option Value) : Except Failure (List UInt8) := do
  let encoding ← encoding.toName
  let handling ← (handling.getD (.text "strict")).toName
  match v with
  | .text s => formed ((← encodingOf encoding).encode (Handling.ofName handling) s)
  | _ => throw (.fault .typeMismatch)

end Value

/-! ## Collections -/

namespace Session

/-- The number of items of a collection. -/
def length? (s : Session) : Value → Option Nat
  | .text t => some t.length
  | .bytes content => some content.length
  | .tuple _ items | .list _ items | .set _ items => some items.length
  | .mapping _ entries => some entries.length
  | .registry id _ => some (s.registryAt id).entries.length
  | _ => none

/-- The items of a collection: the characters of a text, the keys of a mapping, what a
registry holds. -/
def items? (s : Session) : Value → Option (List Value)
  | .text t => some (t.toList.map fun c => .text (String.singleton c))
  | .bytes content => some (content.map fun b => .int b.toNat)
  | .tuple _ items | .list _ items | .set _ items => some items
  | .mapping _ entries => some (Entries.keys entries)
  | .registry id _ => some (Entries.items (s.registryAt id).entries)
  | _ => none

/-- The items of a collection; other values have none to give. -/
def items (s : Session) (v : Value) : Except Failure (List Value) :=
  match s.items? v with
  | some items => .ok items
  | none => .error (.fault .typeMismatch)

/-- A key and a value from an item that must be a pair. -/
def pair (s : Session) (item : Value) : Except Failure (Value × Value) := do
  match ← s.items item with
  | [key, value] => if key.isHashable then return (key, value) else throw (.fault .typeMismatch)
  | _ => throw (.fault .badValue)

/-- The entries of a mapping, or those that a collection of pairs makes. -/
def entries (s : Session) : Value → Except Failure Entries
  | .mapping _ entries => .ok entries
  | v => do
    let items ← s.items v
    return Entries.ofPairs (← items.mapM s.pair)

/-- The distinct items of a collection, as a set holds them. -/
def distinct (s : Session) (v : Value) : Except Failure (List Value) := do
  let items ← s.items v
  if items.all Value.isHashable then
    return Entries.keys (Entries.ofPairs (items.map fun item => (item, Value.null)))
  else throw (.fault .typeMismatch)

/-- The byte that a value is. -/
def byte (v : Value) : Except Failure UInt8 :=
  match v.index? with
  | some n => if 0 ≤ n ∧ n < 256 then .ok n.toNat.toUInt8 else .error (.fault .badValue)
  | none => .error (.fault .typeMismatch)

/-- That many zero bytes: more than an index can count cannot be asked for, and more than
fit into memory cannot be held. -/
def zeroBytes (count : Int) : Except Failure (List UInt8) :=
  if Nat.pow 2 63 ≤ count ∨ count < -(Nat.pow 2 63 : Int) then .error (.fault .overflow)
  else if count < 0 then .error (.fault .badValue)
  else if Nat.pow 2 40 ≤ count then .error (.fault .tooLarge)
  else .ok (List.replicate count.toNat 0)

/-- The bytes that a value makes: a count of zeros, or a collection of byte values. -/
def bytesOf (s : Session) (v : Value) : Except Failure (List UInt8) :=
  match v.index? with
  | some count => zeroBytes count
  | none =>
    match v with
    | .text _ => .error (.fault .typeMismatch)
    | v => do (← s.items v).mapM byte

end Session

end Conform
