import Conform.Document.Yaml.Resolution
import Conform.Number.Numeral
import Conform.Text.Parts
import Conform.Value

/-!
# Values of Scalars

The value that the text of a scalar stands for, which its tag tells how to read. A text that
its tag does not fit is a fault; only bytes that are not written as they should be make the
document malformed, and so does a tag that says nothing.
-/

namespace Conform.Document.Yaml

open Text

namespace Scalar

/-- A text without its underscores. -/
def compact (s : String) : List Char := s.toList.filter (· ≠ '_')

/-- Take a sign off a text, which must not be empty: whether it is the minus sign, and the
rest. -/
def signed (cs : List Char) : Except Trouble (Bool × List Char) :=
  if cs.isEmpty then .error (.fault .noIndex) else .ok (Numeral.scanSign cs)

/-- The parts of a text between colons. -/
def parts (cs : List Char) : List String := (partsAt ':' cs).map String.ofList

/-- An integer read from a text. -/
def integer (s : String) : Except Trouble Int :=
  match Numeral.integer? s with
  | some n => .ok n
  | none => .error (.fault .badValue)

/-- An integer read from characters in another base than ten. -/
def inBase (base : Nat) (cs : List Char) : Except Trouble Int :=
  match Numeral.integerIn? base cs with
  | some n => .ok n
  | none => .error (.fault .badValue)

/-- The integer that a scalar stands for: binary, octal, decimal, hexadecimal or in sixties. -/
def int (s : String) : Except Trouble Int := do
  let (negative, body) ← signed (compact s)
  let size ←
    match body with
    | [] => .error (.fault .noIndex)
    | ['0'] => .ok 0
    | '0' :: 'b' :: rest => inBase 2 rest
    | '0' :: 'x' :: rest => inBase 16 rest
    | '0' :: _ => inBase 8 body
    | _ =>
      if body.contains ':' then do
        let digits ← (parts body).mapM integer
        pure (digits.foldl (fun n d => n * 60 + d) 0)
      else integer (String.ofList body)
  return if negative then -size else size

/-- A double read from a text. -/
def double (s : String) : Except Trouble Binary64 :=
  match Numeral.double? s with
  | some x => .ok x
  | none => .error (.fault .badValue)

/-- Add parts that count in sixties to a sum, the first of them with the given weight. A
weight must not be too large for a double. -/
def sixties (sum : Binary64) (weight : Nat) : List Binary64 → Except Trouble Binary64
  | [] => .ok sum
  | d :: rest =>
    let w := Binary64.ofRat (weight : Int)
    if w.isInfinite then .error (.fault .overflow)
    else sixties (sum.add (d.mul w)) (weight * 60) rest

/-- The double that a scalar stands for, which has a mark if the word for it stands for one
and the same object. -/
def float (s : String) : Except Trouble (Mark × Binary64) := do
  let (negative, body) ← signed ((compact s).map Char.toLower)
  if body = ".nan".toList then return (.ofYaml, .nan)
  let x ←
    if body = ".inf".toList then .ok (.infinite false)
    else if body.contains ':' then do
      let digits ← (parts body).mapM double
      sixties (Binary64.zero false) 1 digits.reverse
    else double (String.ofList body)
  return (none, if negative then x.neg else x)

/-- The truth value that a scalar stands for. -/
def bool (s : String) : Except Trouble Bool :=
  let word := String.ofList (s.toList.map Char.toLower)
  if ["yes", "true", "on"].contains word then .ok true
  else if ["no", "false", "off"].contains word then .ok false
  else .error (.fault .noKey)

/-- The number that ASCII digits write. -/
def count (digits : List Char) : Nat :=
  digitsValue (digits.map fun c => c.toNat - '0'.toNat)

/-- The first six digits of a fraction of a second as microseconds. -/
def micro (fraction : List Char) : Nat :=
  let digits := fraction.take 6
  count (digits ++ List.replicate (6 - digits.length) '0')

/-- An offset from universal time in minutes. -/
def offset : Option (Char × List Char × List Char) → Int
  | none => 0
  | some (sign, hours, minutes) =>
    let size : Int := count hours * 60 + count minutes
    if sign = '-' then -size else size

/-- The date that the parts of a stamp give, if the calendar and the clock have it. -/
def moment (stamp : Plain.Stamp) : Except Trouble Moment :=
  let time := stamp.time.map fun (hour, minute, second) =>
    { hour := count hour, minute := count minute, second := count second,
      micro := micro stamp.fraction, offset := stamp.zone.map offset : TimeOfDay }
  let m : Moment :=
    { year := count stamp.year, month := count stamp.month, day := count stamp.day, time }
  if m.isValid then .ok m else .error (.fault .badValue)

/-- The date that a scalar stands for. -/
def timestamp (s : String) : Except Trouble Moment :=
  match Plain.stamp? (Plain.withoutBreak s.toList) with
  | some stamp => moment stamp
  | none => .error (.fault .noAttribute)

/-- The value of a character that stands for six bits. -/
def sixBits? (c : Char) : Option Nat :=
  if c.isUpper then some (c.toNat - 'A'.toNat)
  else if c.isLower then some (c.toNat - 'a'.toNat + 26)
  else if c.isDigit then some (c.toNat - '0'.toNat + 52)
  else if c = '+' then some 62
  else if c = '/' then some 63
  else none

/-- The bytes of a text in groups of six bits. Other characters are passed over; the text
ends at the signs that fill its last group, which must be complete. What is given is the
place in the group, the bits left over, and the number of filling signs so far. -/
def sixBitBytes : Nat → Nat → Nat → List Char → Except Trouble (List UInt8)
  | place, _, _, [] => if place = 0 then .ok [] else .error .malformed
  | place, left, fill, c :: rest =>
    if c = '=' then
      -- The sign that completes the group ends the text, whatever follows it.
      if 2 ≤ place ∧ 4 ≤ place + fill + 1 then .ok []
      else sixBitBytes place left (if 2 ≤ place then fill + 1 else fill) rest
    else
      match sixBits? c with
      | none => sixBitBytes place left fill rest
      | some bits =>
        match place with
        | 0 => sixBitBytes 1 bits 0 rest
        | 1 => do return (left * 4 + bits / 16).toUInt8 :: (← sixBitBytes 2 (bits % 16) 0 rest)
        | 2 => do return (left * 16 + bits / 4).toUInt8 :: (← sixBitBytes 3 (bits % 4) 0 rest)
        | _ => do return (left * 64 + bits).toUInt8 :: (← sixBitBytes 0 0 0 rest)

/-- The bytes that a scalar stands for. -/
def binary (s : String) : Except Trouble (List UInt8) :=
  if s.toList.all fun c => c.toNat < 128 then sixBitBytes 0 0 0 s.toList else .error .malformed

/-- The tags of scalars, and how the text under each of them is read. -/
def readers : List (String × (String → Except Trouble Value)) :=
  [("str", fun s => .ok (.text s)), ("null", fun _ => .ok .null), ("bool", fun s => (bool s).map .bool),
    ("int", fun s => (int s).map .int),
    ("float", fun s => (float s).map fun (mark, x) => .float mark x),
    ("timestamp", fun s => (timestamp s).map .moment),
    ("binary", fun s => (binary s).map .bytes)].map fun (name, read) => (coreTag name, read)

end Scalar

end Conform.Document.Yaml
