import Conform.Conversion
import Conform.Number.Precision
import Conform.Number.Root

/-!
# Arithmetic on Values

Sums, magnitudes, roundings and hashes of numbers of all kinds. Integers and truth values
go with every other kind; a double takes a fraction over into its own kind, and a complex
number a double; decimals stay among themselves and integers.
-/

namespace Conform

/-- What an operation on decimals gives, as an answer of the library. -/
def Scaled.answer (result : Except Scaled.Refusal Scaled) : Except Failure Value :=
  match result with
  | .ok d => .ok (.decimal none d)
  | .error .invalid => .error (.fault .invalidOperation)
  | .error .outOfRange => .error (.fault .outOfRange)

namespace Value

/-! ## Sums and magnitudes -/

/-- The sum of two doubles as a value. -/
def addDoubles (v w : Value) : Except Failure Value := do
  return .float none ((← v.toDouble).add (← w.toDouble))

/-- Whether the value is an integer or a truth value. -/
def isIndex (v : Value) : Bool := v.index?.isSome

/-- The sum of two complex numbers as a value. -/
def addComplex (v w : Value) : Except Failure Value := do
  let (a, b) ← v.numericParts
  let (c, d) ← w.numericParts
  return .complex none (a.add c) (b.add d)

/-- The sum of two numbers. -/
def add? (v w : Value) : Except Failure Value :=
  match v, w with
  | .decimal .., _ | _, .decimal .. =>
    match decimalOf? v, decimalOf? w with
    | some d, some e => Scaled.answer (d.add? e)
    | _, _ => .error (.fault .typeMismatch)
  | .complex .., _ | _, .complex .. => addComplex v w
  | .float .., _ | _, .float .. =>
    if v.isNumber || v.isBoolean then
      if w.isNumber || w.isBoolean then addDoubles v w else .error (.fault .typeMismatch)
    else .error (.fault .typeMismatch)
  | _, _ =>
    match v.index?, w.index?, v.rational?, w.rational? with
    | some m, some n, _, _ => .ok (.int (m + n))
    | _, _, some p, some q => .ok (.fraction none (p + q))
    | _, _, _, _ => .error (.fault .typeMismatch)
where
  /-- The decimal that an integer or a decimal is. -/
  decimalOf? : Value → Option Scaled
    | .decimal _ d => some d
    | v => v.index?.map Scaled.ofInt

/-- The magnitude of a double. -/
def unsignedDouble (x : Binary64) : Binary64 := if x.isNegative then x.neg else x

/-- The magnitude of a number. That of a complex number may be too large to be one. -/
def magnitude? : Value → Except Failure Value
  | .float _ x => .ok (.float none (unsignedDouble x))
  | .fraction _ q => .ok (.fraction none (if q < 0 then -q else q))
  | .decimal _ d => Scaled.answer d.magnitude?
  | .complex _ re im =>
    let size := re.distance im
    if size.isInfinite && !re.isInfinite && !im.isInfinite then .error (.fault .overflow)
    else .ok (.float none size)
  | v =>
    match v.index? with
    | some n => .ok (.int n.natAbs)
    | none => .error (.fault .typeMismatch)

/-! ## Rounding -/

/-- The integer nearest to a fraction, a half going to the even one. -/
def nearestInteger (q : Rat) : Int :=
  let size : Int := Binary64.halfEven q.num.natAbs q.den
  if q < 0 then -size else size

/-- The integer nearest to a number; a number that is infinite or none at all has none. -/
def rounded? (v : Value) : Except Failure Int :=
  match v with
  | .float _ x => (quotientOf x.toRat? x.isNaN).map nearestInteger
  | .fraction _ q => .ok (nearestInteger q)
  | .decimal _ d => (quotientOf d.toRat? (Exact.ofScaled d).isNaN).map nearestInteger
  | v =>
    match v.index? with
    | some n => .ok n
    | none => .error (.fault .typeMismatch)

/-! ## Hashes -/

/-- The prime number that hashes of numbers are counted by. -/
def hashPrime : Nat := Nat.pow 2 61 - 1

/-- A power of a number, counted by the prime number. -/
def hashPower (base : Nat) : Nat → Nat → Nat
  | 0, _ => 1
  | fuel + 1, exponent =>
    if exponent = 0 then 1
    else
      let half := hashPower (base * base % hashPrime) fuel (exponent / 2)
      if exponent % 2 = 0 then half else half * base % hashPrime

/-- The number that a number is multiplied with to give one, counted by the prime number. -/
def hashInverse (n : Nat) : Nat := hashPower n 61 (hashPrime - 2)

/-- The hash of an infinity, and of a fraction whose denominator counts as zero. -/
def infiniteHash : Nat := 314159

/-- The hash of an exact value; a not-a-number has none of its own. -/
def exactHash? : Exact → Option Int
  | .nan _ => none
  | .infinite negative => some (if negative then -(infiniteHash : Int) else infiniteHash)
  | .finite factor shift =>
    let ten := if 0 ≤ shift then 10 else hashInverse 10
    let scale := hashPower ten 64 shift.natAbs
    let size :=
      if factor.den % hashPrime = 0 then infiniteHash
      else factor.num.natAbs % hashPrime * hashInverse (factor.den % hashPrime) % hashPrime
        * scale % hashPrime
    settled (if factor < 0 then -(size : Int) else size)
where
  /-- The hash one below zero is taken. -/
  settled (n : Int) : Option Int := some (if n = -1 then -2 else n)

/-- The hash of a number: numbers that are equal have the same, whatever their kind. Nothing for
what is no number. -/
def hash? (v : Value) : Option Int := do
  let (re, im) ← v.parts?
  let a ← exactHash? re
  let b ← exactHash? im
  let n := if b = 0 then a else (a + 1000003 * b).bmod (Nat.pow 2 64)
  return if n = -1 then -2 else n

end Value

end Conform
