import Conform.Number.Scaled

/-!
# Exact Values

The exact value of a real number of any kind, by which numbers of different kinds are
compared. A finite value is a fraction and a power of ten, which is computed only where the
two values compared are of one magnitude: a decimal may have an exponent that no one would
write out.
-/

namespace Conform

/-- The exact value of a real number of any kind; a finite one is `factor * 10 ^ shift`. A
not-a-number may be a signalling one. -/
inductive Exact where
  | nan (signals : Bool)
  | infinite (negative : Bool)
  | finite (factor : Rat) (shift : Int)

namespace Exact

/-- The order of two fractions. -/
def orderRat (p q : Rat) : Ordering := if p < q then .lt else if p = q then .eq else .gt

/-- The difference in the numbers of digits of numerator and denominator: a fraction other
than zero lies between the powers of ten one below and one above it. -/
def place (q : Rat) : Int :=
  ((Nat.toDigits 10 q.num.natAbs).length : Int) - (Nat.toDigits 10 q.den).length

/-- The order of two values of one sign from the order of their magnitudes. -/
def signed (negative : Bool) (o : Ordering) : Ordering := if negative then o.swap else o

/-- The order of two finite values. -/
def orderFinite (p : Rat) (s : Int) (q : Rat) (t : Int) : Ordering :=
  -- With one power of ten, or with different signs, the fractions decide.
  if s = t ∨ p = 0 ∨ q = 0 ∨ (p < 0) ≠ (q < 0) then orderRat p q
  else if place p + s + 2 ≤ place q + t then signed (decide (p < 0)) .lt
  else if place q + t + 2 ≤ place p + s then signed (decide (p < 0)) .gt
  else if t ≤ s then orderRat (p * 10 ^ (s - t).toNat) q
  else orderRat p (q * 10 ^ (t - s).toNat)

/-- The order of two values; a not-a-number has none. -/
def order : Exact → Exact → Option Ordering
  | .nan _, _ | _, .nan _ => none
  | .infinite a, .infinite b =>
    some (if a = b then .eq else if a then .lt else .gt)
  | .infinite a, .finite .. => some (if a then .lt else .gt)
  | .finite .., .infinite b => some (if b then .gt else .lt)
  | .finite p s, .finite q t => some (orderFinite p s q t)

/-- Equality of exact values; a not-a-number equals nothing. -/
def equal (x y : Exact) : Bool := x.order y == some .eq

/-- The order of exact values; a not-a-number is below nothing and above nothing. -/
def less (x y : Exact) : Bool := x.order y == some .lt

/-- Whether a value is not a number. -/
def isNaN : Exact → Bool
  | .nan _ => true
  | _ => false

/-- Whether a value is a signalling not-a-number. -/
def isSignalling : Exact → Bool
  | .nan signals => signals
  | _ => false

/-- Whether a value is zero. -/
def isZero : Exact → Bool
  | .finite factor _ => factor == 0
  | _ => false

/-- The exact value of a fraction. -/
def ofRat (q : Rat) : Exact := .finite q 0

/-- The exact value of a double. -/
def ofDouble : Binary64 → Exact
  | .nan => .nan false
  | .infinite negative => .infinite negative
  | x => ofRat (x.toRat?.getD 0)

/-- The exact value of a scaled decimal. -/
def ofScaled (d : Scaled) : Exact :=
  match d.body with
  | .nan signals _ => .nan signals
  | .infinity => .infinite d.negative
  | .finite coefficient exponent =>
    let signed : Int := if d.negative then -coefficient else coefficient
    .finite signed exponent

/-- Fractions are compared as they are. -/
theorem order_ofRat (p q : Rat) : (ofRat p).order (ofRat q) = some (orderRat p q) := by
  simp [order, ofRat, orderFinite]

/-- A not-a-number equals nothing. -/
theorem equal_nan (signals : Bool) (y : Exact) : (Exact.nan signals).equal y = false := by
  simp [equal, order]

end Exact

end Conform
