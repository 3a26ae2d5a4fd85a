/-!
# Binary64 Numbers

Doubles as exact data. A finite double stands for
`significand * 2 ^ scale / 2 ^ 1074`, with a sign of its own so that both zeros are kept
apart, and every double has exactly one such form. There is one not-a-number.

`nearest` rounds a quotient of natural numbers to the closest double, a tie going to the
even significand and a magnitude past the largest finite one to infinity. All arithmetic
on doubles in this library is exact arithmetic followed by one `nearest`.
-/

namespace Conform

/-- The bounds that give each finite magnitude a single form: the significand fits in 53
bits, fills them unless the scale is the smallest one, and the scale stays in range. -/
structure Binary64.Canonical (significand scale : Nat) : Prop where
  /-- The significand fits in 53 bits. -/
  fits : significand < Nat.pow 2 53
  /-- A significand that leaves the leading bit empty has the smallest scale. -/
  normal : Nat.pow 2 52 ≤ significand ∨ scale = 0
  /-- The scale does not pass the one of the largest finite magnitude. -/
  bounded : scale ≤ 2045

/-- Whether a pair is in canonical form can be decided. -/
instance (significand scale : Nat) : Decidable (Binary64.Canonical significand scale) :=
  decidable_of_iff
    (significand < Nat.pow 2 53 ∧ (Nat.pow 2 52 ≤ significand ∨ scale = 0) ∧ scale ≤ 2045)
    ⟨fun h => ⟨h.1, h.2.1, h.2.2⟩, fun h => ⟨h.fits, h.normal, h.bounded⟩⟩

/-- A double: not a number, an infinity, or a signed finite magnitude
`significand * 2 ^ scale / 2 ^ 1074`. -/
inductive Binary64 where
  | nan
  | infinite (negative : Bool)
  | finite (negative : Bool) (significand scale : Nat)
      (canonical : Binary64.Canonical significand scale)
  deriving DecidableEq

namespace Binary64

/-- The denominator shared by all finite doubles. -/
def unit : Nat := Nat.pow 2 1074

/-- The zero of the given sign. -/
def zero (negative : Bool) : Binary64 :=
  .finite negative 0 0 ⟨by decide, .inr rfl, by decide⟩

/-- The quotient `num / den` rounded to a natural number, a half going to the even
neighbour. -/
def halfEven (num den : Nat) : Nat :=
  let quotient := num / den
  let twice := 2 * (num % den)
  if twice < den then quotient
  else if den < twice then quotient + 1
  else if quotient % 2 = 0 then quotient
  else quotient + 1

/-- The finite double of the given form. A scale past the range stands for a magnitude
past the largest finite one, and gives infinity. -/
def ofParts (negative : Bool) (significand scale : Nat) : Binary64 :=
  if h : Canonical significand scale then .finite negative significand scale h
  else .infinite negative

/-- The double nearest to `num / den` with the given sign. The scale is the one at which
the whole part of the magnitude, counted in units, fills 53 bits. -/
def nearest (negative : Bool) (num den : Nat) : Binary64 :=
  let scaled := num * unit
  let scale := Nat.log2 (scaled / den) - 52
  let significand := halfEven scaled (den * Nat.pow 2 scale)
  -- Rounding up can carry into a 54th bit.
  if significand = Nat.pow 2 53 then ofParts negative (Nat.pow 2 52) (scale + 1)
  else ofParts negative significand scale

/-- The double nearest to `coefficient * 10 ^ exponent` with the given sign. A magnitude
of at least `10 ^ 310` is past the largest double and one below `10 ^ (-330)` is under
half the smallest, so neither power needs to be computed. -/
def ofDecimal (negative : Bool) (coefficient : Nat) (exponent : Int) : Binary64 :=
  let point := exponent + (Nat.toDigits 10 coefficient).length
  if coefficient = 0 then zero negative
  else if 310 < point then .infinite negative
  else if point < -330 then zero negative
  else if 0 ≤ exponent then nearest negative (coefficient * Nat.pow 10 exponent.toNat) 1
  else nearest negative coefficient (Nat.pow 10 (-exponent).toNat)

/-- The double nearest to a rational number; zero is positive. -/
def ofRat (q : Rat) : Binary64 :=
  nearest (decide (q.num < 0)) q.num.natAbs q.den

/-- Whether the double is not a number. -/
def isNaN : Binary64 → Bool
  | .nan => true
  | _ => false

/-- Whether the double is one of the two infinities. -/
def isInfinite : Binary64 → Bool
  | .infinite _ => true
  | _ => false

/-- Whether the sign is the negative one; not-a-number counts as positive. -/
def isNegative : Binary64 → Bool
  | .nan => false
  | .infinite negative => negative
  | .finite negative .. => negative

/-- The magnitude of a finite double counted in units of `2 ^ (-1074)`. -/
def units (significand scale : Nat) : Nat := significand * Nat.pow 2 scale

/-- The exact value of a finite double. -/
def toRat? : Binary64 → Option Rat
  | .finite negative significand scale _ =>
    let magnitude : Int := units significand scale
    some (mkRat (if negative then -magnitude else magnitude) unit)
  | _ => none

/-- Whether the double is a finite whole number. -/
def isInteger : Binary64 → Bool
  | .finite _ significand scale _ => units significand scale % unit == 0
  | _ => false

/-- The whole part of a finite double, cut toward zero. -/
def truncate? : Binary64 → Option Int
  | .finite negative significand scale _ =>
    let whole : Int := (units significand scale / unit : Nat)
    some (if negative then -whole else whole)
  | _ => none

/-- The double with its sign turned. -/
def neg : Binary64 → Binary64
  | .nan => .nan
  | .infinite negative => .infinite !negative
  | .finite negative significand scale canonical =>
    .finite (!negative) significand scale canonical

/-- Whether the double is one of the two zeros. -/
def isZero : Binary64 → Bool
  | .finite _ significand _ _ => significand == 0
  | _ => false

/-- The nearest double to an exact sum or product; an exact zero takes the given sign. -/
private def rounded (zeroNegative : Bool) (q : Rat) : Binary64 :=
  if q = 0 then zero zeroNegative else ofRat q

/-- The sum, correctly rounded. -/
def add (x y : Binary64) : Binary64 :=
  match x.toRat?, y.toRat? with
  | some p, some q => rounded (x.isNegative && y.isNegative) (p + q)
  | some _, none => y
  | none, some _ => x
  | none, none => if x = y then x else .nan

/-- The product, correctly rounded. -/
def mul (x y : Binary64) : Binary64 :=
  let negative := x.isNegative != y.isNegative
  match x.toRat?, y.toRat? with
  | some p, some q => rounded negative (p * q)
  | _, _ => if x.isNaN || y.isNaN || x.isZero || y.isZero then .nan else .infinite negative

end Binary64

end Conform
