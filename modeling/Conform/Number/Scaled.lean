import Conform.Number.Numeral
import Conform.Number.Shortest

/-!
# Scaled Decimals

Decimal numbers that keep the digits they were written with: `1.50` and `1.5` are equal
in value and differ in text. A scaled decimal is a coefficient with a power of ten, an
infinity, or a not-a-number that may carry digits and may be a signalling one.
-/

namespace Conform

open Text

/-- What a scaled decimal holds besides its sign. -/
inductive Scaled.Body where
  | finite (coefficient : Nat) (exponent : Int)
  | infinity
  | nan (signalling : Bool) (payload : List Nat)
  deriving DecidableEq, Repr

/-- A decimal number with the digits it was written with. -/
structure Scaled where
  /-- Whether the sign is the minus sign. -/
  negative : Bool
  /-- The number without its sign. -/
  body : Scaled.Body
  deriving DecidableEq, Repr

namespace Scaled

/-- The special values and the digits that may follow their names. -/
private def special? (cs : List Char) : Option Body :=
  let name := cs.map Char.toLower
  if name = "inf".toList ∨ name = "infinity".toList then some .infinity
  else
    let signalling := name.head? = some 's'
    let rest := if signalling then name.drop 1 else name
    if "nan".toList.isPrefixOf rest then
      match digitRun (cs.drop (if signalling then 4 else 3)) with
      | (payload, []) => some (.nan signalling payload)
      | _ => none
    else none

/-- The largest exponent of a number with one digit before its point. -/
def largestExponent : Int := 999999999999999999

/-- The smallest exponent of a last digit. -/
def smallestExponent : Int := -1999999999999999997

/-- A finite number, if its exponent is in range. -/
def finite? (negative : Bool) (coefficient : Nat) (exponent : Int) : Option Scaled :=
  let leading := exponent + (Nat.toDigits 10 coefficient).length - 1
  if leading ≤ largestExponent ∧ smallestExponent ≤ exponent then
    some ⟨negative, .finite coefficient exponent⟩
  else none

/-- Read a scaled decimal that makes up a whole text, white space around it and
underscores in it aside. -/
def ofText? (s : String) : Option Scaled :=
  let (negative, rest) := Numeral.scanSign ((trim s.toList).filter (· ≠ '_'))
  match special? rest with
  | some body => some ⟨negative, body⟩
  | none =>
    match Numeral.scanDecimal negative rest with
    | some (.decimal _ coefficient exponent, []) => finite? negative coefficient exponent
    | _ => none

/-- The whole number with the given value. -/
def ofInt (n : Int) : Scaled := ⟨decide (n < 0), .finite n.natAbs 0⟩

/-- The scaled decimal with the exact value of a double, and as few digits after the point as
that takes. -/
def ofDouble (x : Binary64) : Scaled :=
  match x with
  | .nan => ⟨false, .nan false []⟩
  | .infinite negative => ⟨negative, .infinity⟩
  | .finite negative significand scale _ =>
    let q := mkRat (Binary64.units significand scale) Binary64.unit
    -- The denominator is a power of two, so five to its exponent makes it a power of ten.
    let places := Nat.log2 q.den
    ⟨negative, .finite (q.num.natAbs * Nat.pow 5 places) (-(places : Int))⟩

/-- A finite magnitude as text: positional when the exponent is not positive and at most
five zeros follow the point, else with one digit before the point and an exponent. -/
def finiteText (coefficient : Nat) (exponent : Int) : List Char :=
  let digits := Nat.toDigits 10 coefficient
  let point := exponent + digits.length
  let place := if exponent ≤ 0 ∧ -6 < point then point else 1
  let mantissa :=
    if place ≤ 0 then '0' :: '.' :: (List.replicate (-place).toNat '0' ++ digits)
    else if digits.length ≤ place then
      digits ++ List.replicate (place.toNat - digits.length) '0'
    else digits.take place.toNat ++ '.' :: digits.drop place.toNat
  let shift := point - place
  -- Nothing is left for an exponent where the point stands at its own place.
  if shift = 0 then mantissa
  else mantissa ++ 'E' :: (if 0 < shift then '+' else '-') :: Nat.toDigits 10 shift.natAbs

/-- A scaled decimal as text. -/
def render (d : Scaled) : String :=
  let body :=
    match d.body with
    | .finite coefficient exponent => finiteText coefficient exponent
    | .infinity => "Infinity".toList
    | .nan signalling payload =>
      (if signalling then "sNaN" else "NaN").toList ++
        (payload.dropWhile (· = 0)).flatMap (Nat.toDigits 10)
  String.ofList (if d.negative then '-' :: body else body)

/-- Whether the number is a signalling not-a-number. -/
def isSignalling (d : Scaled) : Bool :=
  match d.body with
  | .nan signalling _ => signalling
  | _ => false

/-- Whether the number is zero. -/
def isZero (d : Scaled) : Bool :=
  match d.body with
  | .finite coefficient _ => coefficient == 0
  | _ => false

/-- The exact value of a finite number. -/
def toRat? (d : Scaled) : Option Rat :=
  match d.body with
  | .finite coefficient exponent =>
    let signed : Int := if d.negative then -coefficient else coefficient
    some <|
      if 0 ≤ exponent then (signed * Nat.pow 10 exponent.toNat : Int)
      else mkRat signed (Nat.pow 10 (-exponent).toNat)
  | _ => none

/-- The nearest double; a signalling not-a-number has none. -/
def toDouble? (d : Scaled) : Option Binary64 :=
  match d.body with
  | .finite coefficient exponent => some (.ofDecimal d.negative coefficient exponent)
  | .infinity => some (.infinite d.negative)
  | .nan signalling _ => if signalling then none else some .nan

end Scaled

end Conform
