import Conform.Number.Scaled

/-!
# Arithmetic of Scaled Decimals

Sums and magnitudes of scaled decimals. A result has at most 28 digits; a longer one is
rounded, and a half goes to the even neighbour. The power of ten of its first digit is at most
999999, and a larger result is out of range; digits below a smallest place are lost.

A sum has as many digits after the point as the operand with more of them, unless it is
rounded. A not-a-number among the operands is the result, the first before the second, and a
signalling one is refused.
-/

namespace Conform

namespace Scaled

/-- Why an operation on decimals has no result. -/
inductive Refusal where
  | invalid
  | outOfRange
  deriving DecidableEq, Repr

/-- How many digits a result may have. -/
def precision : Nat := 28

/-- The largest power of ten of a first digit. -/
def largestPlace : Int := 999999

/-- The largest exponent of a result with all its digits. -/
def largestFull : Int := largestPlace - precision + 1

/-- The smallest exponent of a result. -/
def smallestPlace : Int := -largestPlace - precision + 2

/-- How many decimal digits a number has. -/
def digitCount (n : Nat) : Nat := (Nat.toDigits 10 n).length

/-- A number cut by some of its last digits, a half going to the even neighbour. -/
def cutDigits (coefficient count : Nat) : Nat :=
  if digitCount coefficient < count then 0 else Binary64.halfEven coefficient (Nat.pow 10 count)

/-- The result of an operation that has a coefficient and an exponent. -/
def settle (negative : Bool) (coefficient : Nat) (exponent : Int) : Except Refusal Scaled :=
  if coefficient = 0 then
    .ok ⟨negative, .finite 0 (min (max exponent smallestPlace) largestPlace)⟩
  else
    let least := exponent + digitCount coefficient - precision
    let kept := max least smallestPlace
    if largestFull < least then .error .outOfRange
    else if kept ≤ exponent then .ok ⟨negative, .finite coefficient exponent⟩
    else
      let rounded := cutDigits coefficient (kept - exponent).toNat
      -- Rounding up may add a digit, which then is a zero.
      let (rounded, kept) :=
        if precision < digitCount rounded then (rounded / 10, kept + 1) else (rounded, kept)
      if largestFull < kept then .error .outOfRange else .ok ⟨negative, .finite rounded kept⟩

/-- The result of an operation that has a not-a-number or an infinity. The digits that a
not-a-number carries are cut at the front. -/
def settleSpecial (d : Scaled) : Except Refusal Scaled :=
  match d.body with
  | .nan true _ => .error .invalid
  | .nan false payload => .ok ⟨d.negative, .nan false (payload.drop (payload.length - precision))⟩
  | _ => .ok d

/-- A finite decimal with another exponent not above its own: its coefficient grows. -/
def lower (coefficient : Nat) (exponent target : Int) : Nat :=
  coefficient * Nat.pow 10 (exponent - target).toNat

/-- The sum of two finite decimals other than zero, the first of which has the larger
exponent. A second one that is too small to be seen counts as the smallest that is not. -/
def addOrdered (x : Bool) (a : Nat) (s : Int) (y : Bool) (b : Nat) (t : Int) :
    Except Refusal Scaled :=
  let least := s + min (-1) ((digitCount a : Int) - precision - 2)
  let (b, low) := if t + digitCount b - 1 < least then (1, least) else (b, t)
  let signed (negative : Bool) (n : Nat) : Int := if negative then -(n : Int) else n
  let total := signed x (lower a s low) + signed y b
  if total = 0 then settle false 0 t else settle (decide (total < 0)) total.natAbs low

/-- The sum of two finite decimals. -/
def addFinite (x : Bool) (a : Nat) (s : Int) (y : Bool) (b : Nat) (t : Int) :
    Except Refusal Scaled :=
  let low := min s t
  if a = 0 ∧ b = 0 then settle (x && y) 0 low
  else if a = 0 then
    let low := max low (t - precision - 1)
    settle y (lower b t low) low
  else if b = 0 then
    let low := max low (s - precision - 1)
    settle x (lower a s low) low
  else if t ≤ s then addOrdered x a s y b t
  else addOrdered y b t x a s

/-- The sum of two decimals. Opposite infinities have none. -/
def add? (d e : Scaled) : Except Refusal Scaled :=
  if d.isSignalling || e.isSignalling then .error .invalid
  else
    match d.body, e.body with
    | .nan .., _ => settleSpecial d
    | _, .nan .. => settleSpecial e
    | .infinity, .infinity => if d.negative = e.negative then .ok d else .error .invalid
    | .infinity, _ => .ok d
    | _, .infinity => .ok e
    | .finite a s, .finite b t => addFinite d.negative a s e.negative b t

/-- The magnitude of a decimal. A not-a-number is left as it is. -/
def magnitude? (d : Scaled) : Except Refusal Scaled :=
  match d.body with
  | .finite coefficient exponent => settle false coefficient exponent
  | .infinity => .ok ⟨false, .infinity⟩
  | .nan .. => settleSpecial d

end Scaled

end Conform
