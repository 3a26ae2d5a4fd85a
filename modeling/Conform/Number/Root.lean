import Conform.Number.Binary64

/-!
# Square Roots

The whole part of a square root, and the double nearest to the root of a fraction. The root
of a fraction is taken with sixty-four bits to spare, and one more bit tells whether
anything is left after them, so that it rounds as the exact root does.
-/

namespace Conform

/-- The greatest number below `2 ^ bits` more than `root` whose square does not pass `n`. -/
def extendRoot (n : Nat) : Nat → Nat → Nat
  | 0, root => root
  | bits + 1, root =>
    let next := root + Nat.pow 2 bits
    extendRoot n bits (if next * next ≤ n then next else root)

/-- The whole part of a square root. -/
def wholeRoot (n : Nat) : Nat := extendRoot n (Nat.log2 n / 2 + 1) 0

/-- The square of what is found never passes the number. -/
theorem extendRoot_sq_le (n bits root : Nat) (h : root * root ≤ n) :
    extendRoot n bits root * extendRoot n bits root ≤ n := by
  induction bits generalizing root with
  | zero => exact h
  | succ bits ih =>
    unfold extendRoot
    by_cases hn : (root + Nat.pow 2 bits) * (root + Nat.pow 2 bits) ≤ n
    · simp only [hn, if_true]
      exact ih _ hn
    · simp only [hn, if_false]
      exact ih _ h

/-- The square of the whole part of a root does not pass the number. -/
theorem wholeRoot_sq_le (n : Nat) : wholeRoot n * wholeRoot n ≤ n :=
  extendRoot_sq_le n _ 0 (Nat.zero_le _)

namespace Binary64

/-- The double nearest to the square root of a fraction that is not negative. -/
def rootOf (q : Rat) : Binary64 :=
  -- The root of `p / d` is the root of `p * d` over `d`.
  let square := q.num.natAbs * q.den * Nat.pow 4 64
  let root := wholeRoot square
  let rest := if root * root = square then 0 else 1
  nearest false (2 * root + rest) (2 * q.den * Nat.pow 2 64)

/-- The distance of a point of the plane from the origin. -/
def distance (x y : Binary64) : Binary64 :=
  if x.isInfinite || y.isInfinite then .infinite false
  else
    match x.toRat?, y.toRat? with
    | some p, some q => rootOf (p * p + q * q)
    | _, _ => .nan

end Binary64

end Conform
