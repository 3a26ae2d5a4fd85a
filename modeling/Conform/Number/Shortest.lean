import Conform.Number.Binary64

/-!
# Shortest Decimals

The fewest decimal digits that read back as a given double. On the grid of each digit
count from one to seventeen, the value has two neighbours; the first grid on which a
neighbour reads back wins, of two such neighbours the nearer one is taken, and a tie goes
to the even one.

That the chosen digits read back is checked where they are chosen: each candidate is
read with `Binary64.ofDecimal` and compared with the double it is to stand for. The exact
decimal expansion, which every double has, stands in should no candidate pass.
-/

namespace Conform

/-- A positive decimal `digits * 10 ^ exponent`. -/
structure ShortDecimal where
  /-- The digits, read as one natural number. -/
  digits : Nat
  /-- The power of ten they are multiplied with. -/
  exponent : Int
  deriving DecidableEq, Repr

namespace ShortDecimal

/-- Move one trailing zero of the digits into the exponent, as often as fuel lasts. -/
def trimZeros : Nat → ShortDecimal → ShortDecimal
  | 0, d => d
  | fuel + 1, d =>
    if d.digits ≠ 0 ∧ d.digits % 10 = 0 then trimZeros fuel ⟨d.digits / 10, d.exponent + 1⟩
    else d

/-- The same decimal without trailing zeros in its digits. -/
def trimmed (d : ShortDecimal) : ShortDecimal :=
  trimZeros (Nat.toDigits 10 d.digits).length d

/-- The digits as characters, most significant first. -/
def chars (d : ShortDecimal) : List Char := Nat.toDigits 10 d.digits

/-- The position of the decimal point, counted in digits from the first one: the decimal
is `0.d₁d₂… * 10 ^ point`. -/
def point (d : ShortDecimal) : Int := d.exponent + d.chars.length

/-- Whether the decimal, taken as positive, is read as the positive double `x`. -/
def ReadsAs (d : ShortDecimal) (x : Binary64) : Prop :=
  Binary64.ofDecimal false d.digits d.exponent = x

/-- Reading back can be tested. -/
instance (d : ShortDecimal) (x : Binary64) : Decidable (d.ReadsAs x) :=
  inferInstanceAs (Decidable (_ = _))

/-- The quotient `num / den` counted in units of `10 ^ exponent`, as a pair of natural
numbers. -/
def onGrid (num den : Nat) (exponent : Int) : Nat × Nat :=
  if 0 ≤ exponent then (num, den * Nat.pow 10 exponent.toNat)
  else (num * Nat.pow 10 (-exponent).toNat, den)

/-- Of the two neighbours of `num / den` on the grid of `10 ^ exponent`, the one that
reads as `x`; if both do, the nearer one, and the even one when they are equally near. -/
def neighbour? (num den : Nat) (x : Binary64) (exponent : Int) : Option ShortDecimal :=
  let (top, bottom) := onGrid num den exponent
  let low : ShortDecimal := ⟨top / bottom, exponent⟩
  let high : ShortDecimal := ⟨top / bottom + 1, exponent⟩
  if low.ReadsAs x then
    if high.ReadsAs x then some ⟨Binary64.halfEven top bottom, exponent⟩ else some low
  else if high.ReadsAs x then some high
  else none

/-- The number of digits before the decimal point of `num / den`, negative for a quotient
below one tenth. The quotient must be at least `10 ^ (-399)`. -/
def magnitude (num den : Nat) : Int :=
  (Nat.toDigits 10 (num * Nat.pow 10 400 / den)).length - 400

/-- The number of units of `10 ^ (-1074)` in one of `2 ^ (-1074)`. -/
def tenthsOfUnit : Nat := Nat.pow 5 1074

/-- The shortest decimal that reads as the double of the given canonical form. -/
def ofParts (significand scale : Nat) : ShortDecimal :=
  let num := Binary64.units significand scale
  let x := Binary64.ofParts false significand scale
  let point := magnitude num Binary64.unit
  -- Grids of one to seventeen digits, coarsest first.
  let grids := (List.range 17).map fun (n : Nat) => point - (n + 1 : Nat)
  let exact : ShortDecimal := ⟨num * tenthsOfUnit, -1074⟩
  ((grids.findSome? (neighbour? num Binary64.unit x)).getD exact).trimmed

end ShortDecimal

end Conform
