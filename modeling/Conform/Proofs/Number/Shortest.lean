import Conform.Number.Shortest
import Conform.Proofs.Number.Rounding

/-!
# Shortest decimals read back

The decimal chosen for a double is read as that double again (`readsAs_ofParts`): a neighbour on a
grid is only taken if it reads back, the exact expansion that stands in for it does as well, and
trailing zeros do not matter.
-/

namespace Conform.ShortDecimal

open Binary64

/-- Moving trailing zeros into the exponent does not change what a decimal is read as. -/
theorem readsAs_trimZeros (fuel : ℕ) (d : ShortDecimal) (x : Binary64) :
    (trimZeros fuel d).ReadsAs x ↔ d.ReadsAs x := by
  induction fuel generalizing d with
  | zero => rfl
  | succ fuel ih =>
    unfold trimZeros
    split_ifs with hzero
    · rw [ih]
      have hdigits : d.digits / 10 * 10 ^ 1 = d.digits := by omega
      have hmove := ofDecimal_mul_pow false (d.digits / 10) 1 d.exponent
      rw [hdigits] at hmove
      unfold ReadsAs
      rw [hmove]
      rfl
    · rfl

/-- A neighbour that is taken reads back. -/
theorem readsAs_of_neighbour? {num den : ℕ} {x : Binary64} {exponent : ℤ} {d : ShortDecimal}
    (h : neighbour? num den x exponent = some d) : d.ReadsAs x := by
  unfold neighbour? at h
  dsimp only at h
  split_ifs at h with hlow hhigh hhigh
  · obtain rfl := Option.some.inj h
    -- The nearer of two neighbours is one of the two.
    rcases halfEven_eq_or (onGrid num den exponent).1 (onGrid num den exponent).2 with heq | heq
    · rwa [heq]
    · rwa [heq]
  · obtain rfl := Option.some.inj h
    exact hlow
  · obtain rfl := Option.some.inj h
    exact hhigh

theorem tenthsOfUnit_eq : tenthsOfUnit = 5 ^ 1074 := by
  unfold tenthsOfUnit
  generalize 1074 = k
  rfl

theorem tenthsOfUnit_pos : 0 < tenthsOfUnit := by
  rw [tenthsOfUnit_eq]
  positivity

/-- A unit is a whole number of tenths, so every double has an exact expansion. -/
theorem tenthsOfUnit_mul_unit : tenthsOfUnit * unit = 10 ^ 1074 := by
  have hten : 10 = 5 * 2 := rfl
  rw [tenthsOfUnit_eq, unit_eq, hten, mul_pow]

/-- Every exact expansion has at least 745 digits. -/
theorem ten_pow_le_tenthsOfUnit : 10 ^ 744 ≤ tenthsOfUnit := by
  have hbase : 10 ^ 124 ≤ 5 ^ 179 := by decide
  have htens : 744 = 124 * 6 := rfl
  have hfives : 1074 = 179 * 6 := rfl
  rw [tenthsOfUnit_eq, htens, hfives, pow_mul, pow_mul]
  exact Nat.pow_le_pow_left hbase 6

/-- No exact expansion has more than 1384 digits. -/
theorem largest_expansion_lt : 2 ^ 53 * 2 ^ 2045 * tenthsOfUnit < 10 ^ 1384 := by
  have hsplit : 2 ^ 53 * 2 ^ 2045 * tenthsOfUnit = 2 ^ 1024 * 10 ^ 1074 := by
    have htwos : 53 + 2045 = 1024 + 1074 := rfl
    rw [← tenthsOfUnit_mul_unit, unit_eq, ← pow_add, htwos, pow_add, mul_assoc,
      mul_comm tenthsOfUnit]
  have htens : 1384 = 310 + 1074 := rfl
  rw [hsplit, htens, pow_add]
  exact Nat.mul_lt_mul_of_pos_right overflow_lt (by positivity)

/-- The exact expansion of a positive double reads back. -/
theorem readsAs_exact {significand scale : ℕ} (h : Canonical significand scale)
    (hpos : 0 < significand) :
    (⟨units significand scale * tenthsOfUnit, -1074⟩ : ShortDecimal).ReadsAs
      (.finite false significand scale h) := by
  set coefficient := units significand scale * tenthsOfUnit with hcoefficient
  have hunits : 0 < units significand scale := Nat.mul_pos hpos (Nat.two_pow_pos scale)
  have hlower : 10 ^ 744 ≤ coefficient :=
    ten_pow_le_tenthsOfUnit.trans (Nat.le_mul_of_pos_left _ hunits)
  have hupper : coefficient < 10 ^ 1384 := by
    have hscale : units significand scale < 2 ^ 53 * 2 ^ 2045 := by
      rw [units_eq]
      exact Nat.mul_lt_mul_of_lt_of_le h.bounds.1
        (pow_le_pow_right₀ (by decide) h.bounded) (by positivity)
    exact (Nat.mul_lt_mul_of_pos_right hscale tenthsOfUnit_pos).trans largest_expansion_lt
  -- The digits number between 745 and 1384, which is where `ofDecimal` computes its powers.
  have hlong : 744 < (Nat.toDigits 10 coefficient).length := by
    by_contra hshort
    have := (Text.length_toDigits_le_iff (by decide)).1 (not_lt.1 hshort)
    omega
  have hshort : (Nat.toDigits 10 coefficient).length ≤ 1384 :=
    (Text.length_toDigits_le_iff (by decide)).2 hupper
  have hne : coefficient ≠ 0 := by
    have := Nat.pow_pos (n := 744) (show 0 < 10 by decide)
    omega
  unfold ReadsAs
  dsimp only
  rw [ofDecimal_eq_nearest false hne (by omega) (by omega), ← nearest_units false h]
  refine nearest_congr false (by positivity) unit_pos ?_
  have hnum : (-1074 : ℤ).toNat = 0 := rfl
  have hden : (- -1074 : ℤ).toNat = 1074 := rfl
  rw [hnum, hden, ← tenthsOfUnit_mul_unit, hcoefficient, pow_zero]
  ring

/-- The decimal chosen for a positive double is read as that double. -/
theorem readsAs_ofParts {significand scale : ℕ} (h : Canonical significand scale)
    (hpos : 0 < significand) :
    (ofParts significand scale).ReadsAs (.finite false significand scale h) := by
  have hparts : Binary64.ofParts false significand scale = .finite false significand scale h :=
    dif_pos h
  unfold ofParts trimmed
  dsimp only
  rw [readsAs_trimZeros, hparts]
  set point := magnitude (units significand scale) unit
  -- Either a neighbour with at most 17 digits reads back, or the exact expansion is taken.
  cases hfind : ((List.range 17).map fun n : ℕ => point - (n + 1 : ℕ)).findSome?
      (neighbour? (units significand scale) unit (.finite false significand scale h)) with
  | none => exact readsAs_exact h hpos
  | some d =>
    obtain ⟨exponent, -, htaken⟩ := List.exists_of_findSome?_eq_some hfind
    exact readsAs_of_neighbour? htaken

end Conform.ShortDecimal
