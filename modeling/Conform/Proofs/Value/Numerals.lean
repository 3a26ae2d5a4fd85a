import Conform.Proofs.Number.Digits
import Conform.Value.Rendering

/-!
# Numerals of integers

An integer has a numeral in messages unless it has too many digits (`Value.numeral_eq_ok_iff`).
-/

namespace Conform

namespace Value

open Numeral (digitLimit)

theorem digitLimit_pos : 0 < digitLimit := by
  unfold digitLimit
  omega

/-- An integer is too long to be written from the power of ten on that has one digit more. -/
theorem isTooLong_eq_false_iff (n : ℤ) : isTooLong n = false ↔ n.natAbs < 10 ^ digitLimit := by
  rw [isTooLong, Bool.not_eq_false', Numeral.isReadable, ← Text.length_toDigits_le_iff digitLimit_pos]
  simp

/-- An integer below that power of ten is written as its numeral. -/
theorem numeral_of_lt {n : ℤ} (h : n.natAbs < 10 ^ digitLimit) : numeral n = .ok (toString n) := by
  rw [numeral, (isTooLong_eq_false_iff n).2 h, if_neg Bool.false_ne_true]

/-- A numeral is the text of the integer, of an integer that is not too long. -/
theorem numeral_eq_ok_iff {n : ℤ} {s : String} :
    numeral n = .ok s ↔ n.natAbs < 10 ^ digitLimit ∧ toString n = s := by
  rw [← isTooLong_eq_false_iff, numeral]
  cases isTooLong n <;> simp

/-- An integer of at most 21 digits is not too long to be written. -/
theorem numeral_of_lt_pow {n : ℤ} (h : n.natAbs < 10 ^ 21) : numeral n = .ok (toString n) := by
  have hle : (10 : ℕ) ^ 21 ≤ 10 ^ digitLimit := Nat.pow_le_pow_right (by decide) (by decide)
  exact numeral_of_lt (h.trans_le hle)

end Value

end Conform
