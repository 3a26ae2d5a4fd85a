import Conform.Number.Binary64
import Conform.Proofs.Number.Digits
import Mathlib.Algebra.Order.Ring.Int
import Mathlib.Data.Rat.Lemmas
import Mathlib.Tactic.Positivity
import Mathlib.Tactic.Ring

/-!
# Rounding to doubles

What the rounding functions of `Binary64` depend on, and which numbers they leave alone.

- `nearest_congr`: `nearest` depends on the value of a quotient, not on its two terms;
- `overflow_lt`, `two_pow_lt_ten_pow`: the powers of two at the ends of the range of doubles are
  below the powers of ten that take their place for decimals;
- `nearest_units`: the value of a finite double is rounded to that double;
- `ofDecimal_mul_pow`: a power of ten may move from the coefficient of a decimal into its exponent;
- `ofRat_of_toRat?`: the exact value of a double other than zero is rounded to that double.
-/

namespace Conform.Binary64

/-! ## Rounding to whole numbers -/

/-- The rounded quotient is one of the two whole numbers around it. -/
theorem halfEven_eq_or (num den : ℕ) :
    halfEven num den = num / den ∨ halfEven num den = num / den + 1 := by
  unfold halfEven
  dsimp only
  split_ifs <;> simp

/-- Rounding depends on the value of the quotient alone. -/
theorem halfEven_mul_right (num den : ℕ) {c : ℕ} (hc : 0 < c) :
    halfEven (num * c) (den * c) = halfEven num den := by
  unfold halfEven
  dsimp only
  rw [Nat.mul_div_mul_right _ _ hc, Nat.mul_mod_mul_right]
  have htwice : 2 * (num % den * c) = 2 * (num % den) * c := by ring
  have hbelow : 2 * (num % den) * c < den * c ↔ 2 * (num % den) < den := Nat.mul_lt_mul_right hc
  have habove : den * c < 2 * (num % den) * c ↔ den < 2 * (num % den) := Nat.mul_lt_mul_right hc
  simp only [htwice, hbelow, habove]

/-- A whole number is its own rounding. -/
theorem halfEven_mul_self (m : ℕ) {den : ℕ} (hden : 0 < den) : halfEven (m * den) den = m := by
  unfold halfEven
  simp [Nat.mul_div_cancel m hden, hden]

/-! ## Rounding to doubles -/

/-- Multiplying both terms of a quotient by one number does not change its rounding. -/
theorem nearest_mul_right (negative : Bool) (num den : ℕ) {c : ℕ} (hc : 0 < c) :
    nearest negative (num * c) (den * c) = nearest negative num den := by
  have hscaled : num * c * unit = num * unit * c := by ring
  have hquotient : num * unit * c / (den * c) = num * unit / den :=
    Nat.mul_div_mul_right _ _ hc
  have hden : ∀ p, den * c * p = den * p * c := fun p => by ring
  unfold nearest
  simp only [hscaled, hquotient, hden, halfEven_mul_right _ _ hc]

/-- Quotients of one value are rounded to one double. -/
theorem nearest_congr (negative : Bool) {num den num' den' : ℕ} (hden : 0 < den)
    (hden' : 0 < den') (h : num * den' = num' * den) :
    nearest negative num den = nearest negative num' den' := by
  rw [← nearest_mul_right negative num den hden', h, mul_comm den den',
    nearest_mul_right negative num' den' hden]

/-! ## Powers of two and of ten -/

theorem units_eq (significand scale : ℕ) : units significand scale = significand * 2 ^ scale := by
  unfold units
  rw [Nat.pow_eq]

theorem unit_eq : unit = 2 ^ 1074 := by
  unfold unit
  -- The exponent is made a variable, so that the power is never computed.
  generalize 1074 = k
  rfl

theorem unit_pos : 0 < unit := by
  rw [unit_eq]
  positivity

/-- The power of two that is past the magnitudes of doubles is below the power of ten from which
decimals are not computed. -/
theorem overflow_lt : 2 ^ 1024 < 10 ^ 310 := by
  have hbase : 2 ^ 256 < 10 ^ 77 * 2 := by decide
  have hbound : (10 ^ 77 * 2) ^ 4 < 10 ^ 310 := by
    have htens : 310 = 77 * 4 + 2 := rfl
    rw [mul_pow, ← pow_mul, htens, pow_add]
    exact Nat.mul_lt_mul_of_pos_left (by decide) (by positivity)
  have htwos : 1024 = 256 * 4 := rfl
  rw [htwos, pow_mul]
  exact (Nat.pow_lt_pow_left hbase (by decide)).trans hbound

/-- Powers of two past that one are below powers of ten past the other. -/
theorem two_pow_lt_ten_pow {k l : ℕ} (h : 2 ^ k ≤ 10 ^ l) : 2 ^ (1024 + k) < 10 ^ (310 + l) := by
  rw [pow_add, pow_add]
  exact Nat.mul_lt_mul_of_lt_of_le overflow_lt h (by positivity)

/-! ## Canonical forms -/

/-- The two bounds on the significand of a canonical form, with numerals as the bounds. -/
theorem Canonical.bounds {significand scale : ℕ} (h : Canonical significand scale) :
    significand < 2 ^ 53 ∧ (2 ^ 52 ≤ significand ∨ scale = 0) :=
  ⟨h.fits, h.normal⟩

/-- The scale of a canonical form is the one at which its magnitude fills 53 bits. -/
theorem log2_units {significand scale : ℕ} (h : Canonical significand scale) :
    Nat.log2 (units significand scale) - 52 = scale := by
  rw [units_eq]
  obtain ⟨hfits, hnormal⟩ := h.bounds
  rcases Nat.eq_zero_or_pos significand with rfl | hpos
  -- The significand zero does not fill any bits, so its scale is the smallest one.
  · rw [zero_mul, Nat.log2_zero]
    omega
  · have hne : significand * 2 ^ scale ≠ 0 := (Nat.mul_pos hpos (Nat.two_pow_pos scale)).ne'
    have hlt : Nat.log2 (significand * 2 ^ scale) < 53 + scale := by
      rw [Nat.log2_lt hne, pow_add]
      exact Nat.mul_lt_mul_of_pos_right hfits (Nat.two_pow_pos scale)
    rcases hnormal with hfull | hzero
    · have hle : 52 + scale ≤ Nat.log2 (significand * 2 ^ scale) := by
        rw [Nat.le_log2 hne, pow_add]
        exact Nat.mul_le_mul_right _ hfull
      omega
    · omega

/-- The value of a canonical form is rounded to the double of that form. -/
theorem nearest_units (negative : Bool) {significand scale : ℕ}
    (h : Canonical significand scale) :
    nearest negative (units significand scale) unit = .finite negative significand scale h := by
  have hden : 0 < unit * Nat.pow 2 scale := Nat.mul_pos unit_pos (Nat.two_pow_pos scale)
  have hround :
      halfEven (units significand scale * unit) (unit * Nat.pow 2 scale) = significand := by
    have : units significand scale * unit = significand * (unit * Nat.pow 2 scale) := by
      unfold units
      ring
    rw [this, halfEven_mul_self _ hden]
  have hfits : significand ≠ Nat.pow 2 53 := h.fits.ne
  unfold nearest
  simp only [Nat.mul_div_cancel _ unit_pos, log2_units h, hround, hfits, if_false]
  exact dif_pos h

/-! ## Decimals -/

/-- Within the range in which powers of ten are computed, a decimal is rounded as the
quotient that it stands for. -/
theorem ofDecimal_eq_nearest (negative : Bool) {coefficient : ℕ} {exponent : ℤ}
    (hne : coefficient ≠ 0)
    (hle : exponent + (Nat.toDigits 10 coefficient).length ≤ 310)
    (hge : -330 ≤ exponent + (Nat.toDigits 10 coefficient).length) :
    ofDecimal negative coefficient exponent =
      nearest negative (coefficient * 10 ^ exponent.toNat) (10 ^ (-exponent).toNat) := by
  have hle' : ¬ 310 < exponent + (Nat.toDigits 10 coefficient).length := by omega
  have hge' : ¬ exponent + (Nat.toDigits 10 coefficient).length < -330 := by omega
  unfold ofDecimal
  simp only [hne, hle', hge', if_false]
  split_ifs with hexp
  · simp [Int.toNat_of_nonpos (neg_nonpos.2 hexp)]
  · simp [Int.toNat_of_nonpos (not_le.1 hexp).le]

/-- A power of ten may move from the coefficient of a decimal into its exponent. -/
theorem ofDecimal_mul_pow (negative : Bool) (coefficient k : ℕ) (exponent : ℤ) :
    ofDecimal negative (coefficient * 10 ^ k) exponent =
      ofDecimal negative coefficient (exponent + k) := by
  rcases Nat.eq_zero_or_pos coefficient with rfl | hpos
  · simp [ofDecimal]
  have hlength : exponent + ((Nat.toDigits 10 (coefficient * 10 ^ k)).length : ℤ) =
      exponent + k + (Nat.toDigits 10 coefficient).length := by
    rw [Text.toDigits_mul_pow hpos, List.length_append, List.length_replicate]
    push_cast
    ring
  have hne : coefficient * 10 ^ k ≠ 0 := (Nat.mul_pos hpos (Nat.pow_pos (by decide))).ne'
  -- The decimals have one length with their exponents, so both are cut off or neither is.
  by_cases hle : exponent + k + (Nat.toDigits 10 coefficient).length ≤ 310
  · by_cases hge : -330 ≤ exponent + k + (Nat.toDigits 10 coefficient).length
    · rw [ofDecimal_eq_nearest negative hne (by omega) (by omega),
        ofDecimal_eq_nearest negative hpos.ne' hle hge]
      refine nearest_congr negative (Nat.pow_pos (by decide)) (Nat.pow_pos (by decide)) ?_
      have hexp : k + exponent.toNat + (-(exponent + k)).toNat =
          (exponent + k).toNat + (-exponent).toNat := by omega
      calc coefficient * 10 ^ k * 10 ^ exponent.toNat * 10 ^ (-(exponent + k)).toNat
          = coefficient * 10 ^ (k + exponent.toNat + (-(exponent + k)).toNat) := by ring
        _ = coefficient * 10 ^ (exponent + k).toNat * 10 ^ (-exponent).toNat := by
          rw [hexp]
          ring
    · have hlow : exponent + k + (Nat.toDigits 10 coefficient).length < -330 := not_le.1 hge
      simp [ofDecimal, hpos.ne', hlength, hlow, not_lt.2 hle]
  · have hhigh : 310 < exponent + k + (Nat.toDigits 10 coefficient).length := not_le.1 hle
    simp [ofDecimal, hpos.ne', hlength, hhigh]

/-! ## Signs -/

theorem ofParts_true (significand scale : ℕ) :
    ofParts true significand scale = (ofParts false significand scale).neg := by
  unfold ofParts
  split_ifs <;> rfl

theorem nearest_true (num den : ℕ) : nearest true num den = (nearest false num den).neg := by
  unfold nearest
  dsimp only
  split_ifs <;> exact ofParts_true _ _

/-- The sign of a decimal only turns the double that it is rounded to. -/
theorem ofDecimal_true (coefficient : ℕ) (exponent : ℤ) :
    ofDecimal true coefficient exponent = (ofDecimal false coefficient exponent).neg := by
  unfold ofDecimal
  dsimp only
  split_ifs <;> first | rfl | exact nearest_true _ _

/-! ## Exact values -/

/-- A signed quotient other than zero is rounded by its magnitude, under its sign. -/
theorem ofRat_mkRat (negative : Bool) {num den : ℕ} (hnum : 0 < num) (hden : 0 < den) :
    ofRat (mkRat (if negative then -(num : ℤ) else num) den) = nearest negative num den := by
  set n : ℤ := if negative then -(num : ℤ) else num with hn
  have habs : n.natAbs = num := by cases negative <;> simp [hn]
  -- A fraction in lowest terms is equal to the given one, so the terms agree crosswise.
  have hcross : (mkRat n den).num * den = n * (mkRat n den).den := by
    rw [← Rat.mkRat_eq_iff (Rat.den_nz _) hden.ne', Rat.mkRat_self]
  have hqden : 0 < (mkRat n den).den := (mkRat n den).den_pos
  have hcrossAbs : (mkRat n den).num.natAbs * den = num * (mkRat n den).den := by
    have := congrArg Int.natAbs hcross
    rwa [Int.natAbs_mul, Int.natAbs_mul, Int.natAbs_natCast, Int.natAbs_natCast, habs] at this
  have hsign : decide ((mkRat n den).num < 0) = negative := by
    have hiff : (mkRat n den).num < 0 ↔ n < 0 := by
      constructor
      · intro hlt
        have := mul_neg_of_neg_of_pos hlt (Int.natCast_pos.2 hden)
        rw [hcross] at this
        exact neg_of_mul_neg_left this (Int.natCast_pos.2 hqden).le
      · intro hlt
        have := mul_neg_of_neg_of_pos hlt (Int.natCast_pos.2 hqden)
        rw [← hcross] at this
        exact neg_of_mul_neg_left this (Int.natCast_pos.2 hden).le
    have hneg : n < 0 ↔ negative = true := by cases negative <;> simp [hn, hnum]
    rw [Bool.eq_iff_iff, decide_eq_true_iff]
    exact hiff.trans hneg
  unfold ofRat
  rw [hsign]
  exact nearest_congr negative hqden hden hcrossAbs

/-- The exact value of a finite double is zero exactly when its significand is. -/
theorem mkRat_units_eq_zero_iff (negative : Bool) (significand scale : ℕ) :
    mkRat (if negative then -(units significand scale : ℤ) else units significand scale) unit = 0
      ↔ significand = 0 := by
  have hunits : units significand scale = 0 ↔ significand = 0 := by simp [units]
  rw [Rat.mkRat_eq_zero unit_pos.ne']
  cases negative <;> simp [hunits]

/-- The exact value of a double other than zero is rounded to that double. -/
theorem ofRat_of_toRat? {x : Binary64} {q : ℚ} (hx : x.toRat? = some q) (hq : q ≠ 0) :
    ofRat q = x := by
  cases x with
  | nan => simp [toRat?] at hx
  | infinite negative => simp [toRat?] at hx
  | finite negative significand scale h =>
    simp only [toRat?, Option.some.injEq] at hx
    subst hx
    have hne : significand ≠ 0 := fun hzero =>
      hq ((mkRat_units_eq_zero_iff negative significand scale).2 hzero)
    have hpos : 0 < units significand scale :=
      Nat.mul_pos (Nat.pos_of_ne_zero hne) (Nat.two_pow_pos scale)
    rw [ofRat_mkRat negative hpos unit_pos, nearest_units negative h]

end Conform.Binary64
