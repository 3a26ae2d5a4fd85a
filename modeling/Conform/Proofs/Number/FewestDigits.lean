import Conform.Proofs.Number.NearestDouble
import Conform.Proofs.Number.Shortest
import Mathlib.Data.Nat.Cast.Order.Field

/-!
# Shortest decimals have the fewest digits

The decimal chosen for a positive double has no zeros at its end, at most seventeen digits, and no
more digits than any other decimal that is read as the double (`length_chars_le_of_readsAs`).

A decimal with fewer digits would lie on a coarser grid, or below the power of ten under the double.
In either case something on a grid that is searched earlier lies between it and the double, and what
lies between two numbers that are read alike is read like them.
-/

namespace Conform.ShortDecimal

open Binary64

/-- The exact value. -/
def toRat (d : ShortDecimal) : ℚ := d.digits * 10 ^ d.exponent

/-! ## Zeros at the end -/

/-- Moving zeros into the exponent leaves none at the end of the digits, if there are enough steps
for the number of digits. -/
theorem trimZeros_spec {fuel : ℕ} {d : ShortDecimal} (hpos : 0 < d.digits)
    (hfuel : d.digits < 10 ^ fuel) :
    (trimZeros fuel d).digits % 10 ≠ 0 ∧
      ∃ k : ℕ, d.digits = (trimZeros fuel d).digits * 10 ^ k ∧
        (trimZeros fuel d).exponent = d.exponent + k := by
  induction fuel generalizing d with
  | zero => omega
  | succ fuel ih =>
    unfold trimZeros
    split_ifs with hzero
    · have hfuel' : d.digits / 10 < 10 ^ fuel := by
        rw [pow_succ] at hfuel
        omega
      obtain ⟨hend, k, hdigits, hexp⟩ :=
        ih (d := ⟨d.digits / 10, d.exponent + 1⟩) (show 0 < d.digits / 10 by omega) hfuel'
      refine ⟨hend, k + 1, ?_, ?_⟩
      · rw [pow_succ, ← mul_assoc, ← hdigits]
        show d.digits = d.digits / 10 * 10
        omega
      · rw [hexp]
        push_cast
        ring
    · refine ⟨by omega, 0, by simp, by simp⟩

/-- A decimal without zeros at its end, and the zeros that it lacks. -/
theorem trimmed_spec {d : ShortDecimal} (hpos : 0 < d.digits) :
    d.trimmed.digits % 10 ≠ 0 ∧
      ∃ k : ℕ, d.digits = d.trimmed.digits * 10 ^ k ∧ d.trimmed.exponent = d.exponent + k :=
  trimZeros_spec hpos ((Text.length_toDigits_le_iff Nat.length_toDigits_pos).1 le_rfl)

/-- Digits up to a power of ten, that power included, become digits below it. -/
theorem trimmed_digits_lt {d : ShortDecimal} {n : ℕ} (hpos : 0 < d.digits)
    (hle : d.digits ≤ 10 ^ n) (hn : 0 < n) : d.trimmed.digits < 10 ^ n := by
  obtain ⟨hend, k, hdigits, -⟩ := trimmed_spec hpos
  rcases Nat.eq_zero_or_pos k with rfl | hk
  · -- No zero was moved, so the digits are not that power.
    rw [pow_zero, mul_one] at hdigits
    refine lt_of_le_of_ne (hdigits ▸ hle) fun heq => ?_
    obtain ⟨n, rfl⟩ := Nat.exists_eq_add_of_lt hn
    rw [heq, zero_add, pow_succ] at hend
    omega
  · refine lt_of_lt_of_le ?_ hle
    rw [hdigits]
    refine lt_mul_of_one_lt_right (Nat.pos_of_ne_zero fun hzero => ?_) ?_
    · rw [hzero] at hend
      exact hend rfl
    · exact Nat.one_lt_pow hk.ne' (by decide)

/-! ## Reading back -/

variable {significand scale : ℕ} {h : Canonical significand scale} {d : ShortDecimal}

/-- A decimal that is read as a positive double is positive. -/
theorem digits_pos_of_readsAs (hpos : 0 < significand)
    (hreads : d.ReadsAs (.finite false significand scale h)) : 0 < d.digits := by
  refine Nat.pos_of_ne_zero fun hzero => hpos.ne ?_
  have hread : ofDecimal false 0 d.exponent = .finite false significand scale h := hzero ▸ hreads
  simp only [ofDecimal, if_true, Binary64.zero, finite.injEq] at hread
  exact hread.2.1

/-- A positive decimal is read as a double exactly if it is rounded to its form. -/
theorem readsAs_iff_rounds (hd : 0 < d.digits) :
    d.ReadsAs (.finite false significand scale h) ↔ Rounds (d.toRat * unit) significand scale :=
  ofDecimal_eq_iff_rounds hd d.exponent h

/-- The magnitude of a double. -/
def magnitudeOf (significand scale : ℕ) : ℚ := units significand scale / unit

theorem magnitudeOf_mul_unit (significand scale : ℕ) :
    magnitudeOf significand scale * unit = significand * 2 ^ scale := by
  rw [magnitudeOf, div_mul_cancel₀ _ unit_cast_pos.ne', units_eq]
  push_cast
  rfl

/-- The magnitude of a double is rounded to its form. -/
theorem rounds_magnitudeOf (h : Canonical significand scale) :
    Rounds (magnitudeOf significand scale * unit) significand scale := by
  rw [magnitudeOf_mul_unit]
  exact rounds_self h.bounds.1 h.bounds.2

/-- What lies between the double and a decimal that is read as it is read as it. -/
theorem readsAs_of_between {d' : ShortDecimal} (hd : 0 < d.digits) (hd' : 0 < d'.digits)
    (hreads : d.ReadsAs (.finite false significand scale h))
    (hbetween : d.toRat ≤ d'.toRat ∧ d'.toRat ≤ magnitudeOf significand scale ∨
      magnitudeOf significand scale ≤ d'.toRat ∧ d'.toRat ≤ d.toRat) :
    d'.ReadsAs (.finite false significand scale h) := by
  have hunit := unit_cast_pos.le
  have hrounds := (readsAs_iff_rounds hd).1 hreads
  have hself := rounds_magnitudeOf h
  rw [readsAs_iff_rounds hd']
  rcases hbetween with ⟨hlow, hhigh⟩ | ⟨hlow, hhigh⟩
  · exact hrounds.between hself (mul_le_mul_of_nonneg_right hlow hunit)
      (mul_le_mul_of_nonneg_right hhigh hunit)
  · exact hself.between hrounds (mul_le_mul_of_nonneg_right hlow hunit)
      (mul_le_mul_of_nonneg_right hhigh hunit)

/-- What is closer to the double than its `2 ^ 54`th part is read as it. -/
theorem readsAs_of_close
    (hclose : 2 ^ 54 * |d.toRat - magnitudeOf significand scale| < magnitudeOf significand scale) :
    d.ReadsAs (.finite false significand scale h) := by
  have hd : 0 < d.digits := by
    refine Nat.pos_of_ne_zero fun hzero => ?_
    rw [toRat, hzero, Nat.cast_zero, zero_mul, zero_sub, abs_neg] at hclose
    linarith [le_abs_self (magnitudeOf significand scale),
      abs_nonneg (magnitudeOf significand scale)]
  refine (readsAs_iff_rounds hd).2 (rounds_of_close h.bounds.1 h.bounds.2 ?_)
  rw [← magnitudeOf_mul_unit, ← sub_mul, abs_mul, abs_of_pos unit_cast_pos, ← mul_assoc]
  exact mul_lt_mul_of_pos_right hclose unit_cast_pos

/-! ## Grids -/

/-- The quotient on a grid, counted in its steps. -/
theorem onGrid_spec (num : ℕ) {den : ℕ} (hden : 0 < den) (exponent : ℤ) :
    0 < (onGrid num den exponent).2 ∧
      ((onGrid num den exponent).1 / (onGrid num den exponent).2 : ℚ) =
        num / den / 10 ^ exponent := by
  unfold onGrid
  rw [pow_ten_eq_div]
  split_ifs with hexp
  · refine ⟨Nat.mul_pos hden (Nat.pow_pos (by decide)), ?_⟩
    rw [Int.toNat_of_nonpos (neg_nonpos.2 hexp), pow_zero, div_one, div_div]
    push_cast [Nat.pow_eq]
    rfl
  · refine ⟨hden, ?_⟩
    rw [Int.toNat_of_nonpos (not_le.1 hexp).le, pow_zero, one_div, div_inv_eq_mul, div_mul_eq_mul_div]
    push_cast [Nat.pow_eq]
    rfl

/-- The neighbour of a quotient on a grid that is not above it. -/
def below (num den : ℕ) (exponent : ℤ) : ShortDecimal :=
  ⟨(onGrid num den exponent).1 / (onGrid num den exponent).2, exponent⟩

/-- The neighbour of a quotient on a grid that is above it. -/
def above (num den : ℕ) (exponent : ℤ) : ShortDecimal :=
  ⟨(onGrid num den exponent).1 / (onGrid num den exponent).2 + 1, exponent⟩

variable {num den : ℕ} {exponent : ℤ} {x : Binary64}

/-- The two neighbours are around the quotient. -/
theorem neighbours_around (num : ℕ) (exponent : ℤ) (hden : 0 < den) :
    (below num den exponent).toRat ≤ num / den ∧ (num / den : ℚ) < (above num den exponent).toRat := by
  obtain ⟨hbottom, hquotient⟩ := onGrid_spec num hden exponent
  have hbottom' : (0 : ℚ) < (onGrid num den exponent).2 := by exact_mod_cast hbottom
  have hpow : (0 : ℚ) < 10 ^ exponent := by positivity
  have hscaled : (num / den : ℚ) =
      (onGrid num den exponent).1 / (onGrid num den exponent).2 * 10 ^ exponent := by
    rw [hquotient, div_mul_cancel₀ _ hpow.ne']
  rw [hscaled]
  constructor
  · refine mul_le_mul_of_nonneg_right ?_ hpow.le
    exact Nat.cast_div_le
  · refine mul_lt_mul_of_pos_right ?_ hpow
    rw [div_lt_iff₀ hbottom']
    exact_mod_cast (Nat.div_lt_iff_lt_mul hbottom).1 (Nat.lt_succ_self _)

/-- A decimal on the grid is not above the lower neighbour, or not below the upper one. -/
theorem le_below_or_above_le (num : ℕ) (exponent : ℤ) (hden : 0 < den) (j : ℕ) :
    (j * 10 ^ exponent : ℚ) ≤ num / den ∧ (j * 10 ^ exponent : ℚ) ≤ (below num den exponent).toRat ∨
      (num / den : ℚ) < j * 10 ^ exponent ∧ (above num den exponent).toRat ≤ j * 10 ^ exponent := by
  have hpow : (0 : ℚ) < 10 ^ exponent := by positivity
  obtain ⟨hlow, hhigh⟩ := neighbours_around num exponent hden
  rcases le_or_gt j (below num den exponent).digits with hj | hj
  · have hle : (j * 10 ^ exponent : ℚ) ≤ (below num den exponent).toRat :=
      mul_le_mul_of_nonneg_right (by exact_mod_cast hj) hpow.le
    exact .inl ⟨hle.trans hlow, hle⟩
  · have hle : (above num den exponent).toRat ≤ j * 10 ^ exponent :=
      mul_le_mul_of_nonneg_right (by exact_mod_cast hj) hpow.le
    exact .inr ⟨hhigh.trans_le hle, hle⟩

/-- Rounding a quotient to a grid gives one of its two neighbours on it. -/
theorem halfEven_eq_below_or_above (num den : ℕ) (exponent : ℤ) :
    (⟨halfEven (onGrid num den exponent).1 (onGrid num den exponent).2, exponent⟩ : ShortDecimal) =
        below num den exponent ∨
      (⟨halfEven (onGrid num den exponent).1 (onGrid num den exponent).2, exponent⟩ : ShortDecimal) =
        above num den exponent := by
  rcases halfEven_eq_or (onGrid num den exponent).1 (onGrid num den exponent).2 with heq | heq
  · exact .inl (by rw [heq]; rfl)
  · exact .inr (by rw [heq]; rfl)

/-- The neighbour of a quotient on a grid that is closer to it is at most half a step away. -/
theorem exists_abs_toRat_sub_le (num : ℕ) (exponent : ℤ) (hden : 0 < den) :
    ∃ d, (d = below num den exponent ∨ d = above num den exponent) ∧
      |d.toRat - num / den| ≤ 10 ^ exponent / 2 := by
  obtain ⟨hbottom, hquotient⟩ := onGrid_spec num hden exponent
  obtain ⟨hhalf, -⟩ := abs_sub_halfEven_le (onGrid num den exponent).1 hbottom
  have hstep : (0 : ℚ) < 10 ^ exponent := by positivity
  have hscaled : (num / den : ℚ) =
      (onGrid num den exponent).1 / (onGrid num den exponent).2 * 10 ^ exponent := by
    rw [hquotient, div_mul_cancel₀ _ hstep.ne']
  refine ⟨_, halfEven_eq_below_or_above num den exponent, ?_⟩
  rw [toRat, hscaled, ← sub_mul, abs_mul, abs_of_pos hstep, abs_sub_comm]
  linarith [mul_le_mul_of_nonneg_right hhalf hstep.le]

/-- A grid is taken exactly if one of the two neighbours on it reads back. -/
theorem isSome_neighbour?_iff :
    (neighbour? num den x exponent).isSome ↔
      (below num den exponent).ReadsAs x ∨ (above num den exponent).ReadsAs x := by
  unfold neighbour? below above
  dsimp only
  split_ifs with hlow hhigh hhigh <;> simp [*]

/-- What is taken from a grid is one of the two neighbours on it. -/
theorem eq_below_or_above (h : neighbour? num den x exponent = some d) :
    d = below num den exponent ∨ d = above num den exponent := by
  unfold neighbour? at h
  dsimp only at h
  split_ifs at h
  · obtain rfl := Option.some.inj h
    exact halfEven_eq_below_or_above num den exponent
  · exact .inl (Option.some.inj h).symm
  · exact .inr (Option.some.inj h).symm

/-- On a grid that ends so many digits after the point of a quotient, a neighbour of it has no more
digits, or is the power of ten that follows them. -/
theorem digits_le_of_neighbour? (hden : 0 < den) {point : ℤ} {n : ℕ}
    (hlt : (num / den : ℚ) < 10 ^ point) (h : neighbour? num den x (point - n) = some d) :
    d.digits ≤ 10 ^ n := by
  obtain ⟨hlow, -⟩ := neighbours_around num (point - n) hden
  have hpow : (0 : ℚ) < 10 ^ (point - n) := by positivity
  have hscaled : (10 : ℚ) ^ point = 10 ^ n * 10 ^ (point - n) := by
    rw [← zpow_natCast (10 : ℚ) n, ← zpow_add₀ (by norm_num), add_sub_cancel]
  have hbelow : (below num den (point - n)).digits < 10 ^ n := by
    have := hlow.trans_lt (hlt.trans_eq hscaled)
    exact_mod_cast lt_of_mul_lt_mul_right this hpow.le
  rcases eq_below_or_above h with rfl | rfl
  · exact hbelow.le
  · exact hbelow

/-! ## The point of a quotient -/

/-- A quotient that is cut to a whole number of steps of a grid keeps the powers of ten around it,
if it has at least one such step. -/
theorem bounds_of_cut (hden : 0 < den) (k : ℕ) (hle : den ≤ num * 10 ^ k) :
    (10 : ℚ) ^ (((Nat.toDigits 10 (num * 10 ^ k / den)).length : ℤ) - k - 1) ≤ num / den ∧
      (num / den : ℚ) < 10 ^ (((Nat.toDigits 10 (num * 10 ^ k / den)).length : ℤ) - k) := by
  have hden' : (0 : ℚ) < den := by exact_mod_cast hden
  have hpow : (0 : ℚ) < 10 ^ k := by positivity
  have hpow' : (0 : ℚ) < 10 ^ (-k : ℤ) := by positivity
  set whole := num * 10 ^ k / den with hwhole
  have hpos : 0 < whole := Nat.div_pos hle hden
  obtain ⟨hlow, -⟩ := decimal_bounds hpos (-k)
  have hscaled : (num / den : ℚ) = num * 10 ^ k / den * 10 ^ (-k : ℤ) := by
    rw [zpow_neg, zpow_natCast, ← div_eq_mul_inv, div_right_comm, mul_div_cancel_right₀ _ hpow.ne']
  have hexp : ((Nat.toDigits 10 whole).length : ℤ) - k = -k + (Nat.toDigits 10 whole).length := by
    ring
  rw [hexp, hscaled]
  constructor
  · refine hlow.trans (mul_le_mul_of_nonneg_right ?_ hpow'.le)
    have := Nat.cast_div_le (α := ℚ) (m := num * 10 ^ k) (n := den)
    rwa [← hwhole, Nat.cast_mul, Nat.cast_pow, Nat.cast_ofNat] at this
  · rw [zpow_add₀ (by norm_num), zpow_natCast, mul_comm ((10 : ℚ) ^ (-k : ℤ))]
    refine mul_lt_mul_of_pos_right ?_ hpow'
    rw [div_lt_iff₀ hden']
    have hlt : whole < 10 ^ (Nat.toDigits 10 whole).length :=
      (Text.length_toDigits_le_iff Nat.length_toDigits_pos).1 le_rfl
    exact_mod_cast (Nat.div_lt_iff_lt_mul hden).1 hlt

/-- The point of a quotient is found by such a cut. -/
theorem magnitude_eq (num den : ℕ) {k : ℕ} (hk : 400 = k) :
    magnitude num den = ((Nat.toDigits 10 (num * 10 ^ k / den)).length : ℤ) - k := by
  have hcast : (400 : ℤ) = k := by exact_mod_cast hk
  unfold magnitude
  rw [hcast]
  -- The constant is made a variable, so that its power of ten is never computed.
  generalize 400 = l at hk ⊢
  subst hk
  rfl

/-- A quotient lies between the powers of ten around its point. -/
theorem magnitude_bounds (hden : 0 < den) (hle : den ≤ num * 10 ^ 400) :
    (10 : ℚ) ^ (magnitude num den - 1) ≤ num / den ∧ (num / den : ℚ) < 10 ^ magnitude num den := by
  rw [magnitude_eq num den rfl]
  exact bounds_of_cut hden 400 hle

/-- The magnitude of every positive double is large enough for its point to be found. -/
theorem unit_le_units_mul (hpos : 0 < significand) : unit ≤ units significand scale * 10 ^ 400 := by
  have hunit : unit ≤ 10 ^ 400 := by
    have htwos : 1074 = 1024 + 50 := rfl
    have htens : 400 = 310 + 90 := rfl
    rw [unit_eq, htwos, htens]
    exact (two_pow_lt_ten_pow (by decide)).le
  have hunits : 0 < units significand scale := Nat.mul_pos hpos (Nat.two_pow_pos scale)
  exact hunit.trans (Nat.le_mul_of_pos_left _ hunits)

/-! ## The search -/

section Search

variable (hpos : 0 < significand)
include hpos

/-- The double lies between the powers of ten around its point. -/
theorem magnitudeOf_bounds (scale : ℕ) :
    (10 : ℚ) ^ (magnitude (units significand scale) unit - 1) ≤ magnitudeOf significand scale ∧
      magnitudeOf significand scale < 10 ^ magnitude (units significand scale) unit :=
  magnitude_bounds unit_pos (unit_le_units_mul hpos)

/-- A grid with a point between the double and a decimal that reads back is taken. -/
theorem isSome_neighbour?_of_between (hreads : d.ReadsAs (.finite false significand scale h)) {j : ℕ}
    (hj : 0 < j) {exponent : ℤ}
    (hbetween : d.toRat ≤ j * 10 ^ exponent ∧
        (j * 10 ^ exponent : ℚ) ≤ magnitudeOf significand scale ∨
      magnitudeOf significand scale ≤ j * 10 ^ exponent ∧ (j * 10 ^ exponent : ℚ) ≤ d.toRat) :
    (neighbour? (units significand scale) unit (.finite false significand scale h)
      exponent).isSome := by
  have hpoint : (⟨j, exponent⟩ : ShortDecimal).ReadsAs (.finite false significand scale h) :=
    readsAs_of_between (digits_pos_of_readsAs hpos hreads) hj hreads hbetween
  obtain ⟨hlow, hhigh⟩ :=
    neighbours_around (units significand scale) exponent unit_pos
  rw [isSome_neighbour?_iff]
  rcases le_below_or_above_le (units significand scale) exponent unit_pos j
    with ⟨-, hle⟩ | ⟨-, hle⟩
  · refine .inl (readsAs_of_between hj ?_ hpoint (.inl ⟨hle, hlow⟩))
    -- What is not below a positive number on the grid is positive.
    refine Nat.pos_of_ne_zero fun hzero => ?_
    rw [toRat, hzero, Nat.cast_zero, zero_mul] at hle
    exact absurd hle (not_le.2 (by positivity))
  · exact .inr (readsAs_of_between hj (Nat.succ_pos _) hpoint (.inr ⟨hhigh.le, hle⟩))

/-- Seventeen digits are enough: on their grid, the neighbour that is closer reads back. -/
theorem isSome_neighbour?_seventeen (h : Canonical significand scale) :
    (neighbour? (units significand scale) unit (.finite false significand scale h)
      (magnitude (units significand scale) unit - 17)).isSome := by
  set exponent := magnitude (units significand scale) unit - 17 with hexponent
  obtain ⟨hlow, -⟩ := magnitudeOf_bounds hpos scale
  have hlarge : 10 ^ 16 * 10 ^ exponent ≤ magnitudeOf significand scale := by
    refine le_trans (le_of_eq ?_) hlow
    rw [← zpow_natCast (10 : ℚ) 16, ← zpow_add₀ (by norm_num), hexponent]
    congr 1
    push_cast
    ring
  obtain ⟨d, hd, hdist⟩ := exists_abs_toRat_sub_le (units significand scale) exponent unit_pos
  -- Half a step is less than the `2 ^ 54`th part of the double.
  have hreads : d.ReadsAs (.finite false significand scale h) := by
    refine readsAs_of_close (lt_of_le_of_lt (mul_le_mul_of_nonneg_left hdist (by positivity)) ?_)
    linarith [show (0 : ℚ) < 10 ^ exponent by positivity]
  rw [isSome_neighbour?_iff]
  rcases hd with rfl | rfl
  · exact .inl hreads
  · exact .inr hreads

/-- A grid of no more digits than a decimal that reads back has is taken. -/
theorem exists_isSome_neighbour? (hreads : d.ReadsAs (.finite false significand scale h)) :
    ∃ i : ℕ, i < d.chars.length ∧ i < 17 ∧
      (neighbour? (units significand scale) unit (.finite false significand scale h)
        (magnitude (units significand scale) unit - (i + 1 : ℕ))).isSome := by
  have hd := digits_pos_of_readsAs hpos hreads
  set point := magnitude (units significand scale) unit with hpoint
  obtain ⟨hlow, -⟩ := magnitudeOf_bounds hpos scale
  rw [← hpoint] at hlow
  have hlength : 0 < d.chars.length := Nat.length_toDigits_pos
  rcases Nat.lt_or_ge d.chars.length 17 with hfew | hmany
  · rcases le_or_gt (point - d.chars.length) d.exponent with hgrid | hfine
    · -- The decimal lies on the grid of its number of digits.
      refine ⟨d.chars.length - 1, by omega, by omega, ?_⟩
      obtain ⟨k, hk⟩ := Int.le.dest hgrid
      have hcount : ((d.chars.length - 1 + 1 : ℕ) : ℤ) = d.chars.length := by omega
      have hvalue : ((d.digits * 10 ^ k : ℕ) : ℚ) * 10 ^ (point - d.chars.length) = d.toRat := by
        rw [toRat, ← hk, zpow_add₀ (by norm_num), zpow_natCast]
        push_cast
        ring
      rw [hcount]
      refine isSome_neighbour?_of_between hpos hreads
        (Nat.mul_pos hd (show 0 < 10 ^ k by positivity)) ?_
      rw [hvalue]
      exact (le_total d.toRat (magnitudeOf significand scale)).imp (fun hle => ⟨le_rfl, hle⟩)
        fun hle => ⟨hle, le_rfl⟩
    · -- The decimal is below the power of ten under the double, which lies on the coarsest grid.
      refine ⟨0, hlength, by omega, ?_⟩
      obtain ⟨-, hhigh⟩ := decimal_bounds hd d.exponent
      have hle : d.toRat ≤ 10 ^ (point - 1) := by
        refine hhigh.le.trans (zpow_le_zpow_right₀ (by norm_num) ?_)
        have : ((Nat.toDigits 10 d.digits).length : ℤ) = d.chars.length := rfl
        omega
      refine isSome_neighbour?_of_between hpos hreads one_pos (.inl ?_)
      rw [Nat.cast_one, one_mul]
      exact ⟨hle, hlow⟩
  · exact ⟨16, by omega, by omega, isSome_neighbour?_seventeen hpos h⟩

end Search

/-- A search among the first numbers ends no later than at one that is found. -/
theorem exists_findSome?_range {α : Type} {f : ℕ → Option α} {n j : ℕ} (hj : j < n)
    (hsome : (f j).isSome) :
    ∃ i ≤ j, ∃ a, f i = some a ∧ (List.range n).findSome? f = some a := by
  induction n with
  | zero => omega
  | succ n ih =>
    rw [List.range_succ, List.findSome?_append]
    rcases Nat.lt_or_ge j n with hlt | hge
    · obtain ⟨i, hi, a, ha, hfind⟩ := ih hlt
      exact ⟨i, hi, a, ha, by rw [hfind]; rfl⟩
    · obtain rfl : j = n := by omega
      cases hfind : (List.range j).findSome? f with
      | some a =>
        obtain ⟨i, hi, ha⟩ := List.exists_of_findSome?_eq_some hfind
        exact ⟨i, (List.mem_range.1 hi).le, a, ha, rfl⟩
      | none =>
        obtain ⟨a, ha⟩ := Option.isSome_iff_exists.1 hsome
        exact ⟨j, le_rfl, a, ha, by simp [ha]⟩

/-! ## What is found -/

section Found

variable (hpos : 0 < significand)
include hpos

/-- The decimal that is chosen is a neighbour of the double on a grid, without the zeros at its end,
and the grid has no more digits than a decimal that reads back. -/
theorem exists_ofParts_eq (hreads : d.ReadsAs (.finite false significand scale h)) :
    ∃ (i : ℕ) (found : ShortDecimal), i < d.chars.length ∧ i < 17 ∧
      neighbour? (units significand scale) unit (.finite false significand scale h)
        (magnitude (units significand scale) unit - (i + 1 : ℕ)) = some found ∧
      ofParts significand scale = found.trimmed := by
  obtain ⟨j, hj, hj', hsome⟩ := exists_isSome_neighbour? hpos hreads
  obtain ⟨i, hi, found, hfound, hfind⟩ := exists_findSome?_range
    (f := fun i => neighbour? (units significand scale) unit (.finite false significand scale h)
      (magnitude (units significand scale) unit - (i + 1 : ℕ))) hj' hsome
  have hparts : Binary64.ofParts false significand scale = .finite false significand scale h :=
    dif_pos h
  refine ⟨i, found, by omega, by omega, hfound, ?_⟩
  unfold ofParts
  dsimp only
  rw [hparts, List.findSome?_map, Function.comp_def, hfind, Option.getD_some]

/-- No decimal that is read as the double has fewer digits than the one that is chosen. -/
theorem length_chars_le_of_readsAs (hreads : d.ReadsAs (.finite false significand scale h)) :
    (ofParts significand scale).chars.length ≤ d.chars.length := by
  obtain ⟨i, found, hi, -, hfound, heq⟩ := exists_ofParts_eq hpos hreads
  have hle := digits_le_of_neighbour? unit_pos (magnitudeOf_bounds hpos scale).2 hfound
  rw [heq]
  refine le_trans ((Text.length_toDigits_le_iff (Nat.succ_pos i)).2 ?_) hi
  exact trimmed_digits_lt (digits_pos_of_readsAs hpos (readsAs_of_neighbour? hfound)) hle
    (Nat.succ_pos i)

end Found

end Conform.ShortDecimal
