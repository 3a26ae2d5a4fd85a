import Conform.Proofs.Number.Nearest
import Mathlib.Algebra.Order.Field.Power

/-!
# The double nearest to a number

What it means that a double is the one nearest to a rational number (`IsNearest`), and that the
rounding functions give it, whatever the size of the number and whatever its sign:

- `isNearest_ofRat`: for a rational number;
- `isNearest_ofDecimal`: for a decimal, whose powers of ten are only computed in range;
- `ofDecimal_eq_iff_rounds`: a decimal is read as a given positive double exactly if its magnitude
  is rounded to the significand and the scale of that double.
-/

namespace Conform.Binary64

/-! ## Signs -/

/-- A magnitude under a sign. -/
def signed (negative : Bool) (q : ℚ) : ℚ := if negative then -q else q

theorem abs_signed (negative : Bool) (q : ℚ) : |signed negative q| = |q| := by
  cases negative
  · rfl
  · exact abs_neg q

theorem signed_div (negative : Bool) (q r : ℚ) : signed negative (q / r) = signed negative q / r := by
  cases negative
  · rfl
  · exact (neg_div r q).symm

theorem signed_zero (negative : Bool) : signed negative 0 = 0 := by
  cases negative
  · rfl
  · exact neg_zero

/-- The sign of a magnitude other than zero shows. -/
theorem signed_lt_zero_iff {negative : Bool} {q : ℚ} (hq : 0 < q) :
    signed negative q < 0 ↔ negative = true := by
  cases negative
  · exact iff_of_false (not_lt.2 hq.le) Bool.false_ne_true
  · exact iff_of_true (neg_lt_zero.2 hq) rfl

/-- A choice by the sign of a number is one by the sign that its magnitude has. -/
theorem ite_signed_lt_zero {α : Type} {negative : Bool} {q : ℚ} (hq : 0 < q) (a b : α) :
    (if signed negative q < 0 then a else b) = if negative = true then a else b :=
  if_congr (signed_lt_zero_iff hq) rfl rfl

/-- Under one sign, two numbers are as far apart as their magnitudes. -/
theorem abs_signed_sub_signed (negative : Bool) (q r : ℚ) :
    |signed negative q - signed negative r| = |q - r| := by
  cases negative
  · rfl
  · show |-q - -r| = _
    rw [neg_sub_neg, abs_sub_comm]

/-- Under whatever signs, two numbers are at least as far apart as their magnitudes. -/
theorem abs_sub_le_abs_signed_sub (negative negative' : Bool) {q r : ℚ} (hq : 0 ≤ q) (hr : 0 ≤ r) :
    |q - r| ≤ |signed negative q - signed negative' r| := by
  have habs := abs_abs_sub_abs_le (signed negative q) (signed negative' r)
  rwa [abs_signed, abs_signed, abs_of_nonneg hq, abs_of_nonneg hr] at habs

/-- What is as far from a number under either sign has only zero for that number. -/
theorem eq_zero_of_abs_signed_sub {negative negative' : Bool} {q r : ℚ} (hq : 0 ≤ q) (hr : 0 ≤ r)
    (hne : signed negative' r ≠ signed negative r)
    (h : |signed negative q - signed negative' r| ≤ |q - r|) : q = 0 ∧ r ≠ 0 := by
  have hr' : r ≠ 0 := by
    rintro rfl
    cases negative <;> cases negative' <;> simp [signed] at hne
  have hsum : |signed negative q - signed negative' r| = q + r := by
    cases negative <;> cases negative'
    · exact absurd rfl hne
    · show |q - -r| = q + r
      rw [sub_neg_eq_add, abs_of_nonneg (add_nonneg hq hr)]
    · show |-q - r| = q + r
      rw [← neg_add', abs_neg, abs_of_nonneg (add_nonneg hq hr)]
    · exact absurd rfl hne
  have hpos : 0 < r := lt_of_le_of_ne hr hr'.symm
  rw [hsum, le_abs] at h
  refine ⟨?_, hr'⟩
  rcases h with h | h
  · linarith
  · linarith

/-! ## Values -/

/-- The exact value of a finite double: its magnitude in units, under its sign. -/
theorem toRat?_finite (negative : Bool) {m s : ℕ} (h : Canonical m s) :
    (finite negative m s h).toRat? = some (signed negative (m * 2 ^ s / unit)) := by
  refine congrArg some ?_
  rw [Rat.mkRat_eq_div, units_eq]
  cases negative
  · show (((m * 2 ^ s : ℕ) : ℤ) : ℚ) / _ = (m * 2 ^ s / unit : ℚ)
    push_cast
    rfl
  · show ((-((m * 2 ^ s : ℕ) : ℤ) : ℤ) : ℚ) / _ = -(m * 2 ^ s / unit : ℚ)
    push_cast
    rw [neg_div]

/-- A double with an exact value is a finite one. -/
theorem exists_of_toRat? {x : Binary64} {q : ℚ} (h : x.toRat? = some q) :
    ∃ negative m s, ∃ hc : Canonical m s,
      x = .finite negative m s hc ∧ q = signed negative (m * 2 ^ s / unit) := by
  cases x with
  | nan => simp [toRat?] at h
  | infinite negative => simp [toRat?] at h
  | finite negative m s hc =>
    rw [toRat?_finite] at h
    exact ⟨negative, m, s, hc, rfl, (Option.some.inj h).symm⟩

theorem cast_of_eq_pow_two {n k : ℕ} (h : n = 2 ^ k) : (n : ℚ) = 2 ^ k := by
  rw [h, Nat.cast_pow, Nat.cast_ofNat]

theorem unit_cast : (unit : ℚ) = 2 ^ 1074 := cast_of_eq_pow_two unit_eq

theorem unit_cast_pos : (0 : ℚ) < unit := by exact_mod_cast unit_pos

theorem magnitude_nonneg (m s : ℕ) : (0 : ℚ) ≤ m * 2 ^ s / unit :=
  div_nonneg (by positivity) unit_cast_pos.le

/-! ## Nearest doubles -/

/-- The magnitude from which on a number is past the largest finite double: the middle between that
double and what would follow it. -/
def overflowBound : ℚ := (2 ^ 54 - 1) * 2 ^ 970

/-- A double is the one nearest to a rational number: no finite double is closer, a tie goes to the
even significand, and past the range of finite doubles it is the infinity of the sign. -/
structure IsNearest (q : ℚ) (x : Binary64) : Prop where
  /-- It is a number. -/
  number : x ≠ .nan
  /-- It is infinite exactly for a number that is past the range of finite doubles. -/
  infinite_iff : x.isInfinite = true ↔ overflowBound ≤ |q|
  /-- No finite double is closer. -/
  closest : ∀ (p : ℚ) (y : Binary64) (p' : ℚ), x.toRat? = some p → y.toRat? = some p' →
    |q - p| ≤ |q - p'|
  /-- If another value is as close, the significand is even. -/
  even : ∀ negative m s h (p : ℚ), x = .finite negative m s h → x.toRat? = some p →
    ∀ (y : Binary64) (p' : ℚ), y.toRat? = some p' → p' ≠ p → |q - p'| = |q - p| → m % 2 = 0
  /-- The sign is that of the number. -/
  sign : q ≠ 0 → (x.isNegative = true ↔ q < 0)

/-- The units of the bound on magnitudes. -/
theorem overflowBound_mul_unit : overflowBound * unit = (2 ^ 54 - 1) * 2 ^ 2044 := by
  rw [overflowBound, unit_cast, mul_assoc, ← pow_add]

/-- What a magnitude is rounded to is finite exactly below the bound. -/
theorem Rounds.canonical_iff {q : ℚ} {m s : ℕ} (h : Rounds (q * unit) m s) :
    Canonical m s ↔ q < overflowBound := by
  have hunit := unit_cast_pos
  rw [← mul_lt_mul_iff_left₀ hunit, overflowBound_mul_unit, ← h.scale_le_iff 2044]
  exact ⟨fun hc => hc.bounded, fun hs => ⟨h.fits, h.normal, hs⟩⟩

/-- A distance from a number of units is one of units, scaled down. -/
theorem abs_sub_div_unit (q a : ℚ) : |q - a / unit| = |q * unit - a| / unit := by
  have hunit := unit_cast_pos
  calc |q - a / unit|
    _ = |(q * unit - a) / unit| := by rw [sub_div, mul_div_cancel_right₀ _ hunit.ne']
    _ = |q * unit - a| / unit := by rw [abs_div, abs_of_pos hunit]

section Signed

variable {negative negative' : Bool} {q : ℚ} {m s m' s' : ℕ}

/-- Under whatever signs, a number is at least as far from another as their units are apart. -/
theorem abs_units_sub_le (hq : 0 ≤ q) :
    |q * unit - m' * 2 ^ s'| / unit ≤
      |signed negative q - signed negative' (m' * 2 ^ s' / unit)| := by
  rw [← abs_sub_div_unit]
  exact abs_sub_le_abs_signed_sub negative negative' hq (magnitude_nonneg m' s')

/-- No finite number is closer than what the magnitude is rounded to, put under the same sign. -/
theorem Rounds.signed_closest (h : Rounds (q * unit) m s) (hq : 0 ≤ q) (hm' : m' < 2 ^ 53) :
    |signed negative q - signed negative (m * 2 ^ s / unit)| ≤
      |signed negative q - signed negative' (m' * 2 ^ s' / unit)| := by
  refine le_trans ?_ (abs_units_sub_le hq)
  rw [abs_signed_sub_signed, abs_sub_div_unit]
  exact div_le_div_of_nonneg_right (h.closest m' s' hm') unit_cast_pos.le

/-- If another finite number is as close as what the magnitude is rounded to, the significand is
even. -/
theorem Rounds.signed_even (h : Rounds (q * unit) m s) (hq : 0 ≤ q) (hm' : m' < 2 ^ 53)
    (hne : signed negative' (m' * 2 ^ s' / unit) ≠ signed negative (m * 2 ^ s / unit))
    (htie : |signed negative q - signed negative' (m' * 2 ^ s' / unit)| =
      |signed negative q - signed negative (m * 2 ^ s / unit)|) : m % 2 = 0 := by
  by_cases hsame : (m' * 2 ^ s' : ℚ) = m * 2 ^ s
  · -- Of one magnitude and different, they are a number and its opposite, and the tie is at zero.
    rw [hsame] at hne htie
    rw [abs_signed_sub_signed] at htie
    obtain ⟨rfl, hne'⟩ := eq_zero_of_abs_signed_sub hq (magnitude_nonneg m s) hne htie.le
    have hzero := h.closest 0 0 (by norm_num)
    simp only [zero_mul, zero_sub, abs_neg, Nat.cast_zero, sub_zero, abs_zero] at hzero
    exact absurd (by rw [abs_nonpos_iff.1 hzero, zero_div]) hne'
  · -- A tie between the numbers is one between their magnitudes.
    have hle : |q * unit - m' * 2 ^ s'| / unit ≤ |q * unit - m * 2 ^ s| / unit := by
      rw [abs_signed_sub_signed, abs_sub_div_unit] at htie
      exact (abs_units_sub_le hq).trans htie.le
    have hunits : |q * unit - m' * 2 ^ s'| = |q * unit - m * 2 ^ s| :=
      le_antisymm ((div_le_div_iff_of_pos_right unit_cast_pos).1 hle) (h.closest m' s' hm')
    exact h.even m' s' hm' hsame hunits

end Signed

/-- What a magnitude is rounded to is, under a sign, the double nearest to it under that sign. -/
theorem isNearest_of_rounds (negative : Bool) {q : ℚ} (hq : 0 ≤ q) {m s : ℕ}
    (h : Rounds (q * unit) m s) : IsNearest (signed negative q) (ofParts negative m s) := by
  have habs : |signed negative q| = q := by rw [abs_signed, abs_of_nonneg hq]
  have hsign : signed negative q ≠ 0 → (negative = true ↔ signed negative q < 0) := by
    intro hne
    have hpos : 0 < q := lt_of_le_of_ne hq fun hzero => hne (by rw [← hzero, signed_zero])
    exact (signed_lt_zero_iff hpos).symm
  unfold ofParts
  split_ifs with hc
  · have hlt : q < overflowBound := h.canonical_iff.1 hc
    refine ⟨by simp, ?_, ?_, ?_, hsign⟩
    · rw [habs]
      exact ⟨fun hfalse => absurd hfalse Bool.false_ne_true, fun hle => absurd hlt (not_lt.2 hle)⟩
    · intro p y p' hp hp'
      rw [toRat?_finite] at hp
      obtain rfl := Option.some.inj hp
      obtain ⟨negative', m', s', hc', -, rfl⟩ := exists_of_toRat? hp'
      exact h.signed_closest hq hc'.bounds.1
    · intro negative₀ m₀ s₀ h₀ p heq hp y p' hp' hne htie
      obtain ⟨rfl, rfl, rfl⟩ : negative = negative₀ ∧ m = m₀ ∧ s = s₀ := by
        simpa using heq
      rw [toRat?_finite] at hp
      obtain rfl := Option.some.inj hp
      obtain ⟨negative', m', s', hc', -, rfl⟩ := exists_of_toRat? hp'
      exact h.signed_even hq hc'.bounds.1 hne htie
  · -- Past the range, the result is infinite and has no value.
    have hle : overflowBound ≤ q := not_lt.1 (mt h.canonical_iff.2 hc)
    refine ⟨by simp, ?_, ?_, ?_, hsign⟩
    · rw [habs]
      exact ⟨fun _ => hle, fun _ => rfl⟩
    · intro p y p' hp
      simp [toRat?] at hp
    · intro negative₀ m₀ s₀ h₀ p heq
      simp at heq

/-- A finite double is the one nearest to its own value. -/
theorem isNearest_of_toRat? {x : Binary64} {q : ℚ} (h : x.toRat? = some q) : IsNearest q x := by
  obtain ⟨negative, m, s, hc, rfl, rfl⟩ := exists_of_toRat? h
  have hparts : ofParts negative m s = .finite negative m s hc := dif_pos hc
  rw [← hparts]
  refine isNearest_of_rounds negative (magnitude_nonneg m s) ?_
  rw [div_mul_cancel₀ _ unit_cast_pos.ne']
  exact rounds_self hc.bounds.1 hc.bounds.2

/-! ## Rounding functions -/

/-- A quotient under a sign is rounded to the double nearest to it. -/
theorem isNearest_nearest (negative : Bool) (num : ℕ) {den : ℕ} (hden : 0 < den) :
    IsNearest (signed negative (num / den)) (nearest negative num den) := by
  obtain ⟨m, s, heq, hrounds⟩ := exists_rounds_nearest negative num hden
  rw [heq]
  refine isNearest_of_rounds negative (div_nonneg (Nat.cast_nonneg _) (Nat.cast_nonneg _)) ?_
  rwa [div_mul_eq_mul_div]

/-- A rational number is rounded to the double nearest to it. -/
theorem isNearest_ofRat (q : ℚ) : IsNearest q (ofRat q) := by
  have hnearest := isNearest_nearest (decide (q.num < 0)) q.num.natAbs q.den_pos
  have hvalue : signed (decide (q.num < 0)) (q.num.natAbs / q.den) = q := by
    rw [Nat.cast_natAbs, Int.cast_abs, signed_div]
    conv_rhs => rw [← Rat.num_div_den q]
    congr 1
    rcases lt_or_ge q.num 0 with hlt | hle
    · have hlt' : (q.num : ℚ) < 0 := by exact_mod_cast hlt
      rw [decide_eq_true hlt, abs_of_neg hlt']
      exact neg_neg _
    · have hle' : (0 : ℚ) ≤ q.num := by exact_mod_cast hle
      rw [decide_eq_false (not_lt.2 hle), abs_of_nonneg hle']
      rfl
  rw [hvalue] at hnearest
  exact hnearest

/-! ## Decimals -/

/-- A decimal lies between the powers of ten around its point. -/
theorem decimal_bounds {c : ℕ} (hc : 0 < c) (e : ℤ) :
    (10 : ℚ) ^ (e + (Nat.toDigits 10 c).length - 1) ≤ c * 10 ^ e ∧
      (c * 10 ^ e : ℚ) < 10 ^ (e + (Nat.toDigits 10 c).length) := by
  set k := (Nat.toDigits 10 c).length with hk
  have hk_pos : 0 < k := Nat.length_toDigits_pos
  have hpow : (0 : ℚ) < 10 ^ e := by positivity
  constructor
  · have hle : 10 ^ (k - 1) ≤ c := by
      by_contra hlt
      rcases Nat.eq_zero_or_pos (k - 1) with hzero | hpos
      · rw [hzero] at hlt
        omega
      · have := (Text.length_toDigits_le_iff hpos).2 (not_le.1 hlt)
        omega
    have hexp : e + k - 1 = ((k - 1 : ℕ) : ℤ) + e := by omega
    rw [hexp, zpow_add₀ (by norm_num), zpow_natCast]
    exact mul_le_mul_of_nonneg_right (by exact_mod_cast hle) hpow.le
  · have hlt : c < 10 ^ k := (Text.length_toDigits_le_iff hk_pos).1 le_rfl
    rw [add_comm e, zpow_add₀ (by norm_num), zpow_natCast]
    exact mul_lt_mul_of_pos_right (by exact_mod_cast hlt) hpow

/-- What is below half a unit is rounded to zero. -/
theorem rounds_zero {v : ℚ} (hv : 0 ≤ v) (hlt : v < 1 / 2) : Rounds v 0 0 := by
  refine ⟨by norm_num, .inr rfl, ?_, fun _ _ _ _ _ => rfl⟩
  intro m' s' _
  have hhalf : |v - (0 : ℕ)| ≤ 1 / 2 := by
    rw [Nat.cast_zero, sub_zero, abs_of_nonneg hv]
    exact hlt.le
  have hle := (abs_sub_le_of_half (j := m' * 2 ^ s') hhalf).1
  push_cast at hle ⊢
  rwa [zero_mul]

/-- The power of ten from which on decimals are not computed is past the bound on magnitudes. -/
theorem overflowBound_le : overflowBound ≤ 10 ^ 310 := by
  unfold overflowBound
  have hnat : 2 ^ 54 * 2 ^ 970 ≤ 10 ^ 310 := by
    have htwos : 54 + 970 = 1024 := rfl
    rw [← pow_add, htwos]
    exact overflow_lt.le
  have hcast : (2 ^ 54 * 2 ^ 970 : ℚ) ≤ 10 ^ 310 := by exact_mod_cast hnat
  refine le_trans (mul_le_mul_of_nonneg_right ?_ ?_) hcast
  · exact sub_le_self _ one_pos.le
  · positivity

/-- The power of ten below which decimals are not computed is below half a unit. -/
theorem underflow_lt : (10 : ℚ) ^ (-331 : ℤ) * unit < 1 / 2 := by
  have hnat : 2 * unit < 10 ^ 331 := by
    have htwos : 1074 + 1 = 1024 + 51 := rfl
    have htens : 331 = 310 + 21 := rfl
    rw [unit_eq, ← pow_succ', htwos, htens]
    exact two_pow_lt_ten_pow (by decide)
  have hcast : (2 * unit : ℚ) < 10 ^ 331 := by exact_mod_cast hnat
  have hpos : (0 : ℚ) < 10 ^ 331 := by positivity
  have hneg : (10 : ℚ) ^ (-331 : ℤ) = (10 ^ 331)⁻¹ := zpow_neg 10 331
  rw [hneg, inv_mul_lt_iff₀ hpos, mul_one_div, lt_div_iff₀ two_pos, mul_comm]
  exact hcast

/-- The quotient that a decimal stands for. -/
theorem pow_ten_eq_div (e : ℤ) : (10 : ℚ) ^ e = 10 ^ e.toNat / 10 ^ (-e).toNat := by
  have hsplit : e = (e.toNat : ℤ) - ((-e).toNat : ℤ) := by omega
  conv_lhs => rw [hsplit]
  rw [zpow_sub₀ (by norm_num), zpow_natCast, zpow_natCast]

/-- A decimal other than zero is rounded by `ofDecimal`, also where its power of ten is not
computed. -/
theorem exists_rounds_ofDecimal (negative : Bool) {c : ℕ} (hc : 0 < c) (e : ℤ) :
    ∃ m s, ofDecimal negative c e = ofParts negative m s ∧
      Rounds (c * 10 ^ e * unit) m s := by
  obtain ⟨hlow, hhigh⟩ := decimal_bounds hc e
  set point := e + (Nat.toDigits 10 c).length with hpoint
  have hden : 0 < 10 ^ (-e).toNat := Nat.pow_pos (by decide)
  obtain ⟨m, s, heq, hrounds⟩ := exists_rounds_nearest negative (c * 10 ^ e.toNat) hden
  have hvalue : ((c * 10 ^ e.toNat : ℕ) * unit / (10 ^ (-e).toNat : ℕ) : ℚ) = c * 10 ^ e * unit := by
    rw [pow_ten_eq_div]
    push_cast
    ring
  rw [hvalue] at hrounds
  by_cases hlarge : 310 < point
  · -- The magnitude is past the bound, and so would the scale be.
    refine ⟨m, s, ?_, hrounds⟩
    have hge : overflowBound ≤ c * 10 ^ e :=
      calc overflowBound ≤ 10 ^ (310 : ℕ) := overflowBound_le
        _ = (10 : ℚ) ^ (310 : ℤ) := rfl
        _ ≤ 10 ^ (point - 1) := zpow_le_zpow_right₀ (by norm_num) (by omega)
        _ ≤ c * 10 ^ e := hlow
    have hnot : ¬ Canonical m s := mt hrounds.canonical_iff.1 (not_lt.2 hge)
    unfold ofDecimal ofParts
    simp only [hc.ne', if_false, ← hpoint, hlarge, if_true, dif_neg hnot]
  · by_cases hsmall : point < -330
    · -- The magnitude is below half a unit.
      refine ⟨0, 0, ?_, rounds_zero ?_ ?_⟩
      · unfold ofDecimal
        simp only [hc.ne', if_false, ← hpoint, hlarge, hsmall, if_true]
        rfl
      · exact mul_nonneg (by positivity) unit_cast_pos.le
      · refine lt_of_le_of_lt ?_ underflow_lt
        refine mul_le_mul_of_nonneg_right ?_ unit_cast_pos.le
        exact hhigh.le.trans (zpow_le_zpow_right₀ (by norm_num) (by omega))
    · refine ⟨m, s, ?_, hrounds⟩
      rw [← heq]
      exact ofDecimal_eq_nearest negative hc.ne' (by omega) (by omega)

/-- A decimal under a sign is rounded to the double nearest to it. -/
theorem isNearest_ofDecimal (negative : Bool) (c : ℕ) (e : ℤ) :
    IsNearest (signed negative (c * 10 ^ e)) (ofDecimal negative c e) := by
  rcases Nat.eq_zero_or_pos c with rfl | hc
  · have hround : Rounds (((0 : ℕ) : ℚ) * 10 ^ e * unit) 0 0 := by
      rw [Nat.cast_zero, zero_mul, zero_mul]
      exact rounds_zero le_rfl (by norm_num)
    have hzero : ofDecimal negative 0 e = ofParts negative 0 0 := by
      have hc : Canonical 0 0 := ⟨by decide, .inr rfl, by decide⟩
      exact Eq.trans (by simp [ofDecimal, zero]) (dif_pos hc).symm
    rw [hzero]
    exact isNearest_of_rounds negative (by positivity) hround
  · obtain ⟨m, s, heq, hrounds⟩ := exists_rounds_ofDecimal negative hc e
    rw [heq]
    exact isNearest_of_rounds negative (by positivity) hrounds

/-- A decimal other than zero is read as a positive double exactly if its magnitude is rounded to
the significand and the scale of that double. -/
theorem ofDecimal_eq_iff_rounds {c : ℕ} (hc : 0 < c) (e : ℤ) {m s : ℕ} (h : Canonical m s) :
    ofDecimal false c e = .finite false m s h ↔ Rounds (c * 10 ^ e * unit) m s := by
  obtain ⟨m', s', heq, hrounds⟩ := exists_rounds_ofDecimal false hc e
  rw [heq]
  constructor
  · intro hparts
    unfold ofParts at hparts
    split_ifs at hparts
    obtain ⟨rfl, rfl⟩ : m' = m ∧ s' = s := by simpa using hparts
    exact hrounds
  · intro hrounds'
    obtain ⟨rfl, rfl⟩ := hrounds.unique hrounds'
    exact dif_pos h

end Conform.Binary64
