import Conform.Proofs.Number.Rounding
import Mathlib.Algebra.Order.Field.Basic
import Mathlib.Algebra.Order.Field.Rat
import Mathlib.Tactic.FieldSimp
import Mathlib.Tactic.Linarith
import Mathlib.Tactic.NormNum

/-!
# The nearest double

Rounding gives the closest double, and of two equally close ones the one with the even
significand. Magnitudes are counted in units, so that those of doubles are the numbers
`m * 2 ^ s` with `m < 2 ^ 53`; whether the scale is in range is asked only once they are rounded.

- `Rounds`: what a magnitude is rounded to, said by distances;
- `exists_rounds_nearest`: `nearest` rounds in this sense;
- `Rounds.unique`, `Rounds.between`: there is one such result, and what lies between two magnitudes
  that are rounded alike is rounded like them;
- `isNearest_nearest`, `isNearest_ofRat`: the same for numbers with a sign, where magnitudes from
  `overflowBound` on are infinite.
-/

namespace Conform.Binary64

/-! ## Rounding on a grid -/

/-- The rounded quotient is at most a half away from the quotient. -/
theorem abs_sub_halfEven_le (num : ℕ) {den : ℕ} (hden : 0 < den) :
    |(num / den : ℚ) - halfEven num den| ≤ 1 / 2 ∧
      (|(num / den : ℚ) - halfEven num den| = 1 / 2 → halfEven num den % 2 = 0) := by
  have hden' : (0 : ℚ) < den := by exact_mod_cast hden
  -- The quotient is its whole part and a fraction below one.
  have hsplit : (num / den : ℚ) = (num / den : ℕ) + (num % den : ℕ) / (den : ℚ) := by
    rw [eq_comm, ← eq_sub_iff_add_eq', eq_comm, sub_eq_iff_eq_add, div_eq_iff hden'.ne', add_mul,
      div_mul_cancel₀ _ hden'.ne']
    exact_mod_cast (Nat.mod_add_div' num den).symm
  set quotient := num / den with hquotient
  set rest := num % den with hrest
  have hpos : (0 : ℚ) ≤ rest / den := by positivity
  unfold halfEven
  dsimp only
  rw [← hquotient, ← hrest, hsplit]
  split_ifs with hbelow habove heven
  · have hlt : (rest / den : ℚ) < 1 / 2 := by
      rw [div_lt_div_iff₀ hden' two_pos]
      exact_mod_cast by omega
    rw [add_sub_cancel_left, abs_of_nonneg hpos]
    exact ⟨hlt.le, fun heq => absurd heq hlt.ne⟩
  · have hlt : (1 / 2 : ℚ) < rest / den := by
      rw [div_lt_div_iff₀ two_pos hden']
      exact_mod_cast by omega
    have hone : (rest / den : ℚ) < 1 := by
      rw [div_lt_one hden']
      exact_mod_cast Nat.mod_lt num hden
    push_cast
    rw [add_sub_add_left_eq_sub, abs_of_neg (by linarith)]
    exact ⟨by linarith, fun heq => absurd heq (by linarith)⟩
  all_goals
    have hhalf : (rest / den : ℚ) = 1 / 2 := by
      rw [div_eq_div_iff hden'.ne' two_ne_zero]
      exact_mod_cast by omega
  · rw [add_sub_cancel_left, hhalf, abs_of_pos one_half_pos]
    exact ⟨le_rfl, fun _ => heven⟩
  · push_cast
    rw [add_sub_add_left_eq_sub, hhalf, abs_of_neg (by norm_num)]
    exact ⟨by norm_num, fun _ => by omega⟩

/-- Two different whole numbers are at least one apart. -/
theorem one_le_abs_sub {i j : ℕ} (h : i ≠ j) : (1 : ℚ) ≤ |(i : ℚ) - j| := by
  have hint : (1 : ℤ) ≤ |(i : ℤ) - j| := Int.one_le_abs (by omega)
  exact_mod_cast hint

/-- A number is no closer to another whole number than to one that is at most a half away, and as
close only if it is a half away from both. -/
theorem abs_sub_le_of_half {t : ℚ} {h j : ℕ} (hhalf : |t - h| ≤ 1 / 2) :
    |t - h| ≤ |t - j| ∧ (j ≠ h → |t - j| = |t - h| → |t - h| = 1 / 2) := by
  by_cases hsame : j = h
  · subst hsame
    exact ⟨le_rfl, fun hne => absurd rfl hne⟩
  · have hone := one_le_abs_sub hsame
    have htriangle : |(j : ℚ) - h| ≤ |t - h| + |t - j| := by
      have := abs_sub_le (j : ℚ) t h
      rw [abs_sub_comm (j : ℚ) t] at this
      linarith
    exact ⟨by linarith, fun _ heq => by linarith⟩

/-! ## Rounding of magnitudes -/

/-- A magnitude, counted in units, is rounded to the significand `m` at the scale `s`, where no
scale is out of range: nothing else of 53 bits is closer to it, and `m` is even if something else is
as close. -/
structure Rounds (v : ℚ) (m s : ℕ) : Prop where
  /-- The significand fits in 53 bits. -/
  fits : m < 2 ^ 53
  /-- A significand that leaves the leading bit empty has the smallest scale. -/
  normal : 2 ^ 52 ≤ m ∨ s = 0
  /-- Nothing else is closer. -/
  closest : ∀ m' s' : ℕ, m' < 2 ^ 53 → |v - m * 2 ^ s| ≤ |v - m' * 2 ^ s'|
  /-- A tie goes to the even significand. -/
  even : ∀ m' s' : ℕ, m' < 2 ^ 53 → (m' * 2 ^ s' : ℚ) ≠ m * 2 ^ s →
    |v - m' * 2 ^ s'| = |v - m * 2 ^ s| → m % 2 = 0

/-- A magnitude below the leading bit at a scale is below that of any significand at a larger one
with its leading bit set. -/
theorem mul_pow_lt_of_lt {m' s s' : ℕ} (hm' : m' < 2 ^ 53) (hs : s' < s) :
    (m' * 2 ^ s' : ℚ) < 2 ^ 52 * 2 ^ s := by
  have hnat : m' * 2 ^ s' < 2 ^ 52 * 2 ^ s := by
    obtain ⟨k, rfl⟩ := Nat.exists_eq_add_of_lt hs
    calc m' * 2 ^ s' < 2 ^ 53 * 2 ^ s' := Nat.mul_lt_mul_of_pos_right hm' (Nat.two_pow_pos _)
      _ ≤ 2 ^ 53 * 2 ^ s' * 2 ^ k := Nat.le_mul_of_pos_right _ (Nat.two_pow_pos _)
      _ = 2 ^ 52 * 2 ^ (s' + k + 1) := by ring
  exact_mod_cast hnat

/-- A scale that is not smaller puts a magnitude on the grid. -/
theorem exists_mul_pow_eq {s s' : ℕ} (m' : ℕ) (hs : s ≤ s') :
    ∃ j : ℕ, (m' * 2 ^ s' : ℚ) = j * 2 ^ s := by
  obtain ⟨k, rfl⟩ := Nat.exists_eq_add_of_le hs
  exact ⟨m' * 2 ^ k, by push_cast; ring⟩

/-- The distance of two magnitudes on one grid. -/
theorem abs_mul_pow_sub (t u : ℚ) (s : ℕ) : |t * 2 ^ s - u * 2 ^ s| = |t - u| * 2 ^ s := by
  rw [← sub_mul, abs_mul, abs_of_pos (by positivity : (0 : ℚ) < 2 ^ s)]

/-- A magnitude that is rounded on the grid of a scale at which it fills 53 bits has nothing of 53
bits closer to it. -/
theorem closest_of_half {t : ℚ} {h s : ℕ} (hhalf : |t - h| ≤ 1 / 2)
    (heven : |t - h| = 1 / 2 → h % 2 = 0) (hlow : 0 < s → 2 ^ 52 ≤ t) {m' : ℕ} (s' : ℕ)
    (hm' : m' < 2 ^ 53) :
    |t * 2 ^ s - h * 2 ^ s| ≤ |t * 2 ^ s - m' * 2 ^ s'| ∧
      ((m' * 2 ^ s' : ℚ) ≠ h * 2 ^ s → |t * 2 ^ s - m' * 2 ^ s'| = |t * 2 ^ s - h * 2 ^ s| →
        h % 2 = 0) := by
  have hpow : (0 : ℚ) < 2 ^ s := by positivity
  rw [abs_mul_pow_sub]
  rcases le_or_gt s s' with hs | hs
  · -- What has no smaller scale is on the grid itself.
    obtain ⟨j, hj⟩ := exists_mul_pow_eq m' hs
    obtain ⟨hle, htie⟩ := abs_sub_le_of_half (j := j) hhalf
    rw [hj, abs_mul_pow_sub]
    refine ⟨mul_le_mul_of_nonneg_right hle hpow.le, fun hne heq => heven (htie ?_ ?_)⟩
    · rintro rfl
      exact hne rfl
    · exact mul_right_cancel₀ hpow.ne' heq
  · -- What has a smaller scale lies below the leading bit, which is on the grid.
    have hbit : (2 : ℚ) ^ 52 ≤ t := hlow (by omega)
    have hbelow := mul_pow_lt_of_lt hm' hs
    have hgrid : |t - h| ≤ t - 2 ^ 52 := by
      have hbits := (abs_sub_le_of_half (j := 2 ^ 52) hhalf).1
      have habove : |t - (2 : ℚ) ^ 52| = t - 2 ^ 52 := abs_of_nonneg (sub_nonneg.2 hbit)
      rwa [Nat.cast_pow, Nat.cast_ofNat, habove] at hbits
    have hleft : |t - h| * 2 ^ s ≤ t * 2 ^ s - 2 ^ 52 * 2 ^ s := by
      rw [← sub_mul]
      exact mul_le_mul_of_nonneg_right hgrid hpow.le
    have hfar : |t - h| * 2 ^ s < |t * 2 ^ s - m' * 2 ^ s'| :=
      lt_of_lt_of_le (by linarith) (le_abs_self _)
    exact ⟨hfar.le, fun _ heq => absurd heq hfar.ne'⟩

/-- The scale at which `nearest` rounds is the one at which the magnitude fills 53 bits. -/
theorem bounds_of_scale (scaled : ℕ) {den : ℕ} (hden : 0 < den) :
    (scaled / (den * 2 ^ (Nat.log2 (scaled / den) - 52) : ℕ) : ℚ) < 2 ^ 53 ∧
      (0 < Nat.log2 (scaled / den) - 52 →
        2 ^ 52 ≤ (scaled / (den * 2 ^ (Nat.log2 (scaled / den) - 52) : ℕ) : ℚ)) := by
  set scale := Nat.log2 (scaled / den) - 52 with hscale
  have hpos : (0 : ℚ) < (den * 2 ^ scale : ℕ) := by exact_mod_cast Nat.mul_pos hden (by positivity)
  constructor
  · rw [div_lt_iff₀ hpos]
    have hlog : scaled / den < 2 ^ (53 + scale) :=
      Nat.lt_log2_self.trans_le (Nat.pow_le_pow_right two_pos (by omega))
    have hnat : scaled < 2 ^ 53 * (den * 2 ^ scale) := by
      calc scaled < den * 2 ^ (53 + scale) := by
            rw [mul_comm]
            exact (Nat.div_lt_iff_lt_mul hden).1 hlog
        _ = 2 ^ 53 * (den * 2 ^ scale) := by ring
    exact_mod_cast hnat
  · intro hscale_pos
    rw [le_div_iff₀ hpos]
    have hne : scaled / den ≠ 0 := by
      intro hzero
      rw [hzero, Nat.log2_zero] at hscale
      omega
    have hlog : 2 ^ (52 + scale) ≤ scaled / den := by
      have heq : 52 + scale = Nat.log2 (scaled / den) := by omega
      rw [heq]
      exact Nat.log2_self_le hne
    have hnat : 2 ^ 52 * (den * 2 ^ scale) ≤ scaled := by
      calc 2 ^ 52 * (den * 2 ^ scale) = 2 ^ (52 + scale) * den := by ring
        _ ≤ scaled := (Nat.le_div_iff_mul_le hden).1 hlog
    exact_mod_cast hnat

/-- A magnitude that is rounded to a whole number fills 53 bits, or carries into a 54th. -/
theorem bits_of_half {t : ℚ} {h s : ℕ} (hhalf : |t - h| ≤ 1 / 2) (hhigh : t < 2 ^ 53)
    (hlow : 0 < s → 2 ^ 52 ≤ t) : h ≤ 2 ^ 53 ∧ (2 ^ 52 ≤ h ∨ s = 0) := by
  obtain ⟨hbelow, habove⟩ := abs_le.1 hhalf
  constructor
  · have hlt : (h : ℚ) < (2 ^ 53 + 1 : ℕ) := by
      push_cast
      linarith
    exact Nat.le_of_lt_succ (by exact_mod_cast hlt)
  · rcases Nat.eq_zero_or_pos s with hzero | hpos
    · exact .inr hzero
    · have hlt : ((2 ^ 52 : ℕ) : ℚ) < (h + 1 : ℕ) := by
        push_cast
        linarith [hlow hpos]
      exact .inl (Nat.le_of_lt_succ (by exact_mod_cast hlt))

/-- Without a carry, a magnitude is rounded to the whole number that it is closest to. -/
theorem rounds_of_half {t : ℚ} {h s : ℕ} (hhalf : |t - h| ≤ 1 / 2)
    (heven : |t - h| = 1 / 2 → h % 2 = 0) (hlow : 0 < s → 2 ^ 52 ≤ t) (hfits : h < 2 ^ 53)
    (hnormal : 2 ^ 52 ≤ h ∨ s = 0) : Rounds (t * 2 ^ s) h s where
  fits := hfits
  normal := hnormal
  closest := fun _ s' hm' => (closest_of_half hhalf heven hlow s' hm').1
  even := fun _ s' hm' => (closest_of_half hhalf heven hlow s' hm').2

/-- A carry into a 54th bit moves to the next scale without a change in magnitude. -/
theorem rounds_of_carry {t : ℚ} {h s : ℕ} (hhalf : |t - h| ≤ 1 / 2)
    (heven : |t - h| = 1 / 2 → h % 2 = 0) (hlow : 0 < s → 2 ^ 52 ≤ t) (hcarry : h = 2 ^ 53) :
    Rounds (t * 2 ^ s) (2 ^ 52) (s + 1) := by
  have hsame : (((2 ^ 52 : ℕ) : ℚ) * 2 ^ (s + 1)) = h * 2 ^ s := by
    rw [hcarry]
    push_cast
    ring
  refine ⟨by norm_num, .inl le_rfl, ?_, fun _ _ _ _ _ => rfl⟩
  intro m' s' hm'
  rw [hsame]
  exact (closest_of_half hhalf heven hlow s' hm').1

/-- A quotient is rounded by `nearest`. -/
theorem exists_rounds_nearest (negative : Bool) (num : ℕ) {den : ℕ} (hden : 0 < den) :
    ∃ m s, nearest negative num den = ofParts negative m s ∧
      Rounds (num * unit / den) m s := by
  set scaled := num * unit with hscaled
  set scale := Nat.log2 (scaled / den) - 52 with hscale
  set h := halfEven scaled (den * 2 ^ scale) with hh
  have hgrid : 0 < den * 2 ^ scale := Nat.mul_pos hden (Nat.two_pow_pos _)
  obtain ⟨hhalf, heven⟩ := abs_sub_halfEven_le scaled hgrid
  obtain ⟨hhigh, hlow⟩ := bounds_of_scale scaled hden
  set t : ℚ := scaled / (den * 2 ^ scale : ℕ) with ht
  -- The magnitude is the quotient on the grid, scaled back.
  have hv : (num * unit / den : ℚ) = t * 2 ^ scale := by
    have hpow : (2 : ℚ) ^ scale ≠ 0 := by positivity
    rw [ht, hscaled, Nat.cast_mul, Nat.cast_mul, Nat.cast_pow, Nat.cast_ofNat, ← div_div,
      div_mul_cancel₀ _ hpow]
  have hnearest : nearest negative num den =
      if h = 2 ^ 53 then ofParts negative (2 ^ 52) (scale + 1) else ofParts negative h scale := rfl
  obtain ⟨hle, hnormal⟩ := bits_of_half hhalf hhigh hlow
  rw [hv, hnearest]
  by_cases hcarry : h = 2 ^ 53
  · rw [if_pos hcarry]
    exact ⟨_, _, rfl, rounds_of_carry hhalf heven hlow hcarry⟩
  · rw [if_neg hcarry]
    exact ⟨_, _, rfl, rounds_of_half hhalf heven hlow (lt_of_le_of_ne hle hcarry) hnormal⟩

/-! ## One result -/

/-- Of two numbers the smaller one is not farther away exactly from what lies on its side of the
middle. -/
theorem abs_sub_le_abs_sub_iff {v a x : ℚ} (h : a < x) : |v - a| ≤ |v - x| ↔ 2 * v ≤ a + x := by
  rw [← sq_le_sq]
  constructor
  · intro hle
    by_contra hgt
    nlinarith [mul_pos (sub_pos.2 h) (sub_pos.2 (not_le.1 hgt))]
  · intro hle
    nlinarith [mul_nonneg (sub_pos.2 h).le (sub_nonneg.2 hle)]

/-- Of two numbers the larger one is not farther away exactly from what lies on its side of the
middle. -/
theorem abs_sub_le_abs_sub_iff' {v a x : ℚ} (h : x < a) : |v - a| ≤ |v - x| ↔ a + x ≤ 2 * v := by
  have hiff := abs_sub_le_abs_sub_iff (v := -v) (neg_lt_neg h)
  rw [← abs_neg (-v - -a), ← abs_neg (-v - -x)] at hiff
  have hleft : -(-v - -a) = v - a := by ring
  have hright : -(-v - -x) = v - x := by ring
  rw [hleft, hright] at hiff
  rw [hiff]
  constructor <;> intro hle <;> linarith

/-- A magnitude has one form in which the significand fills its bits. -/
theorem eq_of_mul_pow_eq {m s m' s' : ℕ} (hfits : m < 2 ^ 53) (hnormal : 2 ^ 52 ≤ m ∨ s = 0)
    (hfits' : m' < 2 ^ 53) (hnormal' : 2 ^ 52 ≤ m' ∨ s' = 0)
    (h : (m * 2 ^ s : ℚ) = m' * 2 ^ s') : m = m' ∧ s = s' := by
  have hscale : s = s' := by
    -- The magnitude at the smaller scale would be the smaller one.
    rcases lt_trichotomy s s' with hlt | heq | hlt
    · have hbelow := mul_pow_lt_of_lt hfits hlt
      have hbit : (2 ^ 52 : ℚ) ≤ m' := by exact_mod_cast hnormal'.resolve_right (by omega)
      have := mul_le_mul_of_nonneg_right hbit (by positivity : (0 : ℚ) ≤ 2 ^ s')
      linarith
    · exact heq
    · have hbelow := mul_pow_lt_of_lt hfits' hlt
      have hbit : (2 ^ 52 : ℚ) ≤ m := by exact_mod_cast hnormal.resolve_right (by omega)
      have := mul_le_mul_of_nonneg_right hbit (by positivity : (0 : ℚ) ≤ 2 ^ s)
      linarith
  subst hscale
  have hpow : (2 ^ s : ℚ) ≠ 0 := by positivity
  exact ⟨by exact_mod_cast mul_right_cancel₀ hpow h, rfl⟩

/-- Nothing of 53 bits lies between a magnitude and the next one at its scale. -/
theorem not_between {m s m' s' : ℕ} (hnormal : 2 ^ 52 ≤ m ∨ s = 0) (hfits' : m' < 2 ^ 53)
    (hlow : (m * 2 ^ s : ℚ) < m' * 2 ^ s') : ((m + 1 : ℕ) * 2 ^ s : ℚ) ≤ m' * 2 ^ s' := by
  have hpow : (0 : ℚ) < 2 ^ s := by positivity
  rcases le_or_gt s s' with hs | hs
  · obtain ⟨j, hj⟩ := exists_mul_pow_eq m' hs
    rw [hj] at hlow ⊢
    have hlt : m < j := by exact_mod_cast lt_of_mul_lt_mul_right hlow hpow.le
    exact mul_le_mul_of_nonneg_right (by exact_mod_cast hlt) hpow.le
  · have hbelow := mul_pow_lt_of_lt hfits' hs
    have hbit : (2 ^ 52 : ℚ) ≤ m := by exact_mod_cast hnormal.resolve_right (by omega)
    have := mul_le_mul_of_nonneg_right hbit hpow.le
    linarith

namespace Rounds

variable {v w u : ℚ} {m s m' s' : ℕ}

/-- Of two results of rounding, the first is not below the second. -/
theorem not_lt (h : Rounds v m s) (h' : Rounds v m' s') : ¬ (m * 2 ^ s : ℚ) < m' * 2 ^ s' := by
  intro hlt
  have hdist : |v - m' * 2 ^ s'| = |v - m * 2 ^ s| :=
    le_antisymm (h'.closest m s h.fits) (h.closest m' s' h'.fits)
  have heven : m % 2 = 0 := h.even m' s' h'.fits hlt.ne' hdist
  have heven' : m' % 2 = 0 := h'.even m s h.fits hlt.ne hdist.symm
  have hfits := h.fits
  -- The significand after the even one fits as well, and cannot lie between the two.
  have hnext : m + 1 < 2 ^ 53 := by omega
  have hmid : 2 * v = m * 2 ^ s + m' * 2 ^ s' :=
    le_antisymm ((abs_sub_le_abs_sub_iff hlt).1 hdist.ge)
      ((add_comm _ _).le.trans ((abs_sub_le_abs_sub_iff' hlt).1 hdist.le))
  have hstep : (m * 2 ^ s : ℚ) < (m + 1 : ℕ) * 2 ^ s := by
    push_cast
    linarith [show (0 : ℚ) < 2 ^ s by positivity]
  have hclose := (abs_sub_le_abs_sub_iff hstep).1 (h.closest (m + 1) s hnext)
  have hsame : ((m + 1 : ℕ) * 2 ^ s : ℚ) = m' * 2 ^ s' :=
    le_antisymm (not_between h.normal h'.fits hlt) (by linarith)
  have hnormal : 2 ^ 52 ≤ m + 1 ∨ s = 0 := h.normal.imp (fun hle => hle.trans (Nat.le_succ m)) id
  obtain ⟨hsucc, -⟩ := eq_of_mul_pow_eq hnext hnormal h'.fits h'.normal hsame
  omega

/-- Rounding has one result. -/
theorem unique (h : Rounds v m s) (h' : Rounds v m' s') : m = m' ∧ s = s' :=
  eq_of_mul_pow_eq h.fits h.normal h'.fits h'.normal
    (le_antisymm (le_of_not_gt (h'.not_lt h)) (le_of_not_gt (h.not_lt h')))

/-- What lies between two magnitudes that are rounded alike is rounded like them. -/
theorem between (hw : Rounds w m s) (hv : Rounds v m s) (hwu : w ≤ u) (huv : u ≤ v) :
    Rounds u m s := by
  refine ⟨hw.fits, hw.normal, ?_, ?_⟩
  · intro m' s' hfits
    rcases lt_trichotomy (m * 2 ^ s : ℚ) (m' * 2 ^ s') with hlt | heq | hlt
    · have := (abs_sub_le_abs_sub_iff hlt).1 (hv.closest m' s' hfits)
      exact (abs_sub_le_abs_sub_iff hlt).2 (by linarith)
    · rw [heq]
    · have := (abs_sub_le_abs_sub_iff' hlt).1 (hw.closest m' s' hfits)
      exact (abs_sub_le_abs_sub_iff' hlt).2 (by linarith)
  · intro m' s' hfits hne htie
    -- A tie in between is one at the end on the other side.
    rcases lt_or_gt_of_ne hne with hlt | hlt
    · have hmid := (abs_sub_le_abs_sub_iff hlt).1 htie.le
      have hclose := hw.closest m' s' hfits
      refine hw.even m' s' hfits hne (le_antisymm ((abs_sub_le_abs_sub_iff hlt).2 ?_) hclose)
      linarith
    · have hmid := (abs_sub_le_abs_sub_iff' hlt).1 htie.le
      have hclose := hv.closest m' s' hfits
      refine hv.even m' s' hfits hne (le_antisymm ((abs_sub_le_abs_sub_iff' hlt).2 ?_) hclose)
      linarith

end Rounds

/-- A magnitude of 53 bits is rounded to itself. -/
theorem rounds_self {m s : ℕ} (hfits : m < 2 ^ 53) (hnormal : 2 ^ 52 ≤ m ∨ s = 0) :
    Rounds (m * 2 ^ s) m s := by
  refine ⟨hfits, hnormal, ?_, ?_⟩
  · intro m' s' _
    rw [sub_self, abs_zero]
    exact abs_nonneg _
  · intro m' s' _ hne htie
    rw [sub_self, abs_zero, abs_eq_zero, sub_eq_zero] at htie
    exact absurd htie.symm hne

/-! ## Precision -/

/-- A magnitude of 53 bits is at most `2 ^ 53` times its distance from any other. -/
theorem le_mul_abs_sub {m s m' s' : ℕ} (hfits : m < 2 ^ 53) (hnormal : 2 ^ 52 ≤ m ∨ s = 0)
    (hfits' : m' < 2 ^ 53) (hne : (m' * 2 ^ s' : ℚ) ≠ m * 2 ^ s) :
    (m * 2 ^ s : ℚ) ≤ 2 ^ 53 * |(m * 2 ^ s : ℚ) - m' * 2 ^ s'| := by
  have hm : (m : ℚ) < 2 ^ 53 := by exact_mod_cast hfits
  rcases le_or_gt s s' with hs | hs
  · -- On one grid, different magnitudes are a whole step apart.
    obtain ⟨j, hj⟩ := exists_mul_pow_eq m' hs
    rw [hj] at hne ⊢
    have hdiff : m ≠ j := by
      rintro rfl
      exact hne rfl
    rw [abs_mul_pow_sub, ← mul_assoc]
    refine mul_le_mul_of_nonneg_right ?_ (by positivity)
    linarith [one_le_abs_sub hdiff]
  · -- Below its leading bit, the steps are at most half as wide.
    have hbit : (2 ^ 52 : ℚ) ≤ m := by exact_mod_cast hnormal.resolve_right (by omega)
    have hm' : (m' : ℚ) + 1 ≤ 2 ^ 53 := by exact_mod_cast hfits'
    obtain ⟨k, rfl⟩ := Nat.exists_eq_add_of_lt hs
    have hpow : (0 : ℚ) < 2 ^ s' := by positivity
    have hpow' : (1 : ℚ) ≤ 2 ^ k := one_le_pow₀ one_le_two
    have hscaled : (m * 2 ^ (s' + k + 1) : ℚ) = 2 * m * 2 ^ k * 2 ^ s' := by ring
    rw [hscaled, abs_mul_pow_sub, ← mul_assoc]
    refine mul_le_mul_of_nonneg_right ?_ hpow.le
    have hlarge : (2 ^ 53 : ℚ) ≤ 2 * m * 2 ^ k := by nlinarith
    have hdist : 2 * m * 2 ^ k - m' ≤ |2 * m * 2 ^ k - (m' : ℚ)| := le_abs_self _
    nlinarith

/-- What is closer to a magnitude than its `2 ^ 54`th part is rounded to it. -/
theorem rounds_of_close {v : ℚ} {m s : ℕ} (hfits : m < 2 ^ 53) (hnormal : 2 ^ 52 ≤ m ∨ s = 0)
    (hclose : 2 ^ 54 * |v - m * 2 ^ s| < m * 2 ^ s) : Rounds v m s := by
  have hfar : ∀ m' s' : ℕ, m' < 2 ^ 53 → (m' * 2 ^ s' : ℚ) ≠ m * 2 ^ s →
      |v - m * 2 ^ s| < |v - m' * 2 ^ s'| := by
    intro m' s' hfits' hne
    have hgap := le_mul_abs_sub hfits hnormal hfits' hne
    have htriangle := abs_sub_le (m * 2 ^ s : ℚ) v (m' * 2 ^ s')
    rw [abs_sub_comm (m * 2 ^ s : ℚ) v] at htriangle
    linarith
  refine ⟨hfits, hnormal, ?_, ?_⟩
  · intro m' s' hfits'
    by_cases hsame : (m' * 2 ^ s' : ℚ) = m * 2 ^ s
    · rw [hsame]
    · exact (hfar m' s' hfits' hsame).le
  · intro m' s' hfits' hne htie
    exact absurd htie (hfar m' s' hfits' hne).ne'

/-! ## Overflow -/

/-- A magnitude is rounded to a scale up to a given one exactly when it is below the middle between
the largest one of that scale and what follows it. -/
theorem Rounds.scale_le_iff {v : ℚ} {m s : ℕ} (h : Rounds v m s) (n : ℕ) :
    s ≤ n + 1 ↔ v < (2 ^ 54 - 1) * 2 ^ n := by
  have hlargest : ((2 ^ 53 - 1 : ℕ) : ℚ) * 2 ^ (n + 1) = (2 ^ 54 - 2) * 2 ^ n := by
    push_cast
    ring
  have hnext : ((2 ^ 52 : ℕ) : ℚ) * 2 ^ (n + 2) = 2 ^ 54 * 2 ^ n := by
    push_cast
    ring
  have hpow : (0 : ℚ) < 2 ^ n := by positivity
  constructor
  · intro hs
    have hm : (m : ℚ) ≤ (2 ^ 53 - 1 : ℕ) := by exact_mod_cast Nat.le_sub_one_of_lt h.fits
    have hle : (m * 2 ^ s : ℚ) ≤ (2 ^ 54 - 2) * 2 ^ n := by
      rw [← hlargest]
      exact mul_le_mul hm (pow_le_pow_right₀ one_le_two hs) (by positivity) (by positivity)
    have hlt : (m * 2 ^ s : ℚ) < (2 ^ 52 : ℕ) * 2 ^ (n + 2) := by linarith
    have hmid := (abs_sub_le_abs_sub_iff hlt).1 (h.closest (2 ^ 52) (n + 2) (by norm_num))
    refine lt_of_le_of_ne (by linarith) fun heq => ?_
    -- At the bound itself the tie goes to what follows, since the largest significand is odd.
    have htie : |v - (2 ^ 52 : ℕ) * 2 ^ (n + 2)| = |v - m * 2 ^ s| := by
      refine le_antisymm ((abs_sub_le_abs_sub_iff' hlt).2 (by linarith)) ?_
      exact h.closest (2 ^ 52) (n + 2) (by norm_num)
    have heven := h.even (2 ^ 52) (n + 2) (by norm_num) hlt.ne' htie
    have hsame : (m * 2 ^ s : ℚ) = ((2 ^ 53 - 1 : ℕ) : ℚ) * 2 ^ (n + 1) := by linarith
    obtain ⟨rfl, -⟩ :=
      eq_of_mul_pow_eq h.fits h.normal (by norm_num) (.inl (by norm_num)) hsame
    norm_num at heven
  · intro hv
    by_contra hs
    have hbit : (2 ^ 52 : ℕ) ≤ (m : ℚ) := by exact_mod_cast h.normal.resolve_right (by omega)
    have hge : (2 ^ 54 * 2 ^ n : ℚ) ≤ m * 2 ^ s := by
      rw [← hnext]
      exact mul_le_mul hbit (pow_le_pow_right₀ one_le_two (by omega)) (by positivity)
        (by positivity)
    have hlt : (((2 ^ 53 - 1 : ℕ) : ℚ) * 2 ^ (n + 1)) < m * 2 ^ s := by linarith
    have hmid := (abs_sub_le_abs_sub_iff' hlt).1 (h.closest (2 ^ 53 - 1) (n + 1) (by norm_num))
    linarith

end Conform.Binary64
