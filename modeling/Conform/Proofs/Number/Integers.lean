import Conform.Proofs.Number.FewestDigits
import Conform.Proofs.Number.RoundTrip
import Conform.Proofs.Value.Numerals

/-!
# Integers read from text

Strict reading takes an integer from a text by way of a double. The text is the decimal numeral of
an integer, but the integer that is read is the value of the double nearest to it
(`Value.parseNumberStrict_int`). The two are the same up to the seventeenth digit, so for all
integers below `firstRounded`, which is itself read from the numeral of another integer.
-/

namespace Conform

open Text

namespace ShortDecimal

open Binary64

variable {num den significand scale n : ℕ} {x : Binary64}

/-! ## Whole magnitudes -/

/-- A whole number lies on the grid of the units, and is taken there if it reads back. -/
theorem neighbour?_of_whole (hden : 0 < den) (hn : num = n * den)
    (hreads : (⟨n, 0⟩ : ShortDecimal).ReadsAs x) : neighbour? num den x 0 = some ⟨n, 0⟩ := by
  have hgrid : onGrid num den 0 = (n * den, den) := by simp [onGrid, hn]
  have hlow : n * den / den = n := Nat.mul_div_cancel n hden
  unfold neighbour?
  simp only [hgrid, hlow, hreads, if_true, halfEven_mul_self n hden, ite_self]

/-- A double whose magnitude is a whole number is read from that number. -/
theorem readsAs_whole (h : Canonical significand scale) (hpos : 0 < n)
    (hn : magnitudeOf significand scale = n) :
    (⟨n, 0⟩ : ShortDecimal).ReadsAs (.finite false significand scale h) := by
  refine (readsAs_iff_rounds hpos).2 ?_
  rw [toRat, zpow_zero, mul_one, ← hn]
  exact rounds_magnitudeOf h

/-- A whole magnitude, counted in units. -/
theorem units_eq_mul (hn : magnitudeOf significand scale = n) : units significand scale = n * unit := by
  rw [magnitudeOf, div_eq_iff unit_cast_pos.ne'] at hn
  exact_mod_cast hn

/-- A whole magnitude has all its digits before its point. -/
theorem length_chars_le_magnitude (hpos : 0 < significand) (hn_pos : 0 < n)
    (hn : magnitudeOf significand scale = n) :
    ((⟨n, 0⟩ : ShortDecimal).chars.length : ℤ) ≤ magnitude (units significand scale) unit := by
  obtain ⟨-, hhigh⟩ := magnitudeOf_bounds hpos scale
  set point := magnitude (units significand scale) unit with hpoint
  rw [hn] at hhigh
  have hpoint_pos : 0 < point := by
    by_contra hle
    have hone : (10 : ℚ) ^ point ≤ 1 := zpow_le_one_of_nonpos₀ (by norm_num) (not_lt.1 hle)
    have : (1 : ℚ) ≤ n := by exact_mod_cast hn_pos
    linarith
  obtain ⟨places, hplaces⟩ := Int.eq_ofNat_of_zero_le hpoint_pos.le
  rw [hplaces, zpow_natCast] at hhigh
  have hlength : (⟨n, 0⟩ : ShortDecimal).chars.length ≤ places :=
    (Text.length_toDigits_le_iff (by omega)).2 (by exact_mod_cast hhigh)
  omega

/-- What is taken from a grid that is not finer than the units is a whole number: the magnitude
itself, or a multiple of ten. -/
theorem digits_mul_pow_of_whole {k : ℕ} {found : ShortDecimal}
    (hreads : (⟨n, 0⟩ : ShortDecimal).ReadsAs x) (hn : magnitudeOf significand scale = n)
    (hfound : neighbour? (units significand scale) unit x k = some found) :
    found.digits * 10 ^ k = n ∨ 10 ∣ found.digits * 10 ^ k := by
  cases k with
  | zero =>
    have hself := neighbour?_of_whole unit_pos (units_eq_mul hn) hreads
    rw [Nat.cast_zero, hself] at hfound
    obtain rfl := Option.some.inj hfound
    exact .inl (mul_one n)
  | succ k =>
    rw [pow_succ, ← mul_assoc]
    exact .inr (Nat.dvd_mul_left _ _)

/-- The shortest decimal of a whole magnitude is a whole number as well: the magnitude itself, or a
multiple of ten. -/
theorem ofParts_whole (h : Canonical significand scale) (hpos : 0 < significand) (hn_pos : 0 < n)
    (hn : magnitudeOf significand scale = n) :
    ∃ e : ℕ, (ofParts significand scale).exponent = e ∧
      ((ofParts significand scale).digits * 10 ^ e = n ∨
        10 ∣ (ofParts significand scale).digits * 10 ^ e) := by
  have hreads := readsAs_whole h hn_pos hn
  obtain ⟨i, found, hi, -, hfound, heq⟩ := exists_ofParts_eq hpos hreads
  -- The grid has no more digits than the whole number, so it is not finer than the units.
  have hlength := length_chars_le_magnitude hpos hn_pos hn
  obtain ⟨k, hk⟩ : ∃ k : ℕ, magnitude (units significand scale) unit - (i + 1 : ℕ) = k :=
    Int.eq_ofNat_of_zero_le (by omega)
  rw [hk] at hfound
  have hexponent : found.exponent = k := by
    rcases eq_below_or_above hfound with rfl | rfl <;> rfl
  obtain ⟨-, moved, hdigits, hmoved⟩ :=
    trimmed_spec (digits_pos_of_readsAs hpos (readsAs_of_neighbour? hfound))
  have hvalue : found.trimmed.digits * 10 ^ (k + moved) = found.digits * 10 ^ k := by
    rw [hdigits]
    ring
  refine ⟨k + moved, ?_, ?_⟩
  · rw [heq, hmoved, hexponent, Nat.cast_add]
  · rw [heq, hvalue]
    exact digits_mul_pow_of_whole hreads hn hfound

/-- The number that the digits of the shortest decimal show, where it is a whole one. -/
def shown (significand scale : ℕ) : ℕ :=
  (ofParts significand scale).digits * 10 ^ (ofParts significand scale).exponent.toNat

theorem shown_pos (h : Canonical significand scale) (hpos : 0 < significand) :
    0 < shown significand scale :=
  Nat.mul_pos (digits_pos_of_readsAs hpos (readsAs_ofParts h hpos)) (by positivity)

/-- What is shown for a whole magnitude is read as the double. -/
theorem rounds_shown (h : Canonical significand scale) (hpos : 0 < significand) (hn_pos : 0 < n)
    (hn : magnitudeOf significand scale = n) :
    Rounds ((shown significand scale : ℚ) * unit) significand scale := by
  obtain ⟨e, he, -⟩ := ofParts_whole h hpos hn_pos hn
  have hreads := readsAs_ofParts h hpos
  have hrounds := (readsAs_iff_rounds (digits_pos_of_readsAs hpos hreads)).1 hreads
  have hvalue : (ofParts significand scale).toRat = shown significand scale := by
    rw [toRat, shown, he, Int.toNat_natCast, zpow_natCast]
    push_cast
    rfl
  rwa [hvalue] at hrounds

/-- Among whole numbers of 53 bits, nothing is closer to what is shown than the magnitude. -/
theorem abs_shown_sub_le (h : Canonical significand scale) (hpos : 0 < significand) (hn_pos : 0 < n)
    (hn : magnitudeOf significand scale = n) {m' : ℕ} (hm' : m' < 2 ^ 53) (k : ℕ) :
    |(shown significand scale : ℤ) - n| ≤ |(shown significand scale : ℤ) - (m' * 2 ^ k : ℕ)| := by
  have hclosest := (rounds_shown h hpos hn_pos hn).closest m' (k + 1074) hm'
  have hunits : (m' * 2 ^ (k + 1074) : ℚ) = (m' * 2 ^ k : ℕ) * unit := by
    rw [unit_cast, pow_add, ← mul_assoc, Nat.cast_mul, Nat.cast_pow, Nat.cast_ofNat]
  rw [← magnitudeOf_mul_unit, hn, hunits, ← sub_mul, ← sub_mul, abs_mul, abs_mul,
    abs_of_pos unit_cast_pos] at hclosest
  exact_mod_cast le_of_mul_le_mul_right hclosest unit_cast_pos

/-- Where a whole number is rounded to the form of a double, the double has the value that rounding
the whole number gives. -/
theorem eq_of_rounds_whole {c c' m s : ℕ} {hc : Canonical m s} (h : Canonical significand scale)
    (hpos : 0 < c) (hrounds : Rounds ((c : ℚ) * unit) significand scale)
    (hread : ofDecimal false c 0 = .finite false m s hc) (hunits : units m s = c' * unit)
    (hn : magnitudeOf significand scale = n) : n = c' := by
  have hown : ofDecimal false c 0 = .finite false significand scale h := by
    rw [ofDecimal_eq_iff_rounds hpos, zpow_zero, mul_one]
    exact hrounds
  obtain ⟨rfl, rfl⟩ : m = significand ∧ s = scale := by simpa using hread.symm.trans hown
  rw [magnitudeOf, hunits, Nat.cast_mul, mul_div_cancel_right₀ _ unit_cast_pos.ne'] at hn
  exact_mod_cast hn.symm

/-- What is shown for a magnitude below `10 ^ 21`, which is a double, is below it too. -/
theorem shown_lt (h : Canonical significand scale) (hpos : 0 < significand) (hn_pos : 0 < n)
    (hn : magnitudeOf significand scale = n) (hlt : n < 10 ^ 21) :
    shown significand scale < 10 ^ 21 := by
  by_contra hge
  have hrounds := rounds_shown h hpos hn_pos hn
  have hself := rounds_magnitudeOf h
  -- The bound lies between the two, so it would be read as the smaller one.
  have hbound : Rounds (((10 ^ 21 : ℕ) : ℚ) * unit) significand scale := by
    refine hself.between hrounds ?_ ?_
    · rw [hn]
      exact mul_le_mul_of_nonneg_right (by exact_mod_cast hlt.le) unit_cast_pos.le
    · exact mul_le_mul_of_nonneg_right (by exact_mod_cast not_lt.1 hge) unit_cast_pos.le
  have hread : ofDecimal false (10 ^ 21) 0 =
      .finite false 7629394531250000 1091 ⟨by decide, by decide, by decide⟩ := by decide +kernel
  have hunits : units 7629394531250000 1091 = 10 ^ 21 * unit := by decide +kernel
  exact hlt.ne (eq_of_rounds_whole h (by positivity) hbound hread hunits hn)

/-- The first whole number that is read from the numeral of another one. -/
def firstRounded : ℕ := 18014398509481992

/-- Below the first whole number that is read from the numeral of another one, what is shown is the
magnitude. -/
theorem shown_eq (h : Canonical significand scale) (hpos : 0 < significand) (hn_pos : 0 < n)
    (hn : magnitudeOf significand scale = n) (hlt : n < firstRounded) :
    shown significand scale = n := by
  obtain ⟨e, he, hsame | hten⟩ := ofParts_whole h hpos hn_pos hn
  · rw [shown, he, Int.toNat_natCast, hsame]
  have hten' : 10 ∣ shown significand scale := by
    rw [shown, he, Int.toNat_natCast]
    exact hten
  have hclosest : ∀ m' k : ℕ, m' < 2 ^ 53 →
      |(shown significand scale : ℤ) - n| ≤ |(shown significand scale : ℤ) - (m' * 2 ^ k : ℕ)| :=
    fun m' k hm' => abs_shown_sub_le h hpos hn_pos hn hm' k
  have hrounds := rounds_shown h hpos hn_pos hn
  generalize shown significand scale = k at *
  unfold firstRounded at hlt
  -- A multiple of ten is even, and even numbers of 54 bits are doubles themselves.
  rcases Nat.lt_or_ge k (2 ^ 54) with hsmall | hlarge
  · have hle := hclosest (k / 2) 1 (by omega)
    have hhalf : k / 2 * 2 ^ 1 = k := by omega
    rw [hhalf, sub_self, abs_zero, abs_nonpos_iff] at hle
    omega
  · rcases eq_or_ne k 18014398509481990 with rfl | hne
    · -- The first multiple of ten past them is a tie, which goes to the number that is excluded.
      have hread : ofDecimal false 18014398509481990 0 =
          .finite false 4503599627370498 1076 ⟨by decide, by decide, by decide⟩ := by decide +kernel
      have hunits : units 4503599627370498 1076 = 18014398509481992 * unit := by decide +kernel
      exact absurd (eq_of_rounds_whole h (by omega) hrounds hread hunits hn) hlt.ne
    · -- Any further one is closer to the number that is excluded.
      have hle := hclosest 4503599627370498 2 (by omega)
      have hnext : 4503599627370498 * 2 ^ 2 = 18014398509481992 := by norm_num
      rw [hnext, abs_of_nonneg (by omega), abs_of_nonneg (by omega)] at hle
      omega

end ShortDecimal

/-! ## Numerals of integers -/

/-- The numeral of an integer: its sign and the digits of its size. -/
theorem toList_toString (k : ℤ) :
    (toString k).toList = Layout.signText (decide (k < 0)) ++ Nat.toDigits 10 k.natAbs := by
  rw [Int.toString_eq_repr, Int.repr_eq_if]
  rcases le_or_gt 0 k with hle | hlt
  · have hsize : k.toNat = k.natAbs := by omega
    rw [if_pos hle, hsize, Nat.repr_eq_ofList_toDigits, String.toList_ofList,
      decide_eq_false (not_lt.2 hle)]
    rfl
  · have hsize : (-k).toNat = k.natAbs := by omega
    rw [if_neg (not_le.2 hlt), hsize, Nat.repr_eq_ofList_toDigits, String.toList_append,
      String.toList_ofList, String.toList_ofList, decide_eq_true hlt]
    rfl

/-- The numeral of a size other than zero under a sign. -/
theorem toString_signed (negative : Bool) {n : ℕ} (hn : 0 < n) :
    toString (if negative then -(n : ℤ) else n) =
      String.ofList (Layout.signText negative ++ Nat.toDigits 10 n) := by
  rw [← String.toList_inj, String.toList_ofList, toList_toString]
  cases negative
  · rw [if_neg Bool.false_ne_true, decide_eq_false (by omega), Int.natAbs_natCast]
  · rw [if_pos rfl, decide_eq_true (by omega), Int.natAbs_neg, Int.natAbs_natCast]

/-- Different integers have different numerals. -/
theorem toString_int_inj {i j : ℤ} (h : toString i = toString j) : i = j := by
  have htext := congrArg String.toList h
  rw [toList_toString, toList_toString] at htext
  -- A minus sign is no digit, so the signs agree.
  have hminus : ∀ (n : ℕ) (rest : List Char), Nat.toDigits 10 n ≠ '-' :: rest := by
    intro n rest heq
    exact absurd (allDigits_toDigits n '-' (by simp [heq])) (by decide)
  have hsize : ∀ {n k : ℕ}, Nat.toDigits 10 n = Nat.toDigits 10 k → n = k := by
    intro n k heq
    rw [← digitsValue_toDigits n, heq, digitsValue_toDigits]
  rcases lt_or_ge i 0 with hi | hi <;> rcases lt_or_ge j 0 with hj | hj
  · rw [decide_eq_true hi, decide_eq_true hj, List.append_cancel_left_eq] at htext
    have := hsize htext
    omega
  · rw [decide_eq_true hi, decide_eq_false (not_lt.2 hj)] at htext
    exact absurd htext.symm (hminus _ _)
  · rw [decide_eq_false (not_lt.2 hi), decide_eq_true hj] at htext
    exact absurd htext (hminus _ _)
  · rw [decide_eq_false (not_lt.2 hi), decide_eq_false (not_lt.2 hj),
      List.append_cancel_left_eq] at htext
    have := hsize htext
    omega

namespace Layout

open ShortDecimal

/-- Up to 21 digits, zeros fill the places between the digits and the point. -/
theorem digitsText_canonical_whole (ds : List Char) {e : ℕ} (hlength : ds.length + e ≤ 21) :
    canonical.digitsText ds (ds.length + e) = ds ++ zeros e := by
  have hnear : ¬ ((ds.length + e : ℤ) ≤ canonical.lowest ∨
      canonical.highest < (ds.length + e : ℤ)) := by
    simp only [canonical]
    omega
  have hcount : ((ds.length : ℤ) + e).toNat - ds.length = e := by omega
  rw [digitsText, if_neg hnear, if_pos (by omega), hcount]
  rfl

/-- A double whose magnitude is a whole number below `10 ^ 21` is written as the numeral of the
integer that its digits show. -/
theorem render_canonical_whole (negative : Bool) {significand scale n : ℕ}
    (h : Binary64.Canonical significand scale) (hpos : 0 < significand) (hn_pos : 0 < n)
    (hn : magnitudeOf significand scale = n) (hlt : n < 10 ^ 21) :
    canonical.render (.finite negative significand scale h) =
      toString (if negative then -(shown significand scale : ℤ) else shown significand scale) := by
  obtain ⟨e, he, -⟩ := ofParts_whole h hpos hn_pos hn
  have hshown := shown_lt h hpos hn_pos hn hlt
  have hdigits : Nat.toDigits 10 (shown significand scale) =
      (ofParts significand scale).chars ++ zeros e := by
    rw [shown, he, Int.toNat_natCast]
    exact toDigits_mul_pow (digits_pos_of_readsAs hpos (readsAs_ofParts h hpos)) e
  -- The zeros reach up to the point, which is at most 21 digits from the start.
  have hlength : (ofParts significand scale).chars.length + e ≤ 21 := by
    have := (length_toDigits_le_iff (by decide)).2 hshown
    rwa [hdigits, List.length_append, zeros, List.length_replicate] at this
  have hpoint : (ofParts significand scale).point =
      (ofParts significand scale).chars.length + e := by
    rw [point, he, add_comm]
  rw [toString_signed negative (shown_pos h hpos), render, chars_eq canonical negative h hpos, hpoint,
    digitsText_canonical_whole _ hlength, hdigits]

end Layout

namespace Value

open ShortDecimal

/-! ## Reading integers -/

theorem cast_signed (negative : Bool) (n : ℕ) :
    ((if negative then -(n : ℤ) else n : ℤ) : ℚ) = Binary64.signed negative n := by
  cases negative
  · exact Int.cast_natCast n
  · show ((-(n : ℤ) : ℤ) : ℚ) = -(n : ℚ)
    rw [Int.cast_neg, Int.cast_natCast]

theorem natAbs_signed (negative : Bool) (n : ℕ) :
    (if negative then -(n : ℤ) else n : ℤ).natAbs = n := by
  cases negative <;> simp

/-- A double that is read as an integer has its value, which is below the bound. -/
theorem toRat?_of_ofNumber_eq_int {x : Binary64} {m : ℤ} (h : ofNumber x = .int m) :
    x.toRat? = some (m : ℚ) ∧ |m| < 10 ^ 21 := by
  by_cases hsmall : x.IsSmallWhole
  · obtain ⟨n, hn, hvalue⟩ := ofNumber_of_isSmallWhole hsmall
    obtain rfl : n = m := Value.int.inj (hn.symm.trans h)
    obtain ⟨n', hvalue', hlt⟩ := hsmall
    obtain rfl : n = n' := by exact_mod_cast Option.some.inj (hvalue.symm.trans hvalue')
    exact ⟨hvalue, hlt⟩
  · rw [ofNumber_of_not_isSmallWhole hsmall] at h
    cases h

/-- The text of a double with a whole value below `10 ^ 21` is the numeral of an integer below that
bound to which the double is the nearest one. Below the first integer that is read from another
numeral, it is the value itself. -/
theorem exists_render_eq_toString {x : Binary64} {m : ℤ} (hx : x.toRat? = some (m : ℚ))
    (hm : |m| < 10 ^ 21) :
    ∃ k : ℤ, Layout.canonical.render x = toString k ∧ k.natAbs < 10 ^ 21 ∧
      Binary64.IsNearest k x ∧ (|m| < firstRounded → k = m) := by
  obtain ⟨negative, sig, scale, h, rfl, hvalue⟩ := Binary64.exists_of_toRat? hx
  rcases Nat.eq_zero_or_pos sig with rfl | hpos
  · -- Both zeros are written as the numeral of zero.
    obtain rfl : m = 0 := by
      rw [Nat.cast_zero, zero_mul, zero_div, Binary64.signed_zero] at hvalue
      exact_mod_cast hvalue
    exact ⟨0, render_canonical_zero negative h, by decide, Binary64.isNearest_of_toRat? hx,
      fun _ => rfl⟩
  · have hmagnitude_pos : (0 : ℚ) < magnitudeOf sig scale :=
      div_pos (by exact_mod_cast Nat.mul_pos hpos (Nat.two_pow_pos scale)) Binary64.unit_cast_pos
    have hmagnitude : magnitudeOf sig scale = sig * 2 ^ scale / Binary64.unit := by
      rw [eq_div_iff Binary64.unit_cast_pos.ne', magnitudeOf_mul_unit]
    rw [← hmagnitude] at hvalue
    have hn : magnitudeOf sig scale = m.natAbs := by
      have habs := congrArg abs hvalue
      rw [Binary64.abs_signed, abs_of_pos hmagnitude_pos] at habs
      rw [← habs, Nat.cast_natAbs, Int.cast_abs]
    have hm_eq : m = if negative then -(m.natAbs : ℤ) else m.natAbs := by
      rw [hn, ← cast_signed] at hvalue
      exact_mod_cast hvalue
    have hn_pos : 0 < m.natAbs := by
      rw [hn] at hmagnitude_pos
      exact_mod_cast hmagnitude_pos
    have hlt : m.natAbs < 10 ^ 21 := by
      rw [Int.abs_eq_natAbs] at hm
      exact_mod_cast hm
    refine ⟨_, Layout.render_canonical_whole negative h hpos hn_pos hn hlt, ?_, ?_, ?_⟩
    · rw [natAbs_signed]
      exact shown_lt h hpos hn_pos hn hlt
    · have hnearest := Binary64.isNearest_of_rounds negative (Nat.cast_nonneg _)
        (rounds_shown h hpos hn_pos hn)
      rw [Binary64.ofParts, dif_pos h] at hnearest
      rwa [cast_signed]
    · intro hfirst
      rw [Int.abs_eq_natAbs] at hfirst
      rw [shown_eq h hpos hn_pos hn (by exact_mod_cast hfirst)]
      exact hm_eq.symm

/-- The double of the value `firstRounded`. -/
def firstRoundedDouble : Binary64 := .finite false 4503599627370498 1076 (by decide)

/-- The first integer that is read from the numeral of another one, and that numeral. -/
theorem parseNumberStrict_eq_firstRounded :
    parseNumberStrict (.text "18014398509481990") = .int 18014398509481992 := by
  have hread : parseText "18014398509481990" = firstRoundedDouble := by decide +kernel
  have hrender : Layout.canonical.render firstRoundedDouble = "18014398509481990" := by
    decide +kernel
  have hnumber : firstRoundedDouble.isNaN = false := rfl
  have hwhole : firstRoundedDouble.isInteger = true := by decide +kernel
  have htruncate : firstRoundedDouble.truncate? = some 18014398509481992 := by decide +kernel
  have hbound : (18014398509481992 : ℤ).natAbs < integerBound := by decide +kernel
  simp only [parseNumberStrict, parseCanonical, hread, hrender, hnumber, ofNumber, hwhole, htruncate,
    hbound, if_true, Bool.false_eq_true, if_false]

/-- An integer that is read from a text is the value of the double nearest to the integer that the
text writes. The text is its own numeral exactly if what is written is the value of a double, and
always for integers below the first one that is read from another numeral. -/
theorem parseNumberStrict_int {s : String} {m : ℤ} (h : parseNumberStrict (.text s) = .int m) :
    ∃ k : ℤ, (∀ level, (Value.int k).message level = .ok s) ∧
      (∃ x, Binary64.IsNearest k x ∧ x.toRat? = some (m : ℚ)) ∧
      ((∀ level, (Value.int m).message level = .ok s) ↔ ∃ y : Binary64, y.toRat? = some (k : ℚ)) ∧
      (|m| < firstRounded → ∀ level, (Value.int m).message level = .ok s) := by
  have hnumber : (parseNumberStrict (.text s)).isNumber = true := by
    rw [h]
    rfl
  obtain ⟨x, -, hrender, hread⟩ := exists_of_isNumber_parseNumberStrict hnumber
  obtain ⟨hx, hbound⟩ := toRat?_of_ofNumber_eq_int (hread.symm.trans h)
  obtain ⟨k, hk, hshort, hnearest, hsmall⟩ := exists_render_eq_toString hx hbound
  have hs : toString k = s := hk.symm.trans hrender
  have hnumeral : numeral k = .ok s := by rw [numeral_of_lt_pow hshort, hs]
  refine ⟨k, fun _ => hnumeral, ⟨x, hnearest, hx⟩, ⟨?_, ?_⟩, ?_⟩
  · intro hm
    obtain ⟨-, hmtext⟩ := numeral_eq_ok_iff.1 (hm .unset)
    exact ⟨x, by rw [hx, toString_int_inj (hmtext.trans hs.symm)]⟩
  · rintro ⟨y, hy⟩ level
    -- Nothing is closer to the value of a double than that value.
    have hclosest := hnearest.closest _ _ _ hx hy
    rw [sub_self, abs_zero, abs_nonpos_iff, sub_eq_zero] at hclosest
    obtain rfl : k = m := by exact_mod_cast hclosest
    exact hnumeral
  · intro hfirst level
    obtain rfl := hsmall hfirst
    exact hnumeral

/-- The integer that is read from a text need not be the one that the text writes. -/
theorem message_ne_text_of_parseNumberStrict :
    ¬ ∀ (s : String) (m : ℤ), parseNumberStrict (.text s) = .int m →
      ∀ level, (Value.int m).message level = .ok s := by
  intro hall
  have htext : numeral 18014398509481992 = .ok "18014398509481990" :=
    hall _ _ parseNumberStrict_eq_firstRounded .unset
  have hsame : toString (18014398509481992 : ℤ) = toString (18014398509481990 : ℤ) :=
    (numeral_eq_ok_iff.1 htext).2
  exact absurd (toString_int_inj hsame) (by decide)

theorem parseNumberStrict_int_firstRounded :
    parseNumberStrict (.text "18014398509481990") = .int 18014398509481992 ∧
      ∃ k : ℤ, (∀ level, (Value.int k).message level = .ok "18014398509481990") ∧
        ∃ x, Binary64.IsNearest k x ∧ x.toRat? = some ((18014398509481992 : ℤ) : ℚ) := by
  obtain ⟨k, htext, hnearest, -, -⟩ := parseNumberStrict_int parseNumberStrict_eq_firstRounded
  exact ⟨parseNumberStrict_eq_firstRounded, k, htext, hnearest⟩

end Value

end Conform
