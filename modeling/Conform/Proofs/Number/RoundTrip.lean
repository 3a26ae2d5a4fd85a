import Conform.Proofs.Number.CanonicalText

/-!
# Numbers and their canonical texts

Strict reading and canonical writing are inverse to each other.

* Writing a double and reading the text gives a number of the same value, which is an integer
  exactly for a whole double below the bound (`parseNumberStrict_render`).
* A text that is read as a number is the text of that number
  (`exists_of_isNumber_parseNumberStrict`, `formatNumber_ofNumber`).
* Doubles of one value have one text (`render_eq_of_equal`).

`canonicalText_inverse` puts these together.
-/

namespace Conform

namespace Binary64

/-! ## Whole doubles -/

/-- A double that stands for a whole number of magnitude below `10 ^ 21`. -/
def IsSmallWhole (x : Binary64) : Prop := ∃ n : ℤ, x.toRat? = some (n : ℚ) ∧ |n| < 10 ^ 21

/-- A quotient is a whole number exactly when its denominator divides its numerator. -/
theorem mkRat_eq_intCast_iff {num n : ℤ} {den : ℕ} (hden : 0 < den) :
    mkRat num den = (n : ℚ) ↔ num = n * den := by
  rw [← Rat.mkRat_self (n : ℚ), Rat.mkRat_eq_iff hden.ne' (Rat.den_nz _)]
  simp

/-- A sign before a product is one before its first factor. -/
theorem signed_mul (negative : Bool) (a b : ℕ) :
    (if negative then -((a * b : ℕ) : ℤ) else (a * b : ℕ)) =
      (if negative then -(a : ℤ) else a) * b := by
  cases negative <;> simp

/-- A number that is a multiple under a sign is a multiple. -/
theorem dvd_of_signed_eq {negative : Bool} {a b : ℕ} {n : ℤ}
    (h : (if negative then -(a : ℤ) else a) = n * b) : b ∣ a := by
  refine Int.natCast_dvd_natCast.1 ?_
  cases negative
  · exact ⟨n, by simpa [mul_comm] using h⟩
  · exact ⟨-n, by simpa [mul_comm, neg_eq_iff_eq_neg] using h⟩

/-- A double that passes for whole has the value that cutting it gives. -/
theorem toRat?_of_isInteger {x : Binary64} (h : x.isInteger = true) :
    ∃ n : ℤ, x.truncate? = some n ∧ x.toRat? = some (n : ℚ) := by
  cases x with
  | nan => simp [isInteger] at h
  | infinite negative => simp [isInteger] at h
  | finite negative significand scale hc =>
    have hmod : units significand scale % unit = 0 := by simpa [isInteger] using h
    have hdiv : units significand scale = units significand scale / unit * unit :=
      (Nat.div_mul_cancel (Nat.dvd_of_mod_eq_zero hmod)).symm
    refine ⟨_, rfl, congrArg some ((mkRat_eq_intCast_iff unit_pos).2 ?_)⟩
    rw [← signed_mul, ← hdiv]

/-- A double whose value is a whole number passes for whole. -/
theorem isInteger_of_toRat? {x : Binary64} {n : ℤ} (h : x.toRat? = some (n : ℚ)) :
    x.isInteger = true := by
  cases x with
  | nan => simp [toRat?] at h
  | infinite negative => simp [toRat?] at h
  | finite negative significand scale hc =>
    have hnum := (mkRat_eq_intCast_iff unit_pos).1 (Option.some.inj h)
    simpa [isInteger] using Nat.mod_eq_zero_of_dvd (dvd_of_signed_eq hnum)

/-! ## Zeros -/

/-- The double with the sign of a zero left out. -/
def withoutSignOfZero (x : Binary64) : Binary64 := if x.isZero then zero false else x

theorem withoutSignOfZero_ne_nan {x : Binary64} (hx : x ≠ .nan) : x.withoutSignOfZero ≠ .nan := by
  unfold withoutSignOfZero
  split_ifs
  · simp [zero]
  · exact hx

/-- A double of value zero is one of the two zeros. -/
theorem isZero_of_toRat? {x : Binary64} (h : x.toRat? = some 0) : x.isZero = true := by
  cases x with
  | nan => simp [toRat?] at h
  | infinite negative => simp [toRat?] at h
  | finite negative significand scale hc =>
    simpa [isZero] using (mkRat_units_eq_zero_iff negative significand scale).1 (Option.some.inj h)

/-- Both zeros have the value zero. -/
theorem toRat?_of_isZero {x : Binary64} (h : x.isZero = true) : x.toRat? = some 0 := by
  cases x with
  | nan => simp [isZero] at h
  | infinite negative => simp [isZero] at h
  | finite negative significand scale hc =>
    have hnone : significand = 0 := by simpa [isZero] using h
    exact congrArg some ((mkRat_units_eq_zero_iff negative significand scale).2 hnone)

/-- Zero is rounded to the positive zero. -/
theorem ofRat_zero : ofRat 0 = zero false := by
  have hround : nearest false 0 1 = nearest false (units 0 0) unit :=
    nearest_congr false one_pos unit_pos (by simp [units])
  exact hround.trans (nearest_units false _)

/-- The sign of a zero does not show in the canonical text. -/
theorem render_withoutSignOfZero (x : Binary64) :
    Layout.canonical.render x.withoutSignOfZero = Layout.canonical.render x := by
  unfold withoutSignOfZero
  split_ifs with hzero
  · cases x with
    | nan => simp [isZero] at hzero
    | infinite negative => simp [isZero] at hzero
    | finite negative significand scale hc =>
      obtain rfl : significand = 0 := by simpa [isZero] using hzero
      rw [zero, Value.render_canonical_zero, Value.render_canonical_zero]
  · rfl

/-- Taken as a number, a double does not change when the sign of a zero is left out. -/
theorem toRat?_withoutSignOfZero (x : Binary64) : x.withoutSignOfZero.toRat? = x.toRat? := by
  unfold withoutSignOfZero
  split_ifs with hzero
  · rw [toRat?_of_isZero hzero, toRat?_of_isZero rfl]
  · rfl

/-- The double nearest to the value of a double is that double without the sign of a zero. -/
theorem ofRat_eq_withoutSignOfZero {x : Binary64} {q : ℚ} (h : x.toRat? = some q) :
    ofRat q = x.withoutSignOfZero := by
  unfold withoutSignOfZero
  split_ifs with hzero
  · obtain rfl : (0 : ℚ) = q := Option.some.inj ((toRat?_of_isZero hzero).symm.trans h)
    exact ofRat_zero
  · have hne : q ≠ 0 := by
      rintro rfl
      exact hzero (isZero_of_toRat? h)
    exact ofRat_of_toRat? h hne

/-- Whether a double is whole and below the bound does not depend on the sign of a zero. -/
theorem isSmallWhole_withoutSignOfZero {x : Binary64} :
    x.withoutSignOfZero.IsSmallWhole ↔ x.IsSmallWhole := by
  rw [IsSmallWhole, IsSmallWhole, toRat?_withoutSignOfZero]

/-! ## Equal values -/

/-- The exact value of a finite double. -/
theorem ofDouble_eq_ofRat {x : Binary64} {q : ℚ} (h : x.toRat? = some q) :
    Exact.ofDouble x = Exact.ofRat q := by
  cases x with
  | nan => simp [toRat?] at h
  | infinite negative => simp [toRat?] at h
  | finite negative significand scale hc => simp [Exact.ofDouble, h]

theorem equal_ofRat_iff {p q : ℚ} :
    (Exact.ofRat p).equal (Exact.ofRat q) = true ↔ p = q := by
  simp only [Exact.equal, Exact.order_ofRat, Exact.orderRat, beq_iff_eq, Option.some.injEq]
  constructor
  · intro h
    by_contra hne
    split_ifs at h
  · rintro rfl
    simp

/-- Every double that is a number equals itself, a zero whatever its sign. -/
theorem equal_withoutSignOfZero {x : Binary64} (hx : x ≠ .nan) :
    (Exact.ofDouble x.withoutSignOfZero).equal (Exact.ofDouble x) = true := by
  cases x with
  | nan => exact absurd rfl hx
  | infinite negative =>
    simp [withoutSignOfZero, isZero, Exact.ofDouble, Exact.equal, Exact.order]
  | finite negative significand scale hc =>
    obtain ⟨q, hq⟩ : ∃ q, toRat? (.finite negative significand scale hc) = some q := ⟨_, rfl⟩
    rw [ofDouble_eq_ofRat hq, ofDouble_eq_ofRat ((toRat?_withoutSignOfZero _).trans hq),
      equal_ofRat_iff]

/-- Doubles of one value have one canonical text. -/
theorem render_eq_of_equal {x y : Binary64}
    (h : (Exact.ofDouble x).equal (Exact.ofDouble y) = true) :
    Layout.canonical.render x = Layout.canonical.render y := by
  -- Finite doubles are equal by their values, infinities by their signs, and no others are.
  cases hp : x.toRat? with
  | some p =>
    cases hq : y.toRat? with
    | some q =>
      rw [ofDouble_eq_ofRat hp, ofDouble_eq_ofRat hq, equal_ofRat_iff] at h
      subst h
      -- The two zeros are the only doubles that share a value.
      by_cases hzero : p = 0
      · subst hzero
        rw [← render_withoutSignOfZero x, ← render_withoutSignOfZero y, withoutSignOfZero,
          withoutSignOfZero, if_pos (isZero_of_toRat? hp), if_pos (isZero_of_toRat? hq)]
      · rw [← ofRat_of_toRat? hp hzero, ← ofRat_of_toRat? hq hzero]
    | none =>
      rw [ofDouble_eq_ofRat hp] at h
      cases y with
      | nan => simp [Exact.ofDouble, Exact.equal, Exact.order, Exact.ofRat] at h
      | infinite negative =>
        cases negative <;> simp [Exact.ofDouble, Exact.equal, Exact.order, Exact.ofRat] at h
      | finite negative significand scale hc => simp [toRat?] at hq
  | none =>
    cases x with
    | nan => simp [Exact.ofDouble, Exact.equal, Exact.order] at h
    | infinite negative =>
      cases y with
      | nan => simp [Exact.ofDouble, Exact.equal, Exact.order] at h
      | infinite negative' =>
        cases negative <;> cases negative' <;>
          first | rfl | simp [Exact.ofDouble, Exact.equal, Exact.order] at h
      | finite negative' significand scale hc =>
        cases negative <;>
          simp [Exact.ofDouble, Exact.equal, Exact.order, Exact.ofRat] at h
    | finite negative significand scale hc => simp [toRat?] at hp

end Binary64

namespace Value

/-! ## Reading as a number -/

/-- A whole double below the bound is read as its integer. -/
theorem ofNumber_of_isSmallWhole {x : Binary64} (h : x.IsSmallWhole) :
    ∃ n : ℤ, ofNumber x = .int n ∧ x.toRat? = some (n : ℚ) := by
  obtain ⟨n, hn, hbound⟩ := h
  have hinteger := Binary64.isInteger_of_toRat? hn
  obtain ⟨m, hm, hm'⟩ := Binary64.toRat?_of_isInteger hinteger
  obtain rfl : m = n := by exact_mod_cast Option.some.inj (hm'.symm.trans hn)
  have hsmall : m.natAbs < integerBound := by
    rw [Int.abs_eq_natAbs] at hbound
    exact_mod_cast hbound
  exact ⟨m, by simp [ofNumber, hinteger, hm, hsmall], hm'⟩

/-- Any other double is read as it is. -/
theorem ofNumber_of_not_isSmallWhole {x : Binary64} (h : ¬ x.IsSmallWhole) :
    ofNumber x = .float none x := by
  unfold ofNumber
  split_ifs with hinteger
  · obtain ⟨n, hn, hn'⟩ := Binary64.toRat?_of_isInteger hinteger
    have hlarge : ¬ n.natAbs < integerBound := by
      intro hlt
      refine h ⟨n, hn', ?_⟩
      rw [Int.abs_eq_natAbs]
      exact_mod_cast hlt
    simp [hn, hlarge]
  · rfl

theorem isNumber_ofNumber (x : Binary64) : (ofNumber x).isNumber = true := by
  by_cases h : x.IsSmallWhole
  · obtain ⟨n, hn, -⟩ := ofNumber_of_isSmallWhole h
    rw [hn]
    rfl
  · rw [ofNumber_of_not_isSmallWhole h]
    rfl

/-- What a double is read as has the exact value of the double. -/
theorem exactOf_ofNumber (x : Binary64) : (ofNumber x).exactOf = some (Exact.ofDouble x) := by
  by_cases h : x.IsSmallWhole
  · obtain ⟨n, hn, hn'⟩ := ofNumber_of_isSmallWhole h
    rw [hn, Binary64.ofDouble_eq_ofRat hn']
    rfl
  · rw [ofNumber_of_not_isSmallWhole h]
    rfl

/-- What a double is read as is written as the double. -/
theorem formatNumber_ofNumber (x : Binary64) :
    (ofNumber x).formatNumber = .ok (Layout.canonical.render x) := by
  by_cases h : x.IsSmallWhole
  -- The integer is turned back into the nearest double, which is the one it came from.
  · obtain ⟨n, hn, hn'⟩ := ofNumber_of_isSmallWhole h
    have hnear := Binary64.ofRat_eq_withoutSignOfZero hn'
    have hfinite : x.withoutSignOfZero.isInfinite = false := by
      have hvalue := (Binary64.toRat?_withoutSignOfZero x).trans hn'
      cases hx : x.withoutSignOfZero with
      | infinite negative => simp [hx, Binary64.toRat?] at hvalue
      | nan => rfl
      | finite negative significand scale hc => rfl
    have hdouble : toDouble (.int n) = .ok x.withoutSignOfZero := by
      simp [toDouble, finiteDouble, hnear, hfinite]
    rw [hn, formatNumber, hdouble, Except.map, Binary64.render_withoutSignOfZero]
  · rw [ofNumber_of_not_isSmallWhole h]
    rfl

/-! ## Inverse to each other -/

/-- The canonical text of a double is read as the double, but for the sign of a zero. -/
theorem parseText_render {x : Binary64} (hx : x ≠ .nan) :
    parseText (Layout.canonical.render x) = x.withoutSignOfZero := by
  cases x with
  | nan => exact absurd rfl hx
  | infinite negative => exact parseText_render_infinite negative
  | finite negative significand scale hc =>
    rcases Nat.eq_zero_or_pos significand with rfl | hpos
    · rw [render_canonical_zero, parseText_zero]
      rfl
    · have hzero : (Binary64.finite negative significand scale hc).isZero = false := by
        simp [Binary64.isZero, hpos.ne']
      rw [parseText_render_finite hc hpos, Binary64.withoutSignOfZero, hzero]
      rfl

/-- The canonical text of a double is a normal form, of that double but for the sign of a
zero. -/
theorem parseNumberStrict_render {x : Binary64} (hx : x ≠ .nan) :
    parseNumberStrict (.text (Layout.canonical.render x)) = ofNumber x.withoutSignOfZero := by
  have hnumber : x.withoutSignOfZero.isNaN = false := by
    cases hw : x.withoutSignOfZero with
    | nan => exact absurd hw (Binary64.withoutSignOfZero_ne_nan hx)
    | infinite negative => rfl
    | finite negative significand scale hc => rfl
  simp only [parseNumberStrict, parseCanonical, parseText_render hx, hnumber,
    Binary64.render_withoutSignOfZero]
  simp

/-- A text that is read as a number is the canonical text of a double. -/
theorem exists_of_isNumber_parseNumberStrict {s : String}
    (h : (parseNumberStrict (.text s)).isNumber = true) :
    ∃ x, x ≠ Binary64.nan ∧ Layout.canonical.render x = s ∧
      parseNumberStrict (.text s) = ofNumber x := by
  simp only [parseNumberStrict, parseCanonical] at h ⊢
  split_ifs at h ⊢ with hnan hsame
  · exact absurd h (by simp [isNumber])
  · refine ⟨parseText s, ?_, hsame, rfl⟩
    intro hx
    exact hnan (by rw [hx]; rfl)
  · exact absurd h (by simp [isNumber])

/-- A number is compared with anything that has an exact value by the exact values. -/
theorem equal_of_exactOf {v w : Value} {a b : Exact} (hv : v.isNumber = true)
    (ha : v.exactOf = some a) (hb : w.exactOf = some b) (hquiet : a.isSignalling = false)
    (hquiet' : b.isSignalling = false) : v.equal w = a.equal b := by
  have hparts : v.parts? = some (a, .ofRat 0) := by
    cases v <;> simp_all [parts?, isNumber]
  have hparts' : w.parts? = some (b, .ofRat 0) := by
    cases w <;> simp_all [parts?, exactOf]
  have hzero : (Exact.ofRat 0).equal (Exact.ofRat 0) = true := Binary64.equal_ofRat_iff.2 rfl
  have hnumbers : v.equal? w = equalNumbers? v w := by
    cases v <;> simp only [isNumber, Bool.false_eq_true] at hv <;> rfl
  simp [equal, hnumbers, equalNumbers?, hparts, hparts', hquiet, hquiet', hzero, affirmed]

/-- The exact value of a double is never a signalling one. -/
theorem isSignalling_ofDouble (x : Binary64) : (Exact.ofDouble x).isSignalling = false := by
  cases x <;> rfl

/-- Strict reading and canonical writing are inverse to each other. A double that is a number is
written as a text that is read as a number equal to it, an integer exactly if the double is whole
and below the bound. A text that is read as a number is what that number is written as. So the
texts read as numbers are those of the doubles, and two of them never stand for equal numbers. -/
theorem canonicalText_inverse :
    (∀ (mark : Mark) (x : Binary64), x ≠ .nan →
      ∃ s, (Value.float mark x).formatNumber = .ok s ∧
        (parseNumberStrict (.text s)).equal (.float mark x) = true ∧
        (x.IsSmallWhole → ∃ n, parseNumberStrict (.text s) = .int n) ∧
        (¬ x.IsSmallWhole → ∃ mark' y, parseNumberStrict (.text s) = .float mark' y)) ∧
    (∀ s, (parseNumberStrict (.text s)).isNumber = true →
      (parseNumberStrict (.text s)).formatNumber = .ok s) ∧
    (∀ s, (parseNumberStrict (.text s)).isNumber = true ↔
      ∃ mark x, x ≠ Binary64.nan ∧ (Value.float mark x).formatNumber = .ok s) ∧
    ∀ s t, (parseNumberStrict (.text s)).isNumber = true →
      (parseNumberStrict (.text t)).isNumber = true →
      (parseNumberStrict (.text s)).equal (parseNumberStrict (.text t)) = true → s = t := by
  refine ⟨?_, ?_, ?_, ?_⟩
  · intro mark x hx
    have hread := parseNumberStrict_render hx
    refine ⟨Layout.canonical.render x, rfl, ?_, ?_, ?_⟩
    · rw [hread, equal_of_exactOf (isNumber_ofNumber _) (exactOf_ofNumber _) rfl
        (isSignalling_ofDouble _) (isSignalling_ofDouble _)]
      exact Binary64.equal_withoutSignOfZero hx
    · intro hsmall
      obtain ⟨n, hn, -⟩ :=
        ofNumber_of_isSmallWhole (Binary64.isSmallWhole_withoutSignOfZero.2 hsmall)
      exact ⟨n, hread.trans hn⟩
    · intro hnot
      have hnot' : ¬ x.withoutSignOfZero.IsSmallWhole :=
        mt Binary64.isSmallWhole_withoutSignOfZero.1 hnot
      exact ⟨none, _, hread.trans (ofNumber_of_not_isSmallWhole hnot')⟩
  · intro s hs
    obtain ⟨x, -, hrender, hread⟩ := exists_of_isNumber_parseNumberStrict hs
    rw [hread, formatNumber_ofNumber, hrender]
  · intro s
    constructor
    · intro hs
      obtain ⟨x, hx, hrender, -⟩ := exists_of_isNumber_parseNumberStrict hs
      exact ⟨none, x, hx, congrArg Except.ok hrender⟩
    · rintro ⟨mark, x, hx, hs⟩
      obtain rfl : Layout.canonical.render x = s := Except.ok.inj hs
      rw [parseNumberStrict_render hx]
      exact isNumber_ofNumber _
  · intro s t hs ht hequal
    obtain ⟨x, -, hrender, hread⟩ := exists_of_isNumber_parseNumberStrict hs
    obtain ⟨y, -, hrender', hread'⟩ := exists_of_isNumber_parseNumberStrict ht
    rw [hread, hread', equal_of_exactOf (isNumber_ofNumber _) (exactOf_ofNumber _)
      (exactOf_ofNumber _) (isSignalling_ofDouble _) (isSignalling_ofDouble _)] at hequal
    rw [← hrender, ← hrender', Binary64.render_eq_of_equal hequal]

end Value

end Conform
