import Conform.Arithmetic
import Conform.Proofs.Number.CanonicalText
import Conform.Proofs.Number.FewestDigits

/-!
# The canonical form of a double

What the canonical text of a finite double other than zero is, and which number it denotes
(`Value.formatNumber_shortest`). The shortest decimal of the double's magnitude is `0.d₁…dₖ * 10 ^
n` with `d₁` and `dₖ` other than zero (`ShortestDigits`). The text denotes that decimal under the
sign, shows its digits (`significantDigits`), and is laid out by the position `n` of the point
alone: with the point in its place (`PlainText`) or with an exponent (`ExponentialText`).
-/

namespace Conform

open Text

namespace Text

/-! ## Digits without zeros around them -/

/-- Digits that neither start nor end with a zero. -/
structure Significant (ds : List Char) : Prop where
  /-- There are digits, and nothing else. -/
  digits : AllDigits ds
  /-- There is a first digit. -/
  nonempty : ds ≠ []
  /-- The first digit is no zero. -/
  first : ds.head? ≠ some '0'
  /-- The last digit is no zero. -/
  last : ds.getLast? ≠ some '0'

/-- The digits of a text up to its exponent, without the zeros that they start and end with. -/
def significantDigits (cs : List Char) : List Char :=
  ((((cs.takeWhile (· ≠ 'e')).filter Char.isDigit).dropWhile (· = '0')).reverse.dropWhile
    (· = '0')).reverse

/-- The number `0.d₁…dₖ * 10 ^ n` for the digits `d₁…dₖ`. -/
def fractionValue (ds : List Char) (n : ℤ) : ℚ := digitsValue (digitValues ds) * 10 ^ (n - ds.length)

variable {cs ds : List Char}

theorem digitChar_ne_zero {d : ℕ} (hd : d < 10) (hne : d ≠ 0) : d.digitChar ≠ '0' := by
  revert d
  decide

/-- A number other than zero is written without a zero before its digits. -/
theorem head?_toDigits_ne {n : ℕ} (hn : n ≠ 0) : (Nat.toDigits 10 n).head? ≠ some '0' := by
  induction n using Nat.strongRecOn with
  | _ n ih =>
    rcases Nat.lt_or_ge n 10 with hlt | hge
    · rw [Nat.toDigits_of_lt_base hlt]
      simpa using digitChar_ne_zero hlt hn
    · rw [Nat.toDigits_of_base_le (by decide) hge, List.head?_append_of_ne_nil _ Nat.toDigits_ne_nil]
      exact ih (n / 10) (by omega) (by omega)

/-- The last digit of a number is its remainder by ten. -/
theorem getLast?_toDigits (n : ℕ) : (Nat.toDigits 10 n).getLast? = some (n % 10).digitChar := by
  rcases Nat.lt_or_ge n 10 with hlt | hge
  · rw [Nat.toDigits_of_lt_base hlt, Nat.mod_eq_of_lt hlt]
    rfl
  · rw [Nat.toDigits_of_base_le (by decide) hge, List.getLast?_concat]

/-- A number that is no multiple of ten has significant digits. -/
theorem significant_toDigits {n : ℕ} (hn : n % 10 ≠ 0) : Significant (Nat.toDigits 10 n) where
  digits := allDigits_toDigits n
  nonempty := Nat.toDigits_ne_nil
  first := head?_toDigits_ne (by omega)
  last := by
    rw [getLast?_toDigits]
    simpa using digitChar_ne_zero (Nat.mod_lt n (by decide)) hn

/-- Zeros at the front are dropped, up to a character that is none. -/
theorem dropWhile_zeros_append (k : ℕ) (hfirst : ds.head? ≠ some '0') :
    (List.replicate k '0' ++ ds).dropWhile (· = '0') = ds := by
  rw [List.dropWhile_append_of_pos (by simp)]
  cases ds with
  | nil => rfl
  | cons d ds => exact List.dropWhile_cons_of_neg (by simpa using hfirst)

/-- A text of digits and points. -/
def Shown (cs : List Char) : Prop := ∀ c ∈ cs, c.isDigit ∨ c = '.'

theorem shown_of_allDigits (hcs : AllDigits cs) : Shown cs := fun c hc => .inl (hcs c hc)

theorem shown_point (hcs : AllDigits cs) (hds : AllDigits ds) : Shown (cs ++ '.' :: ds) := by
  intro c hc
  rcases List.mem_append.1 hc with hmem | hmem
  · exact .inl (hcs c hmem)
  · exact (List.mem_cons.1 hmem).elim .inr fun hmem => .inl (hds c hmem)

theorem filter_digits (hcs : AllDigits cs) : cs.filter Char.isDigit = cs := List.filter_eq_self.2 hcs

theorem filter_point (hcs : AllDigits cs) (hds : AllDigits ds) :
    (cs ++ '.' :: ds).filter Char.isDigit = cs ++ ds := by
  rw [List.filter_append, List.filter_cons_of_neg (by decide), filter_digits hcs, filter_digits hds]

/-- No digit and no point is the letter of an exponent. -/
theorem takeWhile_shown (hcs : Shown cs) (rest : List Char) :
    (cs ++ rest).takeWhile (· ≠ 'e') = cs ++ rest.takeWhile (· ≠ 'e') := by
  refine List.takeWhile_append_of_pos fun c hc => decide_eq_true ?_
  rintro rfl
  exact absurd (hcs 'e' hc) (by decide)

/-- Zeros before and after digits are not significant, and neither is an exponent. -/
theorem significantDigits_eq (hds : Significant ds) (hcs : Shown cs) (j k : ℕ)
    (h : cs.filter Char.isDigit = List.replicate j '0' ++ (ds ++ List.replicate k '0')) :
    significantDigits cs = ds ∧ ∀ es, significantDigits (cs ++ 'e' :: es) = ds := by
  have hfirst : (ds ++ List.replicate k '0').head? ≠ some '0' := by
    rw [List.head?_append_of_ne_nil _ hds.nonempty]
    exact hds.first
  have hlast : ds.reverse.head? ≠ some '0' := by
    rw [List.head?_reverse]
    exact hds.last
  have hstrip : (((cs.filter Char.isDigit).dropWhile (· = '0')).reverse.dropWhile
      (· = '0')).reverse = ds := by
    rw [h, dropWhile_zeros_append j hfirst, List.reverse_append, List.reverse_replicate,
      dropWhile_zeros_append k hlast, List.reverse_reverse]
  constructor
  · have htake := takeWhile_shown hcs []
    rw [List.append_nil, List.takeWhile_nil, List.append_nil] at htake
    rw [significantDigits, htake]
    exact hstrip
  · intro es
    rw [significantDigits, takeWhile_shown hcs, List.takeWhile_cons_of_neg (by decide),
      List.append_nil]
    exact hstrip

/-! ## Layouts -/

/-- A number without an exponent: an integer without zeros before it, or an integer part that is a
single zero or has none before it, a point, and digits that do not end in a zero. -/
inductive PlainText : List Char → Prop where
  | whole {cs : List Char} (hcs : AllDigits cs) (hne : cs ≠ []) (hfirst : cs.head? ≠ some '0') :
    PlainText cs
  | point {cs fs : List Char} (hcs : AllDigits cs) (hne : cs ≠ [])
    (hfirst : cs = ['0'] ∨ cs.head? ≠ some '0') (hfs : AllDigits fs) (hne' : fs ≠ [])
    (hlast : fs.getLast? ≠ some '0') : PlainText (cs ++ '.' :: fs)

/-- A number with an exponent: the first digit, the others after a point if there are any, the
letter, a sign, and the size of the exponent without zeros before it. -/
inductive ExponentialText (ds : List Char) (exponent : ℤ) : List Char → Prop where
  | single {d : Char} {es : List Char} (hds : ds = [d]) (hes : AllDigits es)
    (hfirst : es.head? ≠ some '0') (hsize : digitsValue (digitValues es) = exponent.natAbs) :
    ExponentialText ds exponent (d :: 'e' :: (if 0 ≤ exponent then '+' else '-') :: es)
  | several {d : Char} {rest es : List Char} (hds : ds = d :: rest) (hne : rest ≠ [])
    (hes : AllDigits es) (hfirst : es.head? ≠ some '0')
    (hsize : digitsValue (digitValues es) = exponent.natAbs) :
    ExponentialText ds exponent
      (d :: '.' :: (rest ++ 'e' :: (if 0 ≤ exponent then '+' else '-') :: es))

theorem PlainText.not_mem (h : PlainText cs) : 'e' ∉ cs := by
  have hno {cs : List Char} (hcs : AllDigits cs) : 'e' ∉ cs := fun hmem =>
    absurd (hcs 'e' hmem) (by decide)
  cases h with
  | whole hcs hne hfirst => exact hno hcs
  | point hcs hne hfirst hfs hne' hlast =>
    simp [hno hcs, hno hfs]

theorem ExponentialText.mem {exponent : ℤ} (h : ExponentialText ds exponent cs) : 'e' ∈ cs := by
  cases h with
  | single => simp
  | several => simp

/-- A text is laid out in one of the two ways, by the position of the point. -/
structure CanonicalForm (ds : List Char) (n : ℤ) (cs : List Char) : Prop where
  /-- The point is in its place up to 21 digits before it and 5 zeros after it. -/
  plain : PlainText cs ↔ -6 < n ∧ n ≤ 21
  /-- Everywhere else there is an exponent. -/
  exponential : ExponentialText ds (n - 1) cs ↔ ¬ (-6 < n ∧ n ≤ 21)
  /-- The digits are shown, all of them, in their order, with only zeros around them. -/
  digits : significantDigits cs = ds

/-- A text with the point in its place has no exponent. -/
theorem CanonicalForm.of_plain {n : ℤ} (h : PlainText cs) (hn : -6 < n ∧ n ≤ 21)
    (hdigits : significantDigits cs = ds) : CanonicalForm ds n cs :=
  ⟨iff_of_true h hn, iff_of_false (fun hexp => h.not_mem hexp.mem) (not_not.2 hn), hdigits⟩

/-- A text with an exponent does not have the point in its place. -/
theorem CanonicalForm.of_exponential {n : ℤ} (h : ExponentialText ds (n - 1) cs)
    (hn : ¬ (-6 < n ∧ n ≤ 21)) (hdigits : significantDigits cs = ds) : CanonicalForm ds n cs :=
  ⟨iff_of_false (fun hplain => hplain.not_mem h.mem) hn, iff_of_true h hn, hdigits⟩

end Text

namespace Layout

variable {ds : List Char} {point : ℤ}

/-- The exponent of the canonical layout has no zeros before its digits. -/
theorem exponentText_canonical (exponent : ℤ) :
    canonical.exponentText exponent =
      (if 0 ≤ exponent then '+' else '-') :: Nat.toDigits 10 exponent.natAbs := by
  have hpad : 1 - (Nat.toDigits 10 exponent.natAbs).length = 0 :=
    Nat.sub_eq_zero_of_le Nat.length_toDigits_pos
  simp [exponentText, canonical, zeros, hpad]

/-- Digits with an exponent. -/
theorem exponentialText_scientific (hds : Significant ds) {exponent : ℤ} (hexp : exponent ≠ 0) :
    ExponentialText ds exponent (mantissa ds ++ 'e' :: canonical.exponentText exponent) := by
  have hfirst : (Nat.toDigits 10 exponent.natAbs).head? ≠ some '0' :=
    head?_toDigits_ne (Int.natAbs_ne_zero.2 hexp)
  have hsize : digitsValue (digitValues (Nat.toDigits 10 exponent.natAbs)) = exponent.natAbs :=
    digitsValue_toDigits _
  rw [exponentText_canonical]
  match ds with
  | [] => exact absurd rfl hds.nonempty
  | [d] => exact .single rfl (allDigits_toDigits _) hfirst hsize
  | d :: c :: rest => exact .several rfl (by simp) (allDigits_toDigits _) hfirst hsize

/-- The mantissa shows the digits, with at most a point among them. -/
theorem shown_mantissa (hds : AllDigits ds) :
    Shown (mantissa ds) ∧ (mantissa ds).filter Char.isDigit = ds := by
  match ds with
  | [] => exact ⟨shown_of_allDigits hds, rfl⟩
  | [d] => exact ⟨shown_of_allDigits hds, filter_digits hds⟩
  | d :: c :: rest =>
    have hfirst : AllDigits [d] := fun x hx => hds x (List.mem_cons.2 (.inl (by simpa using hx)))
    have hrest : AllDigits (c :: rest) := fun x hx => hds x (List.mem_cons_of_mem d hx)
    exact ⟨shown_point hfirst hrest, filter_point hfirst hrest⟩

/-- Far from its digits, the point is told by an exponent. -/
theorem canonicalForm_scientific (hds : Significant ds) (hfar : point ≤ -6 ∨ 21 < point) :
    CanonicalForm ds point (mantissa ds ++ 'e' :: canonical.exponentText (point - 1)) := by
  obtain ⟨hshown, hfilter⟩ := shown_mantissa hds.digits
  have hdigits := (significantDigits_eq hds hshown 0 0 (by simpa using hfilter)).2
  exact .of_exponential (exponentialText_scientific hds (by omega)) (by omega) (hdigits _)

/-- After all digits, the point is not written, and zeros fill the places up to it. -/
theorem canonicalForm_whole (hds : Significant ds) (hle : ds.length ≤ point) (hpoint : point ≤ 21)
    (k : ℕ) : CanonicalForm ds point (ds ++ zeros k) := by
  have hall : AllDigits (ds ++ zeros k) := allDigits_append.2 ⟨hds.digits, allDigits_replicate _⟩
  have hfirst : (ds ++ zeros k).head? ≠ some '0' := by
    rw [List.head?_append_of_ne_nil _ hds.nonempty]
    exact hds.first
  have hdigits := significantDigits_eq hds (shown_of_allDigits hall) 0 k (filter_digits hall)
  exact .of_plain (.whole hall (by simp [hds.nonempty]) hfirst) (by omega) hdigits.1

/-- Among the digits, the point stands in its place. -/
theorem canonicalForm_inside (hds : Significant ds) (hpos : 0 < point) (hlt : point < ds.length)
    (hpoint : point ≤ 21) :
    CanonicalForm ds point (ds.take point.toNat ++ '.' :: ds.drop point.toNat) := by
  have htake : AllDigits (ds.take point.toNat) := fun c hc => hds.digits c (List.mem_of_mem_take hc)
  have hdrop : AllDigits (ds.drop point.toNat) := fun c hc => hds.digits c (List.mem_of_mem_drop hc)
  have htake_ne : ds.take point.toNat ≠ [] := by
    intro hnil
    have hlength := congrArg List.length hnil
    rw [List.length_take, List.length_nil] at hlength
    omega
  have hdrop_ne : ds.drop point.toNat ≠ [] := by
    intro hnil
    have hlength := congrArg List.length hnil
    rw [List.length_drop, List.length_nil] at hlength
    omega
  have hfirst : (ds.take point.toNat).head? ≠ some '0' := by
    rw [List.head?_take, if_neg (by omega)]
    exact hds.first
  have hlast : (ds.drop point.toNat).getLast? ≠ some '0' := by
    rw [List.getLast?_drop, if_neg (by omega)]
    exact hds.last
  have hfilter := filter_point htake hdrop
  rw [List.take_append_drop] at hfilter
  have hdigits := significantDigits_eq hds (shown_point htake hdrop) 0 0 (by simpa using hfilter)
  exact .of_plain (.point htake htake_ne (.inr hfirst) hdrop hdrop_ne hlast) (by omega) hdigits.1

/-- Before all digits, the point stands after a zero, and zeros fill the places up to the digits. -/
theorem canonicalForm_below (hds : Significant ds) (hpos : point ≤ 0) (hpoint : -6 < point) (k : ℕ) :
    CanonicalForm ds point ('0' :: '.' :: (zeros k ++ ds)) := by
  have hzero : AllDigits ['0'] := allDigits_replicate 1
  have hfraction : AllDigits (zeros k ++ ds) :=
    allDigits_append.2 ⟨allDigits_replicate _, hds.digits⟩
  have hlast : (zeros k ++ ds).getLast? ≠ some '0' := by
    rw [List.getLast?_append_of_ne_nil _ hds.nonempty]
    exact hds.last
  have hfilter : (['0'] ++ '.' :: (zeros k ++ ds)).filter Char.isDigit =
      List.replicate (k + 1) '0' ++ (ds ++ List.replicate 0 '0') := by
    rw [filter_point hzero hfraction, List.replicate_succ, List.replicate_zero, List.append_nil]
    rfl
  have hdigits := significantDigits_eq hds (shown_point hzero hfraction) (k + 1) 0 hfilter
  exact .of_plain (.point hzero (by simp) (.inl rfl) hfraction (by simp [hds.nonempty]) hlast)
    (by omega) hdigits.1

/-- The canonical layout of significant digits is their canonical form. -/
theorem canonicalForm_digitsText (hds : Significant ds) (point : ℤ) :
    CanonicalForm ds point (canonical.digitsText ds point) := by
  by_cases hfar : point ≤ -6 ∨ 21 < point
  · show CanonicalForm ds point (if point ≤ -6 ∨ 21 < point then _ else _)
    rw [if_pos hfar]
    exact canonicalForm_scientific hds hfar
  · show CanonicalForm ds point (if point ≤ -6 ∨ 21 < point then _ else _)
    rw [if_neg hfar]
    split_ifs with hwhole hinside
    · exact canonicalForm_whole hds hwhole (by omega) _
    · exact canonicalForm_inside hds hinside (not_le.1 hwhole) (by omega)
    · exact canonicalForm_below hds (not_lt.1 hinside) (by omega) _

end Layout

/-! ## The shortest decimal -/

namespace Numeral

/-- The rational number that a numeral denotes; an infinity denotes none. -/
def toRat? : Numeral → Option ℚ
  | .infinity _ => none
  | .decimal negative coefficient exponent =>
    some (Binary64.signed negative (coefficient * 10 ^ exponent))

/-- A text denotes a rational number. -/
def Denotes (cs : List Char) (q : ℚ) : Prop :=
  ∃ numeral, Writes cs numeral ∧ numeral.toRat? = some q

end Numeral

/-- The digits of the shortest decimal that is read as a double, and the position of its point. -/
structure ShortestDigits (x : Binary64) (ds : List Char) (n : ℤ) : Prop where
  /-- The digits do not start or end with a zero. -/
  significant : Significant ds
  /-- The decimal `0.d₁…dₖ * 10 ^ n` is read as the double. -/
  reads : (Numeral.decimal false (digitsValue (digitValues ds)) (n - ds.length)).value = x
  /-- No decimal with fewer digits is. -/
  fewest : ∀ coefficient exponent, (Numeral.decimal false coefficient exponent).value = x →
    ds.length ≤ (Nat.toDigits 10 coefficient).length

namespace ShortDecimal

variable {significand scale : ℕ}

/-- The exponent is the position of the point, moved by the digits. -/
theorem point_sub_length (d : ShortDecimal) : d.point - d.chars.length = d.exponent := by
  rw [point, add_sub_cancel_right]

/-- The decimal that is chosen for a double is the shortest one that is read as it. -/
theorem shortestDigits_ofParts (h : Binary64.Canonical significand scale) (hpos : 0 < significand) :
    ShortestDigits (.finite false significand scale h) (ofParts significand scale).chars
      (ofParts significand scale).point := by
  have hreads := readsAs_ofParts h hpos
  obtain ⟨i, found, -, -, hfound, heq⟩ := exists_ofParts_eq hpos hreads
  have hfound_pos := digits_pos_of_readsAs hpos (readsAs_of_neighbour? hfound)
  refine ⟨?_, ?_, ?_⟩
  · rw [heq]
    exact significant_toDigits (trimmed_spec hfound_pos).1
  · rw [point_sub_length, chars, digitsValue_toDigits]
    exact hreads
  · intro coefficient exponent hvalue
    exact length_chars_le_of_readsAs (d := ⟨coefficient, exponent⟩) hpos hvalue

/-- In every layout, the text of a double denotes the shortest decimal under the sign. -/
theorem denotes_chars (layout : Layout) (negative : Bool) (h : Binary64.Canonical significand scale)
    (hpos : 0 < significand) :
    Numeral.Denotes (layout.chars (.finite negative significand scale h))
      (Binary64.signed negative (fractionValue (ofParts significand scale).chars
        (ofParts significand scale).point)) := by
  obtain ⟨k, hwrites⟩ := layout.writes_chars negative h hpos
  refine ⟨_, hwrites, ?_⟩
  have hvalue : (((ofParts significand scale).digits * 10 ^ k : ℕ) : ℚ) *
      10 ^ ((ofParts significand scale).exponent - k) =
        fractionValue (ofParts significand scale).chars (ofParts significand scale).point := by
    rw [fractionValue, point_sub_length, chars, digitsValue_toDigits, zpow_sub₀ (by norm_num),
      zpow_natCast, Nat.cast_mul, Nat.cast_pow, Nat.cast_ofNat, mul_assoc,
      mul_div_cancel₀ _ (by positivity)]
  exact congrArg (fun r => some (Binary64.signed negative r)) hvalue

end ShortDecimal

namespace Value

/-- The magnitude of a finite double. -/
theorem unsignedDouble_finite (negative : Bool) {significand scale : ℕ}
    (h : Binary64.Canonical significand scale) :
    unsignedDouble (.finite negative significand scale h) = .finite false significand scale h := by
  cases negative <;> rfl

/-- The canonical text of a finite double other than zero denotes, under its sign, the shortest
decimal of its magnitude, which is the one that the inner text of the magnitude denotes. It is the
canonical form of the digits of that decimal. -/
theorem formatNumber_shortest (mark : Mark) {x : Binary64} {q : ℚ} (hx : x.toRat? = some q)
    (hq : q ≠ 0) :
    ∃ (ds : List Char) (n : ℤ) (body : List Char),
      ShortestDigits (unsignedDouble x) ds n ∧
      (∀ level, ∃ t, (Value.float none (unsignedDouble x)).inner level = .ok t ∧
        Numeral.Denotes t.toList (fractionValue ds n)) ∧
      (Value.float mark x).formatNumber =
        .ok (String.ofList ((if q < 0 then ['-'] else []) ++ body)) ∧
      Numeral.Denotes ((if q < 0 then ['-'] else []) ++ body)
        (if q < 0 then -fractionValue ds n else fractionValue ds n) ∧
      CanonicalForm ds n body := by
  obtain ⟨negative, m, s, h, rfl, rfl⟩ := Binary64.exists_of_toRat? hx
  have hpos : 0 < m := by
    refine Nat.pos_of_ne_zero fun hzero => hq ?_
    rw [hzero, Nat.cast_zero, zero_mul, zero_div, Binary64.signed_zero]
  have hmagnitude : (0 : ℚ) < m * 2 ^ s / Binary64.unit :=
    div_pos (by positivity) Binary64.unit_cast_pos
  set short := ShortDecimal.ofParts m s with hshort
  have hshortest := ShortDecimal.shortestDigits_ofParts h hpos
  have hchars : Layout.canonical.chars (.finite negative m s h) =
      (if negative = true then ['-'] else []) ++
        Layout.canonical.digitsText short.chars short.point :=
    Layout.chars_eq Layout.canonical negative h hpos
  refine ⟨short.chars, short.point, Layout.canonical.digitsText short.chars short.point, ?_, ?_, ?_,
    ?_, Layout.canonicalForm_digitsText hshortest.significant short.point⟩
  · rw [unsignedDouble_finite]
    exact hshortest
  · intro level
    rw [unsignedDouble_finite]
    refine ⟨_, rfl, ?_⟩
    rw [Layout.render, String.toList_ofList]
    exact ShortDecimal.denotes_chars Layout.plain false h hpos
  · rw [Binary64.ite_signed_lt_zero hmagnitude, ← hchars]
    rfl
  · rw [Binary64.ite_signed_lt_zero hmagnitude, Binary64.ite_signed_lt_zero hmagnitude, ← hchars]
    exact ShortDecimal.denotes_chars Layout.canonical negative h hpos

/-- The double nearest to minus one tenth. -/
def minusTenth : Binary64 := .finite true 7205759403792794 1018 (by decide)

/-- The exact value of the double nearest to minus one tenth is not minus one tenth, and its
canonical text denotes a decimal all the same. -/
theorem formatNumber_minusTenth :
    minusTenth.toRat? = some (-3602879701896397 / 36028797018963968) ∧
      (-3602879701896397 / 36028797018963968 : ℚ) ≠ 0 ∧
      ∃ (ds : List Char) (n : ℤ) (body : List Char),
        (Value.float none minusTenth).formatNumber = .ok (String.ofList ('-' :: body)) ∧
        Numeral.Denotes ('-' :: body) (-fractionValue ds n) ∧ CanonicalForm ds n body := by
  have hvalue : minusTenth.toRat? = some (-3602879701896397 / 36028797018963968) := by decide +kernel
  have hneg : (-3602879701896397 / 36028797018963968 : ℚ) < 0 := by norm_num
  obtain ⟨ds, n, body, -, -, htext, hdenotes, hform⟩ := formatNumber_shortest none hvalue hneg.ne
  rw [if_pos hneg] at htext hdenotes
  rw [if_pos hneg] at hdenotes
  exact ⟨hvalue, hneg.ne, ds, n, body, htext, hdenotes, hform⟩

end Value

end Conform
