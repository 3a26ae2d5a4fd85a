import Conform.Number.Layout
import Conform.Proofs.Number.Standalone

/-!
# What the texts of doubles write

Every layout writes the digits of the shortest decimal and puts its point where it belongs, so that
with a sign before it the text writes that decimal (`Layout.writes_unsigned`). Where zeros fill up a
whole number, the coefficient takes them in.
-/

namespace Conform

open Text

namespace Text

/-- A text of ASCII digits, with their values. -/
theorem digitsOf_digitValues {cs : List Char} (h : AllDigits cs) : DigitsOf cs (digitValues cs) := by
  induction cs with
  | nil => exact .nil
  | cons c cs ih =>
    exact .cons (digit?_of_isDigit (h c (by simp))) (ih fun d hd => h d (List.mem_cons_of_mem c hd))

theorem digitValues_ne_nil {cs : List Char} (h : cs ≠ []) : digitValues cs ≠ [] := by
  simpa [digitValues] using h

theorem digitValues_append (cs ds : List Char) :
    digitValues (cs ++ ds) = digitValues cs ++ digitValues ds :=
  List.map_append

end Text

namespace Layout

open Numeral

variable {ds : List Char} (layout : Layout) (point : ℤ)

/-- The text of a sign that is only written if it is the minus sign. -/
def signText (negative : Bool) : List Char := if negative then ['-'] else []

theorem signText_spec (negative : Bool) : SignText (signText negative) negative := by
  cases negative
  · exact .absent
  · exact .minus

/-! ## Mantissas and exponents -/

/-- Digits with a point after the first, unless it is the only one. -/
theorem mantissaText_mantissa (hne : ds ≠ []) (hds : AllDigits ds) :
    ∃ whole fraction, MantissaText (mantissa ds) whole fraction ∧
      whole ++ fraction = digitValues ds ∧ fraction.length = ds.length - 1 := by
  match ds with
  | [d] =>
    refine ⟨digitValues [d], [], .whole (digitsOf_digitValues hds) (digitValues_ne_nil hne), ?_, rfl⟩
    exact List.append_nil _
  | d :: c :: rest =>
    have hfirst : AllDigits [d] := fun x hx => hds x (List.mem_cons.2 (.inl (by simpa using hx)))
    have hrest : AllDigits (c :: rest) := fun x hx => hds x (List.mem_cons_of_mem d hx)
    refine ⟨digitValues [d], digitValues (c :: rest), ?_, rfl, by simp [digitValues]⟩
    exact .point (digitsOf_digitValues hfirst) (digitValues_ne_nil (by simp))
      (digitsOf_digitValues hrest)

/-- An exponent after the letter: its sign and its size, which zeros before it do not change. -/
theorem exponentText_spec (exponent : ℤ) :
    ExponentText ('e' :: layout.exponentText exponent) exponent := by
  set digits := Nat.toDigits 10 exponent.natAbs with hdigits
  set padded := zeros (layout.exponentWidth - digits.length) ++ digits with hpadded
  have hall : AllDigits padded :=
    allDigits_append.2 ⟨allDigits_replicate _, allDigits_toDigits _⟩
  have hne : padded ≠ [] := List.append_ne_nil_of_right_ne_nil _ Nat.toDigits_ne_nil
  have hvalue : digitsValue (digitValues padded) = exponent.natAbs := by
    rw [hpadded, zeros, digitsValue_zeros_append, hdigits, digitsValue_toDigits]
  have hgiven {sign : List Char} {lowers : Bool} (hsign : SignText sign lowers) :=
    ExponentText.given (.inl rfl) hsign (digitsOf_digitValues hall) (digitValues_ne_nil hne)
  unfold exponentText
  rcases le_or_gt 0 exponent with hle | hlt
  · have hplus := hgiven .plus
    have hsize : (exponent.natAbs : ℤ) = exponent := Int.natAbs_of_nonneg hle
    rw [hvalue, hsize] at hplus
    rw [if_pos hle]
    exact hplus
  · have hminus := hgiven .minus
    have hsize : -(exponent.natAbs : ℤ) = exponent := by omega
    rw [hvalue, if_pos rfl, hsize] at hminus
    rw [if_neg (not_le.2 hlt)]
    exact hminus

/-! ## The four layouts -/

/-- A mantissa with an exponent: the exponent tells where the point belongs. -/
theorem writes_scientific (negative : Bool) (hne : ds ≠ []) (hds : AllDigits ds) :
    Writes (signText negative ++ (mantissa ds ++ 'e' :: layout.exponentText (point - 1)))
      (.decimal negative (digitsValue (digitValues ds)) (point - ds.length)) := by
  obtain ⟨whole, fraction, hmantissa, hvalues, hlength⟩ := mantissaText_mantissa hne hds
  have hpos : 0 < ds.length := List.length_pos_iff.2 hne
  have hplaces : point - 1 - (fraction.length : ℤ) = point - ds.length := by omega
  rw [← hvalues, ← hplaces]
  exact .decimal (signText_spec negative) hmantissa (layout.exponentText_spec (point - 1))

/-- A mantissa without an exponent. -/
theorem writes_positional (negative : Bool) {cs : List Char} {whole fraction : List ℕ}
    (h : MantissaText cs whole fraction) :
    Writes (signText negative ++ cs)
      (.decimal negative (digitsValue (whole ++ fraction)) (-fraction.length)) := by
  have hwrites := Writes.decimal (signText_spec negative) h .absent
  rwa [List.append_nil, zero_sub] at hwrites

/-- A whole number: zeros fill the places up to the point, and one more may stand after it. -/
theorem writes_whole (negative : Bool) (hne : ds ≠ []) (hds : AllDigits ds) (k : ℕ) :
    ∃ places : ℕ, Writes (signText negative ++ layout.whole (ds ++ zeros k))
      (.decimal negative (digitsValue (digitValues ds) * 10 ^ (k + places)) (-places)) := by
  have hall : DigitsOf (ds ++ zeros k) (digitValues (ds ++ zeros k)) :=
    digitsOf_digitValues (allDigits_append.2 ⟨hds, allDigits_replicate k⟩)
  have hne' : digitValues (ds ++ zeros k) ≠ [] := digitValues_ne_nil (by simp [hne])
  unfold whole
  split_ifs with hkeeps
  · refine ⟨1, ?_⟩
    have hzero : DigitsOf ['0'] (digitValues ['0']) := digitsOf_digitValues (allDigits_replicate 1)
    have hwrites := writes_positional negative (.point hall hne' hzero)
    -- The zero after the point is one more of the zeros at the end.
    have hvalue : digitsValue (digitValues (ds ++ zeros k ++ ['0'])) =
        digitsValue (digitValues ds) * 10 ^ (k + 1) := by
      have hzeros := digitsValue_append_zeros ds (k + 1)
      rwa [List.replicate_succ', ← List.append_assoc] at hzeros
    rw [← digitValues_append, hvalue] at hwrites
    exact hwrites
  · refine ⟨0, ?_⟩
    have hwrites := writes_positional negative (.whole hall hne')
    rw [List.append_nil, zeros, digitsValue_append_zeros] at hwrites
    exact hwrites

/-- A point among the digits. -/
theorem writes_inside (negative : Bool) (hds : AllDigits ds) (hpos : 0 < point)
    (hlt : point < ds.length) :
    Writes (signText negative ++ (ds.take point.toNat ++ '.' :: ds.drop point.toNat))
      (.decimal negative (digitsValue (digitValues ds)) (point - ds.length)) := by
  have htake : AllDigits (ds.take point.toNat) := fun c hc => hds c (List.mem_of_mem_take hc)
  have hdrop : AllDigits (ds.drop point.toNat) := fun c hc => hds c (List.mem_of_mem_drop hc)
  have htake_ne : ds.take point.toNat ≠ [] := by
    intro hnil
    have hlength := congrArg List.length hnil
    rw [List.length_take, List.length_nil] at hlength
    omega
  have hwrites := writes_positional negative
    (.point (digitsOf_digitValues htake) (digitValues_ne_nil htake_ne) (digitsOf_digitValues hdrop))
  have hplaces : -((digitValues (ds.drop point.toNat)).length : ℤ) = point - ds.length := by
    rw [digitValues, List.length_map, List.length_drop]
    omega
  rwa [← digitValues_append, List.take_append_drop, hplaces] at hwrites

/-- A number below one: a zero, the point, and zeros up to the first digit. -/
theorem writes_below (negative : Bool) (hds : AllDigits ds) (hpos : point ≤ 0) :
    Writes (signText negative ++ '0' :: '.' :: (zeros (-point).toNat ++ ds))
      (.decimal negative (digitsValue (digitValues ds)) (point - ds.length)) := by
  have hzero : DigitsOf ['0'] (digitValues ['0']) := digitsOf_digitValues (allDigits_replicate 1)
  have hfraction : AllDigits (zeros (-point).toNat ++ ds) :=
    allDigits_append.2 ⟨allDigits_replicate _, hds⟩
  have hwrites := writes_positional negative
    (.point hzero (digitValues_ne_nil (by simp)) (digitsOf_digitValues hfraction))
  -- The zero before the point is one more of the zeros that do not count.
  have hvalue : digitsValue (digitValues (['0'] ++ (zeros (-point).toNat ++ ds))) =
      digitsValue (digitValues ds) := by
    have hzeros := digitsValue_zeros_append ((-point).toNat + 1) ds
    rwa [List.replicate_succ, List.cons_append] at hzeros
  have hplaces : -((digitValues (zeros (-point).toNat ++ ds)).length : ℤ) = point - ds.length := by
    rw [digitValues, List.length_map, List.length_append, zeros, List.length_replicate]
    omega
  rw [← digitValues_append, hplaces, hvalue] at hwrites
  exact hwrites

/-- The digits that a layout shows are written with the point in its place. -/
theorem writes_digitsText (negative : Bool) (hne : ds ≠ []) (hds : AllDigits ds) :
    ∃ k : ℕ, Writes (signText negative ++ layout.digitsText ds point)
      (.decimal negative (digitsValue (digitValues ds) * 10 ^ k) (point - ds.length - k)) := by
  unfold digitsText
  split_ifs with hfar hwhole hinside
  · refine ⟨0, ?_⟩
    simpa using layout.writes_scientific point negative hne hds
  · obtain ⟨places, hwrites⟩ := layout.writes_whole negative hne hds (point.toNat - ds.length)
    refine ⟨point.toNat - ds.length + places, ?_⟩
    have hexp : point - ds.length - (point.toNat - ds.length + places : ℕ) = -places := by omega
    rwa [hexp]
  · refine ⟨0, ?_⟩
    simpa using writes_inside point negative hds hinside (not_le.1 hwhole)
  · refine ⟨0, ?_⟩
    simpa using writes_below point negative hds (not_lt.1 hinside)

/-- The text of a finite double other than zero shows its sign and the digits of its shortest
decimal. -/
theorem chars_eq (negative : Bool) {significand scale : ℕ}
    (h : Binary64.Canonical significand scale) (hpos : 0 < significand) :
    layout.chars (.finite negative significand scale h) =
      signText negative ++ layout.digitsText (ShortDecimal.ofParts significand scale).chars
        (ShortDecimal.ofParts significand scale).point := by
  have hunsigned : layout.unsigned (.finite negative significand scale h) =
      layout.digitsText (ShortDecimal.ofParts significand scale).chars
        (ShortDecimal.ofParts significand scale).point := if_neg hpos.ne'
  have hsign : layout.writesSign (.finite negative significand scale h) = negative := by
    simp [writesSign, Binary64.isNegative, Binary64.isZero, hpos.ne']
  rw [chars, hsign, hunsigned]
  cases negative
  · rw [if_neg Bool.false_ne_true, signText, if_neg Bool.false_ne_true, List.nil_append]
  · rw [if_pos rfl, signText, if_pos rfl, List.singleton_append]

/-- The text of a finite double other than zero writes its shortest decimal under its sign. -/
theorem writes_chars (negative : Bool) {significand scale : ℕ}
    (h : Binary64.Canonical significand scale) (hpos : 0 < significand) :
    ∃ k : ℕ, Writes (layout.chars (.finite negative significand scale h))
      (.decimal negative ((ShortDecimal.ofParts significand scale).digits * 10 ^ k)
        ((ShortDecimal.ofParts significand scale).exponent - k)) := by
  set short := ShortDecimal.ofParts significand scale with hshort
  obtain ⟨k, hwrites⟩ := layout.writes_digitsText short.point negative
    (show short.chars ≠ [] from Nat.toDigits_ne_nil) (allDigits_toDigits _)
  have hvalue : digitsValue (digitValues short.chars) = short.digits := digitsValue_toDigits _
  -- The point comes after all digits of the shortest decimal, moved by its exponent.
  have hpoint : short.point - short.chars.length - k = short.exponent - k := by
    simp [ShortDecimal.point]
  refine ⟨k, ?_⟩
  rwa [hvalue, hpoint, ← chars_eq layout negative h hpos] at hwrites

end Layout

end Conform
