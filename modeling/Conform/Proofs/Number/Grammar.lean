import Conform.Number.Numeral
import Conform.Proofs.Number.Digits

/-!
# The grammar of numerals

Which texts write a number, said without a scanner (`Numeral.Writes`): an optional sign before the
word for infinity, or before a mantissa that an exponent may follow. The scanner goes by it:

- `scan_writes`: what the scanner takes off a text writes the number that it gives;
- `scan_of_writes`: a text that writes a number is taken whole, as that number;
- `exists_scan_append`: where a text starts with one that writes a number, the scanner takes at
  least that much, so it never stops short of the longest one (`scan_of_longest`).
-/

namespace Conform

namespace Text

variable {cs rest : List Char} {ds : List ℕ}

/-- A text of decimal digits with their values. -/
inductive DigitsOf : List Char → List ℕ → Prop where
  | nil : DigitsOf [] []
  | cons {c : Char} {d : ℕ} {cs : List Char} {ds : List ℕ} (hc : digit? c = some d)
    (h : DigitsOf cs ds) : DigitsOf (c :: cs) (d :: ds)

namespace DigitsOf

/-- There are as many digits as values. -/
theorem length_eq (h : DigitsOf cs ds) : cs.length = ds.length := by
  induction h with
  | nil => rfl
  | cons _ _ ih => rw [List.length_cons, List.length_cons, ih]

/-- A text that has digits starts with one. -/
theorem exists_cons (h : DigitsOf cs ds) (hne : ds ≠ []) :
    ∃ c tail d, cs = c :: tail ∧ digit? c = some d := by
  cases h with
  | nil => exact absurd rfl hne
  | cons hc _ => exact ⟨_, _, _, rfl, hc⟩

/-- The digits that a text starts with belong to its run of digits, and the run goes on with what
follows them. -/
theorem digitRun_append (h : DigitsOf cs ds) (rest : List Char) :
    digitRun (cs ++ rest) = (ds ++ (digitRun rest).1, (digitRun rest).2) := by
  induction h with
  | nil => rfl
  | cons hc _ ih => rw [List.cons_append, digitRun, hc, ih, List.cons_append]

end DigitsOf

/-- The digits at the front of a text, and the rest, make it up. -/
theorem exists_digitRun (cs : List Char) :
    ∃ taken, cs = taken ++ (digitRun cs).2 ∧ DigitsOf taken (digitRun cs).1 := by
  induction cs with
  | nil => exact ⟨[], rfl, .nil⟩
  | cons c rest ih =>
    cases hc : digit? c with
    | none => exact ⟨[], by simp [digitRun, hc], by simpa [digitRun, hc] using DigitsOf.nil⟩
    | some d =>
      obtain ⟨taken, hrest, hdigits⟩ := ih
      refine ⟨c :: taken, ?_, ?_⟩
      · simpa [digitRun, hc] using hrest
      · simpa [digitRun, hc] using DigitsOf.cons hc hdigits

/-- What follows the digits at the front of a text is no longer than the text. -/
theorem length_digitRun_le (cs : List Char) : (digitRun cs).2.length ≤ cs.length := by
  have := length_digitRun cs
  omega

/-- A text that does not go on with a digit has no digits at its front. -/
theorem digitRun_of_noDigit (h : NoDigit rest) : digitRun rest = ([], rest) := by
  cases rest with
  | nil => rfl
  | cons c rest => rw [digitRun, h c rfl]

end Text

namespace Numeral

open Text

/-! ## The grammar -/

/-- An optional sign, and whether it is the minus sign. -/
inductive SignText : List Char → Bool → Prop where
  | absent : SignText [] false
  | plus : SignText ['+'] false
  | minus : SignText ['-'] true

/-- A mantissa with the digits before and after its point: digits with an optional point and
optional further digits, or a point followed by at least one digit. -/
inductive MantissaText : List Char → List ℕ → List ℕ → Prop where
  | whole {cs : List Char} {ds : List ℕ} (h : DigitsOf cs ds) (hne : ds ≠ []) :
    MantissaText cs ds []
  | point {cs es : List Char} {ds fs : List ℕ} (h : DigitsOf cs ds) (hne : ds ≠ [])
    (h' : DigitsOf es fs) : MantissaText (cs ++ '.' :: es) ds fs
  | fraction {es : List Char} {fs : List ℕ} (h' : DigitsOf es fs) (hne : fs ≠ []) :
    MantissaText ('.' :: es) [] fs

/-- An optional exponent: a letter, an optional sign and at least one digit. -/
inductive ExponentText : List Char → ℤ → Prop where
  | absent : ExponentText [] 0
  | given {letter : Char} {sign cs : List Char} {lowers : Bool} {ds : List ℕ}
    (hletter : letter = 'e' ∨ letter = 'E') (hsign : SignText sign lowers) (h : DigitsOf cs ds)
    (hne : ds ≠ []) :
    ExponentText (letter :: (sign ++ cs))
      (if lowers then -(digitsValue ds : ℤ) else digitsValue ds)

/-- A text that writes a number. -/
inductive Writes : List Char → Numeral → Prop where
  | infinity {sign : List Char} {negative : Bool} (hsign : SignText sign negative) :
    Writes (sign ++ infinityWord) (.infinity negative)
  | decimal {sign mantissa exponent : List Char} {negative : Bool} {ds fs : List ℕ} {e : ℤ}
    (hsign : SignText sign negative) (hmantissa : MantissaText mantissa ds fs)
    (hexponent : ExponentText exponent e) :
    Writes (sign ++ (mantissa ++ exponent))
      (.decimal negative (digitsValue (ds ++ fs)) (e - fs.length))

/-- The longest part at the front of a text that writes a number, with the number. -/
structure Longest (text part : List Char) (numeral : Numeral) : Prop where
  /-- The text starts with the part. -/
  starts : part <+: text
  /-- The part writes the number. -/
  writes : Writes part numeral
  /-- No other part that the text starts with and that writes a number is longer. -/
  longest : ∀ other numeral', other <+: text → Writes other numeral' →
    other.length ≤ part.length

variable {cs rest tail : List Char} {ds fs : List ℕ} {negative : Bool}

/-! ## Signs -/

/-- A text that starts with neither sign. -/
def NoSign (cs : List Char) : Prop := cs.head? ≠ some '+' ∧ cs.head? ≠ some '-'

theorem noSign_cons {c : Char} (hplus : c ≠ '+') (hminus : c ≠ '-') : NoSign (c :: rest) := by
  simp [NoSign, hplus, hminus]

theorem digit?_plus : digit? '+' = none := by decide

theorem digit?_minus : digit? '-' = none := by decide

theorem digit?_point : digit? '.' = none := by decide

theorem digit?_letter {letter : Char} (h : letter = 'e' ∨ letter = 'E') : digit? letter = none := by
  rcases h with rfl | rfl <;> decide

/-- A digit is no sign. -/
theorem noSign_of_digit? {c : Char} {d : ℕ} (h : digit? c = some d) : NoSign (c :: rest) := by
  refine noSign_cons ?_ ?_
  · rintro rfl
    simp [digit?_plus] at h
  · rintro rfl
    simp [digit?_minus] at h

theorem noSign_of_digitsOf (h : DigitsOf cs ds) (hne : ds ≠ []) (rest : List Char) :
    NoSign (cs ++ rest) := by
  obtain ⟨c, tail, d, rfl, hc⟩ := h.exists_cons hne
  exact noSign_of_digit? hc

/-- A sign is taken off what follows it. -/
theorem SignText.scanSign_append {sign : List Char} (h : SignText sign negative)
    (hrest : NoSign rest) : scanSign (sign ++ rest) = (negative, rest) := by
  cases h with
  | absent =>
    rw [List.nil_append]
    unfold scanSign
    -- The first two branches are those of the signs.
    split
    · exact absurd rfl hrest.1
    · exact absurd rfl hrest.2
    · rfl
  | plus => rfl
  | minus => rfl

/-- The sign at the front of a text, and the rest, make it up. -/
theorem exists_scanSign (cs : List Char) :
    ∃ sign, cs = sign ++ (scanSign cs).2 ∧ SignText sign (scanSign cs).1 := by
  unfold scanSign
  split
  · exact ⟨['+'], rfl, .plus⟩
  · exact ⟨['-'], rfl, .minus⟩
  · exact ⟨[], rfl, .absent⟩

/-! ## Mantissas -/

/-- Digits that no point follows. -/
theorem scanMantissa_of_digits (hrun : digitRun cs = (ds, rest)) (hne : ds ≠ [])
    (hpoint : rest.head? ≠ some '.') : scanMantissa cs = some (ds, [], rest) := by
  unfold scanMantissa
  rw [hrun]
  -- Only the last branch has digits and no point after them.
  split
  next heq => exact absurd (Prod.mk.inj heq).1 hne
  next heq => exact absurd (Prod.mk.inj heq).1 hne
  next heq =>
    obtain ⟨-, rfl⟩ := Prod.mk.inj heq
    simp at hpoint
  next heq =>
    obtain ⟨rfl, rfl⟩ := Prod.mk.inj heq
    rfl

/-- Digits that a point follows. -/
theorem scanMantissa_of_point (hrun : digitRun cs = (ds, '.' :: rest)) (hne : ds ≠ []) :
    scanMantissa cs = some (ds, (digitRun rest).1, (digitRun rest).2) := by
  unfold scanMantissa
  rw [hrun]
  split
  next heq => exact absurd (Prod.mk.inj heq).1 hne
  next heq => exact absurd (Prod.mk.inj heq).1 hne
  next heq =>
    obtain ⟨rfl, hrest⟩ := Prod.mk.inj heq
    obtain rfl := (List.cons.inj hrest).2
    rfl
  next hnot heq =>
    obtain ⟨rfl, rfl⟩ := Prod.mk.inj heq
    exact absurd rfl (hnot _)

/-- A point with digits after it alone. -/
theorem scanMantissa_of_fraction (hrun : digitRun rest = (fs, tail)) (hne : fs ≠ []) :
    scanMantissa ('.' :: rest) = some ([], fs, tail) := by
  have hpoint : digitRun ('.' :: rest) = ([], '.' :: rest) := by rw [digitRun, digit?_point]
  obtain ⟨f, fs, rfl⟩ := List.exists_cons_of_ne_nil hne
  unfold scanMantissa
  rw [hpoint]
  simp only [hrun]

/-- A mantissa at the front of a text: the scanner takes at least that much. -/
theorem MantissaText.exists_scanMantissa_append {mantissa : List Char}
    (h : MantissaText mantissa ds fs) (tail : List Char) :
    ∃ ds' fs' rest, scanMantissa (mantissa ++ tail) = some (ds', fs', rest) ∧
      rest.length ≤ tail.length := by
  cases h with
  | @whole cs ds h hne =>
    have hrun := h.digitRun_append tail
    have hne' : ds ++ (digitRun tail).1 ≠ [] := by simp [hne]
    have hlength := length_digitRun_le tail
    -- A point that happens to follow belongs to the mantissa as well.
    by_cases hpoint : (digitRun tail).2.head? = some '.'
    · obtain ⟨rest, hrest⟩ : ∃ rest, (digitRun tail).2 = '.' :: rest := by
        cases htail : (digitRun tail).2 with
        | nil => simp [htail] at hpoint
        | cons c rest =>
          obtain rfl : c = '.' := by simpa [htail] using hpoint
          exact ⟨rest, rfl⟩
      rw [hrest] at hrun hlength
      refine ⟨_, _, _, scanMantissa_of_point hrun hne', ?_⟩
      have := length_digitRun_le rest
      rw [List.length_cons] at hlength
      omega
    · exact ⟨_, _, _, scanMantissa_of_digits hrun hne' hpoint, hlength⟩
  | @point cs es ds fs h hne h' =>
    have hrun : digitRun (cs ++ ('.' :: (es ++ tail))) = (ds, '.' :: (es ++ tail)) := by
      rw [h.digitRun_append, digitRun_of_noDigit (noDigit_cons digit?_point), List.append_nil]
    rw [List.append_assoc, List.cons_append]
    refine ⟨_, _, _, scanMantissa_of_point hrun hne, ?_⟩
    rw [h'.digitRun_append]
    exact length_digitRun_le tail
  | @fraction es fs h' hne =>
    have hne' : fs ++ (digitRun tail).1 ≠ [] := by simp [hne]
    rw [List.cons_append]
    exact ⟨_, _, _, scanMantissa_of_fraction (h'.digitRun_append tail) hne', length_digitRun_le tail⟩

/-- A mantissa that what follows cannot go on with is taken as it is. -/
theorem MantissaText.scanMantissa_append {mantissa : List Char} (h : MantissaText mantissa ds fs)
    (htail : NoDigit tail) (hpoint : tail.head? ≠ some '.') :
    scanMantissa (mantissa ++ tail) = some (ds, fs, tail) := by
  have hstop := digitRun_of_noDigit htail
  cases h with
  | whole h hne =>
    refine scanMantissa_of_digits ?_ hne hpoint
    rw [h.digitRun_append, hstop, List.append_nil]
  | @point cs es ds fs h hne h' =>
    have hrun : digitRun (cs ++ ('.' :: (es ++ tail))) = (ds, '.' :: (es ++ tail)) := by
      rw [h.digitRun_append, digitRun_of_noDigit (noDigit_cons digit?_point), List.append_nil]
    rw [List.append_assoc, List.cons_append, scanMantissa_of_point hrun hne, h'.digitRun_append,
      hstop, List.append_nil]
  | fraction h' hne =>
    rw [List.cons_append]
    refine scanMantissa_of_fraction ?_ hne
    rw [h'.digitRun_append, hstop, List.append_nil]

/-- What the scanner takes for a mantissa is one. -/
theorem exists_of_scanMantissa (h : scanMantissa cs = some (ds, fs, rest)) :
    ∃ mantissa, cs = mantissa ++ rest ∧ MantissaText mantissa ds fs := by
  obtain ⟨taken, hcs, hdigits⟩ := exists_digitRun cs
  unfold scanMantissa at h
  -- The branches are those of the scanner: a point first, neither digit nor point, digits with a
  -- point, and digits alone.
  split at h
  next tail hrun =>
    rw [hrun] at hcs hdigits
    obtain rfl : taken = [] := by simpa using hdigits.length_eq
    obtain ⟨fraction, htail, hfraction⟩ := exists_digitRun tail
    split at h
    next => cases h
    next hne hrun' =>
      cases h
      rw [hrun'] at htail hfraction
      rw [htail] at hcs
      exact ⟨'.' :: fraction, hcs, .fraction hfraction hne⟩
  next => cases h
  next tail hne hrun =>
    cases h
    rw [hrun] at hcs hdigits
    obtain ⟨fraction, htail, hfraction⟩ := exists_digitRun tail
    refine ⟨taken ++ '.' :: fraction, ?_, .point hdigits hne hfraction⟩
    rw [List.append_assoc, List.cons_append, ← htail]
    exact hcs
  next hne _ hrun =>
    cases h
    rw [hrun] at hcs hdigits
    exact ⟨taken, hcs, .whole hdigits hne⟩

/-! ## Exponents -/

/-- A letter with a sign and digits after it is an exponent. -/
theorem scanExponent_of_digits {letter : Char} {sign : List Char} {lowers : Bool}
    (hletter : letter = 'e' ∨ letter = 'E') (hsign : SignText sign lowers) (hno : NoSign cs)
    (hrun : digitRun cs = (ds, rest)) (hne : ds ≠ []) :
    scanExponent (letter :: (sign ++ cs)) =
      (if lowers then -(digitsValue ds : ℤ) else digitsValue ds, rest) := by
  obtain ⟨d, ds, rfl⟩ := List.exists_cons_of_ne_nil hne
  unfold scanExponent
  simp only [hletter, if_true, hsign.scanSign_append hno, hrun]

/-- What the scanner takes for an exponent is one. -/
theorem exists_scanExponent (cs : List Char) :
    ∃ exponent, cs = exponent ++ (scanExponent cs).2 ∧
      ExponentText exponent (scanExponent cs).1 := by
  unfold scanExponent
  split
  next c rest =>
    split_ifs with hletter
    · obtain ⟨sign, hrest, hsign⟩ := exists_scanSign rest
      obtain ⟨digits, htail, hdigits⟩ := exists_digitRun (scanSign rest).2
      dsimp only
      split
      next => exact ⟨[], rfl, .absent⟩
      next hne hrun =>
        rw [hrun] at htail hdigits
        refine ⟨c :: (sign ++ digits), ?_, .given hletter hsign hdigits hne⟩
        rw [List.cons_append, List.append_assoc, ← htail, ← hrest]
    · exact ⟨[], rfl, .absent⟩
  · exact ⟨[], rfl, .absent⟩

/-- An exponent at the front of a text: the scanner takes at least that much. -/
theorem ExponentText.length_scanExponent_append_le {exponent : List Char} {e : ℤ}
    (h : ExponentText exponent e) (tail : List Char) :
    (scanExponent (exponent ++ tail)).2.length ≤ tail.length := by
  cases h with
  | absent =>
    -- Whatever the text goes on with, nothing is added to it.
    obtain ⟨exponent, htail, -⟩ := exists_scanExponent tail
    have hlength := congrArg List.length htail
    rw [List.length_append] at hlength
    rw [List.nil_append]
    omega
  | @given letter sign cs lowers ds hletter hsign h hne =>
    have hno : NoSign (cs ++ tail) := noSign_of_digitsOf h hne tail
    have hne' : ds ++ (digitRun tail).1 ≠ [] := by simp [hne]
    rw [List.cons_append, List.append_assoc,
      scanExponent_of_digits hletter hsign hno (h.digitRun_append tail) hne']
    exact length_digitRun_le tail

/-- An exponent that makes up a text is taken as it is. -/
theorem ExponentText.scanExponent_eq {exponent : List Char} {e : ℤ} (h : ExponentText exponent e) :
    scanExponent exponent = (e, []) := by
  cases h with
  | absent => rfl
  | @given letter sign cs lowers ds hletter hsign h hne =>
    have hno : NoSign cs := by simpa using noSign_of_digitsOf h hne []
    have hrun : digitRun cs = (ds, []) := by simpa [digitRun] using h.digitRun_append []
    exact scanExponent_of_digits hletter hsign hno hrun hne

/-- An exponent goes on neither with a digit nor with a point. -/
theorem ExponentText.stops {exponent : List Char} {e : ℤ} (h : ExponentText exponent e)
    (hne : exponent ≠ []) (tail : List Char) :
    NoDigit (exponent ++ tail) ∧ (exponent ++ tail).head? ≠ some '.' := by
  cases h with
  | absent => exact absurd rfl hne
  | given hletter _ _ _ =>
    refine ⟨noDigit_cons (digit?_letter hletter), ?_⟩
    rcases hletter with rfl | rfl <;> simp

/-! ## Numerals -/

theorem infinityWord_eq : infinityWord = ['I', 'n', 'f', 'i', 'n', 'i', 't', 'y'] := rfl

/-- What a mantissa starts with: a digit or a point. -/
theorem MantissaText.exists_cons {mantissa : List Char} (h : MantissaText mantissa ds fs) :
    ∃ c tail, mantissa = c :: tail ∧ ((∃ d, digit? c = some d) ∨ c = '.') := by
  cases h with
  | whole h hne =>
    obtain ⟨c, tail, d, rfl, hc⟩ := h.exists_cons hne
    exact ⟨c, tail, rfl, .inl ⟨d, hc⟩⟩
  | point h hne _ =>
    obtain ⟨c, tail, d, rfl, hc⟩ := h.exists_cons hne
    exact ⟨c, _, rfl, .inl ⟨d, hc⟩⟩
  | fraction _ _ => exact ⟨'.', _, rfl, .inr rfl⟩

/-- A mantissa starts neither with a sign nor with the word for infinity. -/
theorem MantissaText.starts {mantissa : List Char} (h : MantissaText mantissa ds fs)
    (tail : List Char) :
    NoSign (mantissa ++ tail) ∧ infinityWord.isPrefixOf (mantissa ++ tail) = false := by
  obtain ⟨c, rest, rfl, hc⟩ := h.exists_cons
  have hletter : 'I' ≠ c := by
    rintro rfl
    rcases hc with ⟨d, hc⟩ | hc
    · exact absurd hc (by rw [show digit? 'I' = none by decide]; simp)
    · exact absurd hc (by decide)
  refine ⟨?_, ?_⟩
  · rcases hc with ⟨d, hc⟩ | rfl
    · exact noSign_of_digit? hc
    · exact noSign_cons (by decide) (by decide)
  · rw [infinityWord_eq, List.cons_append, List.isPrefixOf_cons_cons, beq_false_of_ne hletter,
      Bool.false_and]

theorem noSign_infinityWord : NoSign (infinityWord ++ tail) := by
  rw [infinityWord_eq]
  exact noSign_cons (by decide) (by decide)

/-- The word for infinity under a sign is taken for an infinity. -/
theorem scan_infinity {sign : List Char} (hsign : SignText sign negative) (tail : List Char) :
    scan (sign ++ infinityWord ++ tail) = some (.infinity negative, tail) := by
  have hword : infinityWord.isPrefixOf (infinityWord ++ tail) = true :=
    List.isPrefixOf_iff_prefix.2 (List.prefix_append _ _)
  unfold scan
  rw [List.append_assoc, hsign.scanSign_append noSign_infinityWord]
  simp only [hword, if_true, List.drop_left]

/-- A mantissa under a sign is taken for a decimal. -/
theorem scan_decimal {sign mantissa : List Char} (hsign : SignText sign negative)
    (hmantissa : MantissaText mantissa ds fs) (tail : List Char) :
    scan (sign ++ (mantissa ++ tail)) = scanDecimal negative (mantissa ++ tail) := by
  obtain ⟨hno, hword⟩ := hmantissa.starts tail
  unfold scan
  rw [hsign.scanSign_append hno]
  simp [hword]

/-- What the scanner takes off a text writes the number that it gives. -/
theorem scan_writes {numeral : Numeral} (h : scan cs = some (numeral, rest)) :
    ∃ part, cs = part ++ rest ∧ Writes part numeral := by
  obtain ⟨sign, hcs, hsign⟩ := exists_scanSign cs
  unfold scan at h
  dsimp only at h
  split_ifs at h with hword
  · -- The word was found after the sign, and what follows it is left.
    cases h
    obtain ⟨tail, htail⟩ := List.isPrefixOf_iff_prefix.1 hword
    refine ⟨sign ++ infinityWord, ?_, .infinity hsign⟩
    rw [← htail, List.drop_left, List.append_assoc, htail]
    exact hcs
  · obtain ⟨⟨ds, fs, tail⟩, hmantissa, hdecimal⟩ := Option.map_eq_some_iff.1 h
    obtain ⟨rfl, rfl⟩ : Numeral.decimal (scanSign cs).1 (digitsValue (ds ++ fs))
        ((scanExponent tail).1 - fs.length) = numeral ∧ (scanExponent tail).2 = rest :=
      Prod.mk.inj hdecimal
    obtain ⟨mantissa, htail, hmantissa⟩ := exists_of_scanMantissa hmantissa
    obtain ⟨exponent, hrest, hexponent⟩ := exists_scanExponent tail
    refine ⟨sign ++ (mantissa ++ exponent), ?_, .decimal hsign hmantissa hexponent⟩
    rw [List.append_assoc, List.append_assoc, ← hrest, ← htail]
    exact hcs

/-- A text that writes a number is taken whole, as that number. -/
theorem scan_of_writes {numeral : Numeral} (h : Writes cs numeral) :
    scan cs = some (numeral, []) := by
  cases h with
  | infinity hsign => simpa using scan_infinity hsign []
  | @decimal sign mantissa exponent negative ds fs e hsign hmantissa hexponent =>
    have hstops : NoDigit exponent ∧ exponent.head? ≠ some '.' := by
      by_cases hne : exponent = []
      · subst hne
        exact ⟨noDigit_nil, by simp⟩
      · simpa using hexponent.stops hne []
    rw [scan_decimal hsign hmantissa, scanDecimal,
      hmantissa.scanMantissa_append hstops.1 hstops.2, Option.map_some]
    simp only [hexponent.scanExponent_eq]

/-- A text that writes a number writes no other. -/
theorem Writes.unique {numeral numeral' : Numeral} (h : Writes cs numeral)
    (h' : Writes cs numeral') : numeral = numeral' := by
  have hsame := (scan_of_writes h).symm.trans (scan_of_writes h')
  exact (Prod.mk.inj (Option.some.inj hsame)).1

/-- Where a text starts with one that writes a number, the scanner takes at least that much. -/
theorem exists_scan_append {numeral : Numeral} (h : Writes cs numeral) (tail : List Char) :
    ∃ numeral' rest, scan (cs ++ tail) = some (numeral', rest) ∧ rest.length ≤ tail.length := by
  cases h with
  | infinity hsign => exact ⟨_, tail, scan_infinity hsign tail, le_rfl⟩
  | @decimal sign mantissa exponent negative ds fs e hsign hmantissa hexponent =>
    rw [List.append_assoc, List.append_assoc, scan_decimal hsign hmantissa, scanDecimal]
    by_cases hne : exponent = []
    · -- Without an exponent the mantissa may go on, and an exponent may follow.
      subst hne
      obtain ⟨ds', fs', rest, hscan, hlength⟩ := hmantissa.exists_scanMantissa_append tail
      have hrest := ExponentText.absent.length_scanExponent_append_le rest
      rw [List.nil_append] at hrest
      rw [List.nil_append, hscan]
      exact ⟨_, _, rfl, hrest.trans hlength⟩
    · -- The letter of the exponent ends the mantissa where it ends in the shorter text.
      obtain ⟨hdigit, hpoint⟩ := hexponent.stops hne tail
      rw [hmantissa.scanMantissa_append hdigit hpoint]
      exact ⟨_, _, rfl, hexponent.length_scanExponent_append_le tail⟩

/-! ## The longest part that writes a number -/

/-- The scanner takes the longest part at the front of a text that writes a number. -/
theorem longest_of_scan {numeral : Numeral} (h : scan cs = some (numeral, rest)) :
    ∃ part, cs = part ++ rest ∧ Longest cs part numeral := by
  obtain ⟨part, rfl, hwrites⟩ := scan_writes h
  refine ⟨part, rfl, List.prefix_append _ _, hwrites, ?_⟩
  rintro other numeral' ⟨tail, htail⟩ hother
  obtain ⟨numeral'', rest', hscan, hlength⟩ := exists_scan_append hother tail
  -- The scanner leaves the same rest both times, and so no more than the other part does.
  rw [htail, h] at hscan
  obtain rfl : rest = rest' := (Prod.mk.inj (Option.some.inj hscan)).2
  have := congrArg List.length htail
  simp only [List.length_append] at this
  omega

/-- There is one longest part at the front of a text that writes a number, and one number that it
writes. -/
theorem Longest.unique {part part' : List Char} {numeral numeral' : Numeral}
    (h : Longest cs part numeral) (h' : Longest cs part' numeral') :
    part = part' ∧ numeral = numeral' := by
  have hlength : part.length = part'.length :=
    le_antisymm (h'.longest _ _ h.starts h.writes) (h.longest _ _ h'.starts h'.writes)
  have hpart : part = part' :=
    (List.prefix_of_prefix_length_le h.starts h'.starts hlength.le).eq_of_length hlength
  subst hpart
  exact ⟨rfl, h.writes.unique h'.writes⟩

/-- The longest part at the front of a text that writes a number is what the scanner takes. -/
theorem scan_of_longest {part : List Char} {numeral : Numeral} (h : Longest cs part numeral) :
    ∃ rest, scan cs = some (numeral, rest) := by
  obtain ⟨tail, htail⟩ := h.starts
  obtain ⟨numeral', rest, hscan, -⟩ := exists_scan_append h.writes tail
  rw [htail] at hscan
  obtain ⟨part', -, h'⟩ := longest_of_scan hscan
  obtain ⟨-, rfl⟩ := h.unique h'
  exact ⟨rest, hscan⟩

/-- The scanner refuses a text exactly if no part at its front writes a number. -/
theorem scan_eq_none_iff :
    scan cs = none ↔ ∀ part, part <+: cs → ∀ numeral, ¬ Writes part numeral := by
  constructor
  · rintro h part ⟨tail, rfl⟩ numeral hwrites
    obtain ⟨numeral', rest, hscan, -⟩ := exists_scan_append hwrites tail
    rw [h] at hscan
    cases hscan
  · intro h
    cases hscan : scan cs with
    | none => rfl
    | some answer =>
      obtain ⟨part, -, hlongest⟩ :=
        longest_of_scan (show scan cs = some (answer.1, answer.2) from hscan)
      exact absurd hlongest.writes (h part hlongest.starts _)

end Numeral

end Conform
