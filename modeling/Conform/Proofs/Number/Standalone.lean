import Conform.Proofs.Number.Grammar

/-!
# Numerals that stand alone

A text that writes a number by the grammar is also read as a whole text, as the same number
(`Numeral.double?_of_writes`): none of its characters is white space or an underscore
(`Writes.isNumeralChar`), so nothing is trimmed off it or dropped from it, and it is no word for a
special value but the one for infinity.
-/

namespace Conform

namespace Text

variable {c : Char} {cs : List Char}

/-- White space is no digit. -/
theorem digit?_of_isBlank (h : isBlank c = true) : digit? c = none := by
  -- The digit that a character stands for depends on its code, and there are few blank codes.
  have hcodes : ∀ n ∈ List.range' 0x9 5 ++ List.range' 0x1C 5 ++ [0x85, 0xA0, 0x1680] ++
      List.range' 0x2000 11 ++ [0x2028, 0x2029, 0x202F, 0x205F, 0x3000],
      (if n < 128 then if 0x30 ≤ n ∧ n ≤ 0x39 then some (n - 0x30) else none
        else (digitZeros.find? fun start => start ≤ n && n < start + 10).map (n - ·)) = none := by
    decide
  refine hcodes c.toNat ?_
  simp only [isBlank, Bool.or_eq_true, Bool.and_eq_true, decide_eq_true_eq, beq_iff_eq] at h
  simp only [List.mem_append, List.mem_range'_1, List.mem_cons, List.not_mem_nil, or_false]
  omega

/-- A digit is in neither case. -/
theorem toLower_of_digit? {d : ℕ} (h : digit? c = some d) : c.toLower = c := by
  unfold Char.toLower
  split
  next hupper =>
    -- No ASCII letter is a digit.
    have hcode : 65 ≤ c.toNat ∧ c.toNat ≤ 90 := by
      simpa [UInt32.le_iff_toNat_le] using hupper
    have hascii : c.toNat < 128 := by omega
    have hdigit : ¬ (0x30 ≤ c.toNat ∧ c.toNat ≤ 0x39) := by omega
    simp [digit?, hascii, hdigit] at h
  next => rfl

/-- Nothing is dropped off a text that starts with none of the characters to drop. -/
theorem dropWhile_eq_self {p : Char → Bool} (h : ∀ c ∈ cs, p c = false) : cs.dropWhile p = cs := by
  cases cs with
  | nil => rfl
  | cons c cs => rw [List.dropWhile_cons, h c (by simp), if_neg Bool.false_ne_true]

/-- A text without white space is left as it is. -/
theorem trimLeft_of_not_blank (h : ∀ c ∈ cs, isBlank c = false) : trimLeft cs = cs :=
  dropWhile_eq_self h

/-- A text without white space has no padding at either end. -/
theorem trimPadding_of_not_blank (h : ∀ c ∈ cs, isBlank c = false) : trimPadding cs = cs := by
  have hpadding : ∀ c ∈ cs, isPadding c = false := fun c hc => by
    rw [isPadding, h c hc, Bool.false_and]
  unfold trimPadding
  rw [dropWhile_eq_self hpadding,
    dropWhile_eq_self fun c hc => hpadding c (List.mem_reverse.1 hc), List.reverse_reverse]

end Text

namespace Numeral

open Text

variable {cs : List Char} {numeral : Numeral} {negative : Bool} {ds fs : List ℕ} {c : Char}

/-! ## The characters of numerals -/

/-- A character that a text may hold that writes a number: a digit, a sign, the point, a letter
before an exponent, or a letter of the word for infinity. -/
def IsNumeralChar (c : Char) : Prop :=
  (∃ d, digit? c = some d) ∨ c ∈ ['+', '-', '.', 'e', 'E', 'I', 'n', 'f', 'i', 't', 'y']

/-- No number is written with white space. -/
theorem IsNumeralChar.not_blank (h : IsNumeralChar c) : isBlank c = false := by
  rcases h with ⟨d, hd⟩ | h
  · rw [Bool.eq_false_iff]
    intro hblank
    rw [digit?_of_isBlank hblank] at hd
    cases hd
  · have hall : (['+', '-', '.', 'e', 'E', 'I', 'n', 'f', 'i', 't', 'y'].all fun c =>
        isBlank c == false) = true := by decide
    exact beq_iff_eq.1 (List.all_eq_true.1 hall c h)

/-- No number is written with an underscore. -/
theorem IsNumeralChar.ne_underscore (h : IsNumeralChar c) : c ≠ '_' := by
  rintro rfl
  rcases h with ⟨d, hd⟩ | h
  · rw [show digit? '_' = none by decide] at hd
    cases hd
  · exact absurd h (by decide)

theorem isNumeralChar_of_digitsOf (h : DigitsOf cs ds) : ∀ c ∈ cs, IsNumeralChar c := by
  induction h with
  | nil => simp
  | cons hc _ ih =>
    intro c hmem
    rcases List.mem_cons.1 hmem with rfl | hmem
    · exact .inl ⟨_, hc⟩
    · exact ih c hmem

theorem SignText.isNumeralChar (h : SignText cs negative) : ∀ c ∈ cs, IsNumeralChar c := by
  cases h <;> simp [IsNumeralChar]

theorem MantissaText.isNumeralChar (h : MantissaText cs ds fs) : ∀ c ∈ cs, IsNumeralChar c := by
  have hpoint : IsNumeralChar '.' := .inr (by simp)
  intro c hc
  cases h with
  | whole h _ => exact isNumeralChar_of_digitsOf h c hc
  | point h _ h' =>
    rcases List.mem_append.1 hc with hc | hc
    · exact isNumeralChar_of_digitsOf h c hc
    · rcases List.mem_cons.1 hc with rfl | hc
      · exact hpoint
      · exact isNumeralChar_of_digitsOf h' c hc
  | fraction h' _ =>
    rcases List.mem_cons.1 hc with rfl | hc
    · exact hpoint
    · exact isNumeralChar_of_digitsOf h' c hc

theorem ExponentText.isNumeralChar {e : ℤ} (h : ExponentText cs e) :
    ∀ c ∈ cs, IsNumeralChar c := by
  cases h with
  | absent => simp
  | given hletter hsign h _ =>
    intro c hc
    rcases List.mem_cons.1 hc with rfl | hc
    · rcases hletter with rfl | rfl <;> exact .inr (by simp)
    · rcases List.mem_append.1 hc with hc | hc
      · exact hsign.isNumeralChar c hc
      · exact isNumeralChar_of_digitsOf h c hc

/-- The characters of a text that writes a number. -/
theorem Writes.isNumeralChar (h : Writes cs numeral) : ∀ c ∈ cs, IsNumeralChar c := by
  intro c hc
  cases h with
  | infinity hsign =>
    rcases List.mem_append.1 hc with hc | hc
    · exact hsign.isNumeralChar c hc
    · have hall : (infinityWord.all fun c =>
          c ∈ ['+', '-', '.', 'e', 'E', 'I', 'n', 'f', 'i', 't', 'y']) = true := by
        rw [infinityWord_eq]
        decide
      exact .inr (of_decide_eq_true (List.all_eq_true.1 hall c hc))
  | decimal hsign hmantissa hexponent =>
    rcases List.mem_append.1 hc with hc | hc
    · exact hsign.isNumeralChar c hc
    · rcases List.mem_append.1 hc with hc | hc
      · exact hmantissa.isNumeralChar c hc
      · exact hexponent.isNumeralChar c hc

/-- No white space stands in a text that writes a number. -/
theorem Writes.not_blank (h : Writes cs numeral) : ∀ c ∈ cs, isBlank c = false := fun c hc =>
  (h.isNumeralChar c hc).not_blank

/-! ## Reading the whole text -/

/-- A text without underscores is left as it is. -/
theorem dropUnderscores_of_not_mem (isDigit : Char → Bool) (h : ∀ c ∈ cs, c ≠ '_') :
    dropUnderscores isDigit cs = some cs := by
  fun_induction dropUnderscores isDigit cs with
  | case1 => rfl
  | case2 => exact absurd rfl (h '_' (by simp))
  | case3 => rfl
  | case4 => exact absurd rfl (h '_' (by simp))
  | case5 => exact absurd rfl (h '_' (by simp))
  | case6 c rest _ _ _ ih => rw [ih fun d hd => h d (by simp [hd]), Option.map_some]

/-- A text that writes a number stands alone without further ado. -/
theorem standalone_of_writes (h : Writes cs numeral) :
    standalone (String.ofList cs) = some cs := by
  unfold standalone
  rw [String.toList_ofList, trimPadding_of_not_blank h.not_blank]
  exact dropUnderscores_of_not_mem _ fun c hc => (h.isNumeralChar c hc).ne_underscore

/-- A mantissa starts no word for a special value. -/
theorem MantissaText.word?_eq_none (h : MantissaText cs ds fs) (rest : List Char) :
    word? negative (cs ++ rest) = none := by
  obtain ⟨c, tail, rfl, hc⟩ := h.exists_cons
  have hlower : c.toLower = c := by
    rcases hc with ⟨d, hd⟩ | rfl
    · exact toLower_of_digit? hd
    · decide
  -- The words start with letters, and no letter is a digit or the point.
  have hletter : ∀ letter ∈ ['i', 'n'], c.toLower ≠ letter := by
    rw [hlower]
    rintro letter hmem rfl
    rcases hc with ⟨d, hd⟩ | rfl
    · have hor : c = 'i' ∨ c = 'n' := by simpa using hmem
      rcases hor with rfl | rfl
      · cases hd
      · cases hd
    · exact absurd hmem (by decide)
  have hname : ∀ name : String, name.toList.head? ∈ [some 'i', some 'n'] →
      String.ofList ((c :: tail ++ rest).map Char.toLower) ≠ name := by
    rintro name hhead rfl
    rw [String.toList_ofList] at hhead
    have hmem : c.toLower ∈ ['i', 'n'] := by simpa using hhead
    exact hletter _ hmem rfl
  unfold word?
  dsimp only
  rw [if_neg (not_or.2 ⟨hname _ (by decide), hname _ (by decide)⟩), if_neg (hname _ (by decide))]

/-- A text that writes a number denotes, as a whole text, the double that the number is rounded
to. -/
theorem double?_of_writes (h : Writes cs numeral) :
    double? (String.ofList cs) = some numeral.value := by
  unfold double?
  rw [standalone_of_writes h, Option.bind_some]
  cases h with
  | @infinity sign negative hsign =>
    have hscan : scanSign (sign ++ infinityWord) = (negative, infinityWord) :=
      hsign.scanSign_append (by simpa using @noSign_infinityWord [])
    rw [hscan]
    rfl
  | @decimal sign mantissa exponent negative ds fs e hsign hmantissa hexponent =>
    have hscan : scanSign (sign ++ (mantissa ++ exponent)) = (negative, mantissa ++ exponent) :=
      hsign.scanSign_append (hmantissa.starts exponent).1
    have hwrites : Writes (sign ++ (mantissa ++ exponent)) _ := .decimal hsign hmantissa hexponent
    have hdecimal := scan_of_writes hwrites
    rw [scan_decimal hsign hmantissa] at hdecimal
    rw [hscan]
    dsimp only
    rw [hmantissa.word?_eq_none, hdecimal]
    rfl

end Numeral

end Conform
