import Conform.Classifier
import Conform.Proofs.Number.LayoutTexts
import Conform.Proofs.Number.Shortest

/-!
# Canonical texts of doubles

What is read off the text that `Layout.canonical` gives a double. It writes the shortest decimal of
the double, so it is read as the double that it was written for (`parseText_render_finite`). Only
the sign of a zero is not written (`render_canonical_zero`).
-/

namespace Conform

open Text

namespace Value

/-- A text that writes a number is read as that number. -/
theorem parseText_of_writes {cs : List Char} {numeral : Numeral} (h : Numeral.Writes cs numeral) :
    parseText (String.ofList cs) = numeral.value := by
  unfold parseText
  rw [String.toList_ofList, trimLeft_of_not_blank h.not_blank, Numeral.scan_of_writes h]

/-- The text of a finite double other than zero is read as that double. -/
theorem parseText_render_finite {negative : Bool} {significand scale : ℕ}
    (h : Binary64.Canonical significand scale) (hpos : 0 < significand) :
    parseText (Layout.canonical.render (.finite negative significand scale h)) =
      .finite negative significand scale h := by
  set short := ShortDecimal.ofParts significand scale with hshort
  have hread : Binary64.ofDecimal false short.digits short.exponent =
      .finite false significand scale h := ShortDecimal.readsAs_ofParts h hpos
  obtain ⟨k, hwrites⟩ := Layout.canonical.writes_chars negative h hpos
  rw [Layout.render, parseText_of_writes hwrites]
  show Binary64.ofDecimal negative (short.digits * 10 ^ k) (short.exponent - k) = _
  -- Zeros that fill a whole number up go back into the exponent.
  rw [Binary64.ofDecimal_mul_pow, sub_add_cancel]
  cases negative with
  | false => exact hread
  | true => exact (Binary64.ofDecimal_true _ _).trans (congrArg Binary64.neg hread)

/-- The text of an infinity is read as that infinity. -/
theorem parseText_render_infinite (negative : Bool) :
    parseText (Layout.canonical.render (.infinite negative)) = .infinite negative := by
  cases negative <;> rfl

/-- Both zeros have one text. -/
theorem render_canonical_zero (negative : Bool) {scale : ℕ} (h : Binary64.Canonical 0 scale) :
    Layout.canonical.render (.finite negative 0 scale h) = "0" := by
  cases negative <;> rfl

/-- The text of a zero is read as the positive zero. -/
theorem parseText_zero : parseText "0" = Binary64.zero false := rfl

end Value

end Conform
