import Conform.Proofs.Number.CanonicalForm
import Conform.Proofs.Value.Openings

/-!
# Reading numbers the loose way

What any value is read as (`Value.parseFloat_reads`). A text gives the number that the longest part
at its front writes, leading white space aside, and not-a-number if no part writes one; the value of
a number is the double nearest to it; and whatever is no number is read by its text.
-/

namespace Conform

open Text

namespace Numeral

/-- The value of a numeral that denotes a rational number is the double nearest to it. -/
theorem isNearest_value {numeral : Numeral} {q : ℚ} (h : numeral.toRat? = some q) :
    Binary64.IsNearest q numeral.value := by
  cases numeral with
  | infinity negative => cases h
  | decimal negative coefficient exponent =>
    obtain rfl := Option.some.inj h
    exact Binary64.isNearest_ofDecimal negative coefficient exponent

/-- A numeral always has a number for its value. -/
theorem value_ne_nan (numeral : Numeral) : numeral.value ≠ .nan := by
  cases numeral with
  | infinity negative => simp [value]
  | decimal negative coefficient exponent =>
    exact (Binary64.isNearest_ofDecimal negative coefficient exponent).number

end Numeral

namespace Value

/-! ## Texts -/

/-- A double is what a text is read as: the value of the longest part at the front of the text that
writes a number, leading white space aside, and not-a-number if no part does. -/
structure ReadsAs (s : String) (x : Binary64) : Prop where
  /-- Without a part that writes a number there is none. -/
  absent : (∀ part, part <+: trimLeft s.toList → ∀ numeral, ¬ Numeral.Writes part numeral) → x = .nan
  /-- If some part writes a number, one of them is the longest. -/
  found : ∀ part numeral, part <+: trimLeft s.toList → Numeral.Writes part numeral →
    ∃ longest numeral', Numeral.Longest (trimLeft s.toList) longest numeral'
  /-- The longest part is read as a whole, as the same double, which is a number: the one nearest to
  the rational number that the part denotes, or the infinity that it names. -/
  longest : ∀ part numeral, Numeral.Longest (trimLeft s.toList) part numeral →
    x = numeral.value ∧ x ≠ .nan ∧ (Value.text (String.ofList part)).toDouble = .ok x ∧
      (∀ q, numeral.toRat? = some q → Binary64.IsNearest q x) ∧
      ∀ negative, numeral = .infinity negative → x = .infinite negative

theorem readsAs_parseText (s : String) : ReadsAs s (parseText s) where
  absent := by
    intro h
    rw [parseText, Numeral.scan_eq_none_iff.2 h]
  found := by
    intro part numeral hstarts hwrites
    cases hscan : Numeral.scan (trimLeft s.toList) with
    | none => exact absurd hwrites (Numeral.scan_eq_none_iff.1 hscan part hstarts numeral)
    | some answer =>
      obtain ⟨longest, -, hlongest⟩ :=
        Numeral.longest_of_scan (show _ = some (answer.1, answer.2) from hscan)
      exact ⟨longest, answer.1, hlongest⟩
  longest := by
    intro part numeral h
    obtain ⟨rest, hscan⟩ := Numeral.scan_of_longest h
    have hvalue : parseText s = numeral.value := by rw [parseText, hscan]
    rw [hvalue]
    refine ⟨rfl, numeral.value_ne_nan, ?_, fun q hq => Numeral.isNearest_value hq, ?_⟩
    · simp only [toDouble, Numeral.double?_of_writes h.writes]
    · rintro negative rfl
      rfl

/-! ## Values -/

/-- What is no number is read by its text, at whatever level of the channel it is written, and is
refused only if it refuses its text. -/
theorem parseFloat_of_not_isNumber {v : Value} (h : v.isNumber = false) (level : Threshold) :
    v.parseFloat = ((v.message level).map parseText).mapError Failure.ofText := by
  rw [parseText_message_eq level .unset]
  fun_cases parseFloat v with
  | case1 | case2 | case3 => cases h
  | case4 v _ _ _ s hread =>
    rw [hread]
    rfl
  | case5 v _ _ _ failure hread =>
    rw [hread]
    rfl

/-- Reading a value fails exactly if the value is no number and refuses its text. -/
theorem parseFloat_eq_error_iff (level : Threshold) (v : Value) (f : Failure) :
    v.parseFloat = .error f ↔
      v.isNumber = false ∧ ∃ failure, v.message level = .error failure ∧ f = .ofText failure := by
  by_cases hnumber : v.isNumber = true
  · refine iff_of_false ?_ fun h => absurd (hnumber.symm.trans h.1) (by decide)
    cases v <;> first | exact absurd hnumber Bool.false_ne_true | exact nofun
  · have hnot : v.isNumber = false := Bool.eq_false_iff.2 hnumber
    rw [parseFloat_of_not_isNumber hnot level]
    cases v.message level with
    | ok s =>
      refine iff_of_false nofun ?_
      rintro ⟨-, failure, hfailure, -⟩
      cases hfailure
    | error failure =>
      constructor
      · intro h
        exact ⟨hnot, failure, rfl, (Except.error.inj h).symm⟩
      · rintro ⟨-, _, hfailure, rfl⟩
        cases hfailure
        rfl

/-- What a value is read as the loose way. A value that is no number is read by its text, whatever
level the channel shows in it, and fails only if it refuses its text. No text is refused, and every
text passes for alphanumeric. A double is given back as it is, and an integer or a fraction gives
the double nearest to it, however large it is. -/
theorem parseFloat_reads :
    (∀ (level : Threshold) (v : Value) (s : String), v.isNumber = false → v.message level = .ok s →
      ∃ x, v.parseFloat = .ok x ∧ ReadsAs s x) ∧
    (∀ s : String, ∃ x, (Value.text s).parseFloat = .ok x ∧ ReadsAs s x ∧
      (Value.text s).isAlphanumeric = .ok true) ∧
    (∀ (mark : Mark) (x : Binary64), (Value.float mark x).readDouble = .ok (.float mark x) ∧
      (Value.float mark x).parseFloat = .ok x) ∧
    (∀ n : ℤ, ∃ x, (Value.int n).parseFloat = .ok x ∧ Binary64.IsNearest n x) ∧
    (∀ (mark : Mark) (q : ℚ), ∃ x, (Value.fraction mark q).parseFloat = .ok x ∧
      Binary64.IsNearest q x) ∧
    ∀ (level : Threshold) (v : Value) (f : Failure), v.parseFloat = .error f ↔
      v.isNumber = false ∧ ∃ failure, v.message level = .error failure ∧ f = .ofText failure := by
  refine ⟨?_, ?_, fun mark x => ⟨rfl, rfl⟩, ?_, ?_, parseFloat_eq_error_iff⟩
  · intro level v s hnumber hs
    refine ⟨parseText s, ?_, readsAs_parseText s⟩
    rw [parseFloat_of_not_isNumber hnumber level, hs]
    rfl
  · intro s
    refine ⟨parseText s, rfl, readsAs_parseText s, ?_⟩
    show Except.ok (!(parseText s).isNaN || true) = _
    rw [Bool.or_true]
  · intro n
    exact ⟨_, rfl, Binary64.isNearest_ofRat n⟩
  · intro mark q
    exact ⟨_, rfl, Binary64.isNearest_ofRat q⟩

end Value

end Conform
