import Conform.Text.Digit
import Mathlib.Tactic.Ring

/-!
# Decimal digits in text

How the digits that a number is written with are read back: `digitRun` takes exactly the digits
off the front of a text (`digitRun_append`), and `digitsValue` gives the number that they were
written for (`digitsValue_toDigits`).
-/

namespace Conform.Text

/-- A text of decimal digits. -/
def AllDigits (cs : List Char) : Prop := ∀ c ∈ cs, c.isDigit

/-- A text that does not go on with a digit. -/
def NoDigit (cs : List Char) : Prop := ∀ c, cs.head? = some c → digit? c = none

/-- The values of the digits of a text. -/
def digitValues (cs : List Char) : List ℕ := cs.map fun c => c.toNat - '0'.toNat

theorem allDigits_append {cs ds : List Char} :
    AllDigits (cs ++ ds) ↔ AllDigits cs ∧ AllDigits ds := by
  simp [AllDigits, or_imp, forall_and]

theorem allDigits_toDigits (n : ℕ) : AllDigits (Nat.toDigits 10 n) := fun _ hc =>
  Nat.isDigit_of_mem_toDigits (by decide) (by decide) hc

theorem allDigits_replicate (k : ℕ) : AllDigits (List.replicate k '0') := fun c hc => by
  rw [List.eq_of_mem_replicate hc]
  decide

theorem noDigit_nil : NoDigit [] := by simp [NoDigit]

theorem noDigit_cons {c : Char} {rest : List Char} (h : digit? c = none) : NoDigit (c :: rest) := by
  simpa [NoDigit] using h

/-- An ASCII digit stands for its distance from the digit zero. -/
theorem digit?_of_isDigit {c : Char} (h : c.isDigit) : digit? c = some (c.toNat - '0'.toNat) := by
  have hrange : 48 ≤ c.toNat ∧ c.toNat ≤ 57 := by
    simpa [Char.isDigit, UInt32.le_iff_toNat_le] using h
  have hascii : c.toNat < 128 := by omega
  simp [digit?, hascii, hrange]

/-- The digits at the front of a text are taken off it, and no more. -/
theorem digitRun_append {cs rest : List Char} (hcs : AllDigits cs) (hrest : NoDigit rest) :
    digitRun (cs ++ rest) = (digitValues cs, rest) := by
  induction cs with
  | nil =>
    -- What follows the digits stops the run, if anything follows.
    cases rest with
    | nil => rfl
    | cons c rest => simp [digitRun, digitValues, hrest c rfl]
  | cons c cs ih =>
    have hc : digit? c = some (c.toNat - '0'.toNat) := digit?_of_isDigit (hcs c (by simp))
    have htail := ih fun d hd => hcs d (List.mem_cons_of_mem c hd)
    rw [List.cons_append, digitRun, hc, htail]
    rfl

/-- The number that digits write is the one that the standard library reads off them. -/
theorem digitsValue_digitValues (cs : List Char) :
    digitsValue (digitValues cs) = Nat.ofDigitChars 10 cs 0 := by
  simp only [digitsValue, digitValues, List.foldl_map, Nat.ofDigitChars_eq_foldl, mul_comm]

theorem digitsValue_toDigits (n : ℕ) : digitsValue (digitValues (Nat.toDigits 10 n)) = n := by
  rw [digitsValue_digitValues, Nat.ofDigitChars_ten_toDigits]

/-- Zeros after the digits multiply the number by a power of ten. -/
theorem digitsValue_append_zeros (cs : List Char) (k : ℕ) :
    digitsValue (digitValues (cs ++ List.replicate k '0')) =
      digitsValue (digitValues cs) * 10 ^ k := by
  rw [digitsValue_digitValues, digitsValue_digitValues, Nat.ofDigitChars_append,
    Nat.ofDigitChars_replicate_zero, mul_comm]

/-- Zeros before the digits do not count. -/
theorem digitsValue_zeros_append (k : ℕ) (cs : List Char) :
    digitsValue (digitValues (List.replicate k '0' ++ cs)) = digitsValue (digitValues cs) := by
  rw [digitsValue_digitValues, digitsValue_digitValues, Nat.ofDigitChars_append,
    Nat.ofDigitChars_replicate_zero, mul_zero]

/-- How many digits a number has is bounded as the powers of ten bound it. -/
theorem length_toDigits_le_iff {n k : ℕ} (hk : 0 < k) :
    (Nat.toDigits 10 n).length ≤ k ↔ n < 10 ^ k :=
  Nat.length_toDigits_le_iff (by decide) hk

/-- Multiplying by a power of ten appends zeros to the digits. -/
theorem toDigits_mul_pow {n : ℕ} (hn : 0 < n) (k : ℕ) :
    Nat.toDigits 10 (n * 10 ^ k) = Nat.toDigits 10 n ++ List.replicate k '0' := by
  induction k with
  | zero => simp
  | succ k ih =>
    have hpos : 0 < n * 10 ^ k := Nat.mul_pos hn (Nat.pow_pos (by decide))
    have hten : n * 10 ^ (k + 1) = 10 * (n * 10 ^ k) + 0 := by ring
    rw [hten, ← Nat.toDigits_append_toDigits (by decide) hpos (by decide), ih,
      List.replicate_succ', List.append_assoc, Nat.toDigits_zero]

end Conform.Text
