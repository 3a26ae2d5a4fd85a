/-!
# Decimal Digits

The characters that stand for a decimal digit: those of general category `Nd`, which
Unicode lays out as runs of ten from zero to nine. A run is given by its zero.
-/

namespace Conform.Text

/-- The zeros of the runs of decimal digits, in increasing order. -/
def digitZeros : List Nat :=
  [
    0x30, 0x660, 0x6F0, 0x7C0, 0x966, 0x9E6, 0xA66, 0xAE6, 0xB66, 0xBE6, 0xC66, 0xCE6,
    0xD66, 0xDE6, 0xE50, 0xED0, 0xF20, 0x1040, 0x1090, 0x17E0, 0x1810, 0x1946, 0x19D0,
    0x1A80, 0x1A90, 0x1B50, 0x1BB0, 0x1C40, 0x1C50, 0xA620, 0xA8D0, 0xA900, 0xA9D0,
    0xA9F0, 0xAA50, 0xABF0, 0xFF10, 0x104A0, 0x10D30, 0x11066, 0x110F0, 0x11136,
    0x111D0, 0x112F0, 0x11450, 0x114D0, 0x11650, 0x116C0, 0x11730, 0x118E0, 0x11950,
    0x11C50, 0x11D50, 0x11DA0, 0x16A60, 0x16AC0, 0x16B50, 0x1D7CE, 0x1D7D8, 0x1D7E2,
    0x1D7EC, 0x1D7F6, 0x1E140, 0x1E2F0, 0x1E950, 0x1FBF0
  ]

/-- The value of a decimal digit, and nothing for any other character. -/
def digit? (c : Char) : Option Nat :=
  if c.toNat < 128 then
    if 0x30 ≤ c.toNat ∧ c.toNat ≤ 0x39 then some (c.toNat - 0x30) else none
  else
    (digitZeros.find? fun start => start ≤ c.toNat && c.toNat < start + 10).map (c.toNat - ·)

/-- The digits a text starts with, and what follows them. -/
def digitRun : List Char → List Nat × List Char
  | [] => ([], [])
  | c :: rest =>
    match digit? c with
    | some d => (d :: (digitRun rest).1, (digitRun rest).2)
    | none => ([], c :: rest)

/-- The natural number written by a list of digits, the most significant one first. -/
def digitsValue (digits : List Nat) : Nat :=
  digits.foldl (fun value d => value * 10 + d) 0

/-- The value of a hexadecimal digit in either case, and nothing for another character. -/
def hexDigit? (c : Char) : Option Nat :=
  if '0' ≤ c ∧ c ≤ '9' then some (c.toNat - '0'.toNat)
  else if 'a' ≤ c ∧ c ≤ 'f' then some (c.toNat - 'a'.toNat + 10)
  else if 'A' ≤ c ∧ c ≤ 'F' then some (c.toNat - 'A'.toNat + 10)
  else none

/-- A digit is at most nine. -/
theorem digit?_le {c : Char} {d : Nat} (h : digit? c = some d) : d ≤ 9 := by
  unfold digit? at h
  split at h
  · split at h
    · injection h with h
      omega
    · simp at h
  · obtain ⟨start, hstart, rfl⟩ := Option.map_eq_some_iff.1 h
    have := List.find?_some hstart
    simp only [Bool.and_eq_true, decide_eq_true_eq] at this
    omega

/-- The run and its remainder never exceed the text they come from. -/
theorem length_digitRun (cs : List Char) :
    (digitRun cs).1.length + (digitRun cs).2.length = cs.length := by
  induction cs with
  | nil => rfl
  | cons c rest ih =>
    unfold digitRun
    split
    · simp_all
      omega
    · simp_all

end Conform.Text
