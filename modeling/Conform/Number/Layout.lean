import Conform.Number.Shortest

/-!
# Layouts of Numbers

How a double is written once its shortest decimal is known. A `Layout` holds the choices:
which positions of the decimal point are written positionally, whether a whole number
keeps a point, how wide an exponent is, and what the values without digits are called.

* `Layout.canonical` is the normal form that strict parsing compares with.
* `Layout.plain` is the form a double has as text, and `Layout.part` the form it has as a
  part of a complex number.
-/

namespace Conform

/-- The choices that fix how doubles are written. -/
structure Layout where
  /-- The point is written positionally only when it lies to the right of this position. -/
  lowest : Int
  /-- The point is written positionally only up to this position. -/
  highest : Int
  /-- Whether a whole number written positionally ends in `.0`. -/
  keepsPoint : Bool
  /-- The least number of digits of an exponent. -/
  exponentWidth : Nat
  /-- Whether the sign of a zero is written. -/
  signsZero : Bool
  /-- The word for not-a-number. -/
  nan : String
  /-- The word for infinity. -/
  infinity : String

namespace Layout

/-- The normal form of numbers: positional while the point position `n` satisfies
`-6 < n ≤ 21`, whole numbers without a point, both zeros as `0`. -/
def canonical : Layout where
  lowest := -6
  highest := 21
  keepsPoint := false
  exponentWidth := 1
  signsZero := false
  nan := "NaN"
  infinity := "Infinity"

/-- The text of a double: positional while the point position `n` satisfies
`-4 < n ≤ 16`, whole numbers with `.0`, exponents of at least two digits. -/
def plain : Layout where
  lowest := -4
  highest := 16
  keepsPoint := true
  exponentWidth := 2
  signsZero := true
  nan := "nan"
  infinity := "inf"

/-- The text of a part of a complex number: as `plain`, but whole numbers lose `.0`. -/
def part : Layout := { plain with keepsPoint := false }

/-- `count` zeros. -/
def zeros (count : Nat) : List Char := List.replicate count '0'

/-- Digits with the point after all of them. -/
def whole (layout : Layout) (digits : List Char) : List Char :=
  if layout.keepsPoint then digits ++ ['.', '0'] else digits

/-- An exponent: its sign, always, and at least the least number of digits. -/
def exponentText (layout : Layout) (exponent : Int) : List Char :=
  let digits := Nat.toDigits 10 exponent.natAbs
  (if 0 ≤ exponent then '+' else '-') ::
    (zeros (layout.exponentWidth - digits.length) ++ digits)

/-- The first digit, then the others after a point if there are any. -/
def mantissa : List Char → List Char
  | [] => []
  | [d] => [d]
  | d :: rest => d :: '.' :: rest

/-- The text of `0.d₁d₂… * 10 ^ point` for the digits `d₁d₂…`. -/
def digitsText (layout : Layout) (digits : List Char) (point : Int) : List Char :=
  if point ≤ layout.lowest ∨ layout.highest < point then
    mantissa digits ++ 'e' :: layout.exponentText (point - 1)
  else if digits.length ≤ point then
    layout.whole (digits ++ zeros (point.toNat - digits.length))
  else if 0 < point then
    digits.take point.toNat ++ '.' :: digits.drop point.toNat
  else
    '0' :: '.' :: (zeros (-point).toNat ++ digits)

/-- The text of a double without its sign. -/
def unsigned (layout : Layout) : Binary64 → List Char
  | .nan => layout.nan.toList
  | .infinite _ => layout.infinity.toList
  | .finite _ significand scale _ =>
    if significand = 0 then layout.whole ['0']
    else
      let short := ShortDecimal.ofParts significand scale
      layout.digitsText short.chars short.point

/-- Whether the text of a double starts with a minus sign. -/
def writesSign (layout : Layout) (x : Binary64) : Bool :=
  x.isNegative && (layout.signsZero || !x.isZero)

/-- The text of a double as characters. -/
def chars (layout : Layout) (x : Binary64) : List Char :=
  if layout.writesSign x then '-' :: layout.unsigned x else layout.unsigned x

/-- The text of a double. -/
def render (layout : Layout) (x : Binary64) : String := String.ofList (layout.chars x)

end Layout

end Conform
