import Conform.Number.Binary64
import Conform.Text.Blank
import Conform.Text.Digit

/-!
# Numerals

Numbers written in text. A numeral is an optional sign followed by the word `Infinity` or
by a mantissa with an optional exponent; a mantissa is digits with an optional point and
further digits, or a point followed by digits.

* `Numeral.scan` takes the longest numeral off the front of a text, and fails only where
  no numeral starts.
* `Numeral.value` is the nearest double to what a numeral denotes.
* `Numeral.double?` and `Numeral.integer?` read a text that must be a number as a whole.
-/

namespace Conform

open Text

/-- A number as written: an infinity, or a decimal `coefficient * 10 ^ exponent`. -/
inductive Numeral where
  | infinity (negative : Bool)
  | decimal (negative : Bool) (coefficient : Nat) (exponent : Int)
  deriving DecidableEq, Repr

namespace Numeral

/-- The double nearest to the number. -/
def value : Numeral → Binary64
  | .infinity negative => .infinite negative
  | .decimal negative coefficient exponent => Binary64.ofDecimal negative coefficient exponent

/-- An optional sign, as whether it is the minus sign, and what follows it. -/
def scanSign : List Char → Bool × List Char
  | '+' :: rest => (false, rest)
  | '-' :: rest => (true, rest)
  | rest => (false, rest)

/-- Digits with an optional point and further digits, or a point followed by digits: the
digits before and after the point, and what follows the mantissa. -/
def scanMantissa (cs : List Char) : Option (List Nat × List Nat × List Char) :=
  match digitRun cs with
  | ([], '.' :: rest) =>
    match digitRun rest with
    | ([], _) => none
    | (fraction, rest) => some ([], fraction, rest)
  | ([], _) => none
  | (digits, '.' :: rest) => some (digits, (digitRun rest).1, (digitRun rest).2)
  | (digits, rest) => some (digits, [], rest)

/-- The exponent a text starts with and what follows it; a letter that no digits follow
is no exponent. -/
def scanExponent (cs : List Char) : Int × List Char :=
  match cs with
  | c :: rest =>
    if c = 'e' ∨ c = 'E' then
      let (negative, rest) := scanSign rest
      match digitRun rest with
      | ([], _) => (0, cs)
      | (digits, rest) =>
        let size : Int := digitsValue digits
        (if negative then -size else size, rest)
    else (0, cs)
  | [] => (0, cs)

/-- A mantissa with an optional exponent, under a sign already read. -/
def scanDecimal (negative : Bool) (cs : List Char) : Option (Numeral × List Char) :=
  (scanMantissa cs).map fun (digits, fraction, rest) =>
    let (exponent, rest) := scanExponent rest
    (.decimal negative (digitsValue (digits ++ fraction)) (exponent - fraction.length), rest)

/-- The word for infinity. -/
def infinityWord : List Char := "Infinity".toList

/-- The longest numeral a text starts with, and what follows it. -/
def scan (cs : List Char) : Option (Numeral × List Char) :=
  let (negative, rest) := scanSign cs
  if infinityWord.isPrefixOf rest then
    some (.infinity negative, rest.drop infinityWord.length)
  else scanDecimal negative rest

/-- Take out single underscores that stand between two digits; an underscore anywhere
else spoils the text. -/
def dropUnderscores (isDigit : Char → Bool) : List Char → Option (List Char)
  | [] => some []
  | '_' :: _ => none
  | [c] => some [c]
  | c :: '_' :: d :: rest =>
    if isDigit c && isDigit d then (dropUnderscores isDigit (d :: rest)).map (c :: ·) else none
  | c :: rest => (dropUnderscores isDigit rest).map (c :: ·)

/-- The characters of a number that stands alone in a text, without the white space around it
and the underscores in it. -/
def standalone (s : String) : Option (List Char) :=
  dropUnderscores (fun c => (digit? c).isSome) (trimPadding s.toList)

/-- The words for values that have no digits. -/
def word? (negative : Bool) (cs : List Char) : Option Binary64 :=
  let name := String.ofList (cs.map Char.toLower)
  if name = "inf" ∨ name = "infinity" then some (.infinite negative)
  else if name = "nan" then some .nan
  else none

/-- The double that a text as a whole denotes, white space around it aside. -/
def double? (s : String) : Option Binary64 :=
  (standalone s).bind fun cs =>
    let (negative, rest) := scanSign cs
    (word? negative rest).or <|
      match scanDecimal negative rest with
      | some (numeral, []) => some numeral.value
      | _ => none

/-- How many digits the numeral of an integer may have, in a base that is no power of two. -/
def digitLimit : Nat := 4300

/-- Whether digits in a base are not too many for an integer to be read from them. -/
def isReadable (base count : Nat) : Bool :=
  count ≤ digitLimit || [2, 4, 8, 16, 32].contains base

/-- The integer that a text as a whole denotes in decimal, white space around it aside. -/
def integer? (s : String) : Option Int :=
  (standalone s).bind fun cs =>
    let (negative, rest) := scanSign cs
    match digitRun rest with
    | ([], _) => none
    | (digits, []) =>
      let size : Int := digitsValue digits
      if isReadable 10 digits.length then some (if negative then -size else size) else none
    | _ => none

/-- The value of a digit in a base: a decimal digit or an ASCII letter of either case. -/
def digitIn? (base : Nat) (c : Char) : Option Nat :=
  let value := (digit? c).or
    (if c.isAlpha then some (c.toLower.toNat - 'a'.toNat + 10) else none)
  value.filter (· < base)

/-- The base that a zero and a letter announce. -/
def announcedBase? : List Char → Option Nat
  | '0' :: letter :: _ => [('b', 2), ('o', 8), ('x', 16)].lookup letter.toLower
  | _ => none

/-- A text without the zero and the letter that announce a base, and without an underscore
after them. -/
def dropAnnouncement (base : Nat) (cs : List Char) : List Char :=
  if announcedBase? cs = some base then
    match cs.drop 2 with
    | '_' :: rest => rest
    | rest => rest
  else cs

/-- The natural number that digits in a base write, with underscores between them. -/
def naturalIn? (base : Nat) (cs : List Char) : Option Nat := do
  let chars ← dropUnderscores (fun c => (digitIn? base c).isSome) cs
  let digits ← chars.mapM (digitIn? base)
  if digits.isEmpty || !isReadable base digits.length then none
  else some (digits.foldl (fun n d => n * base + d) 0)

/-- The natural number that a text writes in a base. Base zero stands for the base that is
announced, or else for ten, and then only zero starts with a zero. -/
def based? (base : Nat) (cs : List Char) : Option Nat :=
  if base ≠ 0 then naturalIn? base (dropAnnouncement base cs)
  else
    match announcedBase? cs with
    | some announced => naturalIn? announced (dropAnnouncement announced cs)
    | none =>
      (naturalIn? 10 cs).filter fun n => n = 0 || cs.head? ≠ some '0'

/-- The integer that a text as a whole denotes in a base, white space around it aside. -/
def integerIn? (base : Nat) (cs : List Char) : Option Int :=
  let (negative, rest) := scanSign (trimPadding cs)
  (based? base rest).map fun (size : Nat) => if negative then -(size : Int) else size

end Numeral

end Conform
