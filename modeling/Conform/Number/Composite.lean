import Conform.Number.Numeral

/-!
# Numbers of Several Parts

Numbers written in text that a single numeral does not cover: fractions, as a numerator over
a denominator or as a decimal, and complex numbers, as a real part, an imaginary part with
the letter `j` after it, or both.
-/

namespace Conform

open Text

namespace Numeral

/-! ## Fractions -/

/-- The digits a text starts with, single underscores between them aside, and what follows
them. -/
def spacedRun : List Char → List Nat × List Char
  | [] => ([], [])
  | [c] =>
    match digit? c with
    | some d => ([d], [])
    | none => ([], [c])
  | c :: '_' :: rest =>
    match digit? c with
    | none => ([], c :: '_' :: rest)
    | some d =>
      match spacedRun rest with
      | ([], _) => ([d], '_' :: rest)
      | (digits, after) => (d :: digits, after)
  | c :: rest =>
    match digit? c with
    | some d => (d :: (spacedRun rest).1, (spacedRun rest).2)
    | none => ([], c :: rest)

/-- The exponent that makes up the end of a text, nothing standing for zero. -/
def exponentEnd? : List Char → Option Int
  | [] => some 0
  | c :: rest =>
    if c = 'e' ∨ c = 'E' then
      let (negative, rest) := scanSign rest
      match spacedRun rest with
      | ([], _) => none
      | (digits, []) =>
        let size : Int := digitsValue digits
        if isReadable 10 digits.length then some (if negative then -size else size) else none
      | _ => none
    else none

/-- A magnitude that makes up a whole text, as numerator and denominator. -/
def magnitude? (cs : List Char) : Option (Nat × Nat) :=
  let (whole, rest) := spacedRun cs
  match rest with
  | '/' :: rest =>
    match whole, spacedRun rest with
    | _ :: _, (digits@(_ :: _), []) =>
      if isReadable 10 whole.length && isReadable 10 digits.length then
        some (digitsValue whole, digitsValue digits)
      else none
    | _, _ => none
  | _ => do
    let (fraction, rest) := match rest with
      | '.' :: rest => spacedRun rest
      | _ => ([], rest)
    let exponent ← exponentEnd? rest
    if whole.isEmpty && fraction.isEmpty then none
    else if !isReadable 10 whole.length || !isReadable 10 fraction.length then none
    else
      let shift := exponent - fraction.length
      let digits := digitsValue (whole ++ fraction)
      return (digits * Nat.pow 10 shift.toNat, Nat.pow 10 (-shift).toNat)

/-- The numerator and the denominator that a text as a whole writes, white space around it
aside. The denominator may be zero. -/
def fraction? (s : String) : Option (Int × Nat) :=
  let (negative, rest) := scanSign (trim s.toList)
  (magnitude? rest).map fun (numerator, denominator) =>
    (if negative then -(numerator : Int) else numerator, denominator)

/-! ## Complex numbers -/

/-- A double with an optional sign that a text starts with, and what follows it. -/
def leadingDouble? (cs : List Char) : Option (Binary64 × List Char) :=
  let (negative, rest) := scanSign cs
  let named (length : Nat) : Option Binary64 :=
    if rest.length < length then none else word? negative (rest.take length)
  -- The longest of the words comes first.
  match named 8, named 3 with
  | some x, _ => some (x, rest.drop 8)
  | none, some x => some (x, rest.drop 3)
  | none, none => (scanDecimal negative rest).map fun (numeral, after) => (numeral.value, after)

/-- A sign alone, which stands for one or minus one, and what follows it. -/
def loneSign? : List Char → Option (Binary64 × List Char)
  | '+' :: rest => some (.ofRat 1, rest)
  | '-' :: rest => some (.ofRat (-1), rest)
  | _ => none

/-- What follows the letter of the imaginary part. -/
def afterUnit? : List Char → Option (List Char)
  | 'j' :: rest | 'J' :: rest => some rest
  | _ => none

/-- The imaginary part and what follows it, from its sign on. -/
def imaginary? (cs : List Char) : Option (Binary64 × List Char) := do
  let (im, rest) ← (leadingDouble? cs).or (loneSign? cs)
  return (im, ← afterUnit? rest)

/-- The parts of a complex number that a text starts with, and what follows them. -/
def leadingComplex? (cs : List Char) : Option ((Binary64 × Binary64) × List Char) :=
  let zero := Binary64.zero false
  match leadingDouble? cs with
  | some (re, rest) =>
    match rest with
    | '+' :: _ | '-' :: _ =>
      -- A sign after a real part must start an imaginary one.
      (imaginary? rest).map fun (im, rest) => ((re, im), rest)
    | _ =>
      match afterUnit? rest with
      | some rest => some ((zero, re), rest)
      | none => some ((re, zero), rest)
  | none =>
    let (im, rest) := (loneSign? cs).getD (.ofRat 1, cs)
    (afterUnit? rest).map fun rest => ((zero, im), rest)

/-- The real and the imaginary part that a text as a whole writes. White space may stand
around the number and inside a pair of parentheses around it. -/
def complex? (s : String) : Option (Binary64 × Binary64) := do
  let cs ← dropUnderscores (fun c => (digit? c).isSome) s.toList
  match cs.dropWhile isPadding with
  | '(' :: rest =>
    let (parts, rest) ← leadingComplex? (rest.dropWhile isPadding)
    match rest.dropWhile isPadding with
    | ')' :: rest => if rest.all isPadding then some parts else none
    | _ => none
  | cs =>
    let (parts, rest) ← leadingComplex? cs
    if rest.all isPadding then some parts else none

end Numeral

end Conform
