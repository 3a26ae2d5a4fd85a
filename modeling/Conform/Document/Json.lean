import Conform.Document.Trouble
import Conform.Text.Digit
import Conform.Value.Equality

/-!
# JSON Documents

A JSON document is one value with white space around it. Numbers without a fraction and an
exponent are integers of any size, the others are doubles, and the words `NaN`, `Infinity`
and `-Infinity` are doubles as well. In an object the last of several members of one name
wins, at the place of the first. Arrays and objects lie only so deep in others.
-/

namespace Conform.Document.Json

open Text

/-- White space between the parts of a document. -/
def skipBlank (cs : List Char) : List Char :=
  cs.dropWhile fun c => c = ' ' || c = '\t' || c = '\n' || c = '\r'

/-- What follows a word that the text starts with. -/
def afterWord? (word : String) (cs : List Char) : Option (List Char) :=
  if word.toList.isPrefixOf cs then some (cs.drop word.length) else none

/-- The ASCII digits a text starts with, and what follows them. -/
def asciiDigits (cs : List Char) : List Nat × List Char :=
  ((cs.takeWhile Char.isDigit).map fun c => c.toNat - '0'.toNat, cs.dropWhile Char.isDigit)

/-- The whole part of a number: a zero, or digits that do not start with one. -/
def wholePart? (cs : List Char) : Option (List Nat × List Char) :=
  match cs with
  | '0' :: rest => some ([0], rest)
  | _ =>
    match asciiDigits cs with
    | ([], _) => none
    | run => some run

/-- The digits after a point; a point that no digits follow is not taken. -/
def fractionPart (cs : List Char) : List Nat × List Char :=
  match cs with
  | '.' :: rest =>
    match asciiDigits rest with
    | ([], _) => ([], cs)
    | run => run
  | _ => ([], cs)

/-- The exponent; a letter that no digits follow is not taken. -/
def exponentPart? (cs : List Char) : Option (Int × List Char) :=
  match cs with
  | c :: rest =>
    if c = 'e' ∨ c = 'E' then
      let (negative, rest) := match rest with
        | '+' :: rest => (false, rest)
        | '-' :: rest => (true, rest)
        | _ => (false, rest)
      match asciiDigits rest with
      | ([], _) => none
      | (digits, rest) =>
        let size : Int := digitsValue digits
        some (if negative then -size else size, rest)
    else none
  | [] => none

/-- The integer that digits write under a sign; too many digits are a fault. -/
def integer (negative : Bool) (digits : List Nat) : Except Trouble Value :=
  let size : Int := digitsValue digits
  if Numeral.isReadable 10 digits.length then .ok (.int (if negative then -size else size))
  else .error (.fault .badValue)

/-- A number, and what follows it. -/
def number (cs : List Char) : Except Trouble (Value × List Char) := do
  let (negative, rest) := match cs with
    | '-' :: rest => (true, rest)
    | _ => (false, cs)
  let (whole, rest) ← Trouble.required (wholePart? rest)
  let (fraction, rest) := fractionPart rest
  match exponentPart? rest, fraction with
  | none, [] => return (← integer negative whole, rest)
  | exponent, _ =>
    let (power, rest) := exponent.getD (0, rest)
    let coefficient := digitsValue (whole ++ fraction)
    return (.float none (.ofDecimal negative coefficient (power - fraction.length)), rest)

/-- The four hexadecimal digits of an escape as a number, and what follows them. -/
def hexUnit? (cs : List Char) : Option (Nat × List Char) :=
  match cs with
  | a :: b :: c :: d :: rest => do
    let digits ← [a, b, c, d].mapM hexDigit?
    return (digits.foldl (fun value digit => value * 16 + digit) 0, rest)
  | _ => none

/-- The character a code unit stands for, together with the escape after it where the two
form a pair. A unit that is half of a pair without the other half is replaced. -/
def unitChar (unit : Nat) (rest : List Char) : Char × List Char :=
  if 0xD800 ≤ unit ∧ unit < 0xDC00 then
    match rest with
    | '\\' :: 'u' :: tail =>
      match hexUnit? tail with
      | some (low, after) =>
        if 0xDC00 ≤ low ∧ low < 0xE000 then
          (Char.ofNat (0x10000 + (unit - 0xD800) * 0x400 + (low - 0xDC00)), after)
        else (Char.ofNat 0xFFFD, rest)
      | none => (Char.ofNat 0xFFFD, rest)
    | _ => (Char.ofNat 0xFFFD, rest)
  else if 0xDC00 ≤ unit ∧ unit < 0xE000 then (Char.ofNat 0xFFFD, rest)
  else (Char.ofNat unit, rest)

/-- The character that a letter after a backslash stands for. -/
def escape? : Char → Option Char
  | '"' => some '"'
  | '\\' => some '\\'
  | '/' => some '/'
  | 'b' => some (Char.ofNat 0x8)
  | 'f' => some (Char.ofNat 0xC)
  | 'n' => some '\n'
  | 'r' => some '\r'
  | 't' => some '\t'
  | _ => none

/-- The characters of a string after its opening quote, and what follows the closing one.
Control characters must be escaped. -/
def string? : Nat → List Char → Option (List Char × List Char)
  | 0, _ => none
  | fuel + 1, cs =>
    match cs with
    | [] => none
    | '"' :: rest => some ([], rest)
    | '\\' :: 'u' :: rest => do
      let (unit, rest) ← hexUnit? rest
      let (c, rest) := unitChar unit rest
      let (others, rest) ← string? fuel rest
      return (c :: others, rest)
    | '\\' :: letter :: rest => do
      let c ← escape? letter
      let (others, rest) ← string? fuel rest
      return (c :: others, rest)
    | c :: rest =>
      if c.toNat < 0x20 ∨ c = '\\' then none
      else do
        let (others, rest) ← string? fuel rest
        return (c :: others, rest)

/-- The words that stand for values. -/
def words : List (String × Value) :=
  [("null", .null), ("true", .bool true), ("false", .bool false), ("NaN", .float .ofJson .nan),
    ("Infinity", .float none (.infinite false)), ("-Infinity", .float none (.infinite true))]

/-- A value without parts: a word or a number. -/
def atom (cs : List Char) : Except Trouble (Value × List Char) :=
  match words.findSome? fun (word, v) => (afterWord? word cs).map fun rest => (v, rest) with
  | some found => .ok found
  | none => number cs

/-- How deep arrays and objects may lie in others. -/
def depthLimit : Nat := 987

mutual

/-- A value, and what follows it. Given is how much deeper arrays and objects may lie. -/
def value (depth : Nat) : Nat → List Char → Except Trouble (Value × List Char)
  | 0, _ => .error .malformed
  | fuel + 1, cs =>
    match cs, depth with
    | '"' :: rest, _ => do
      let (s, rest) ← Trouble.required (string? fuel rest)
      return (.text (String.ofList s), rest)
    | '[' :: _, 0 | '\x7b' :: _, 0 => .error (.fault .tooDeep)
    | '[' :: rest, depth + 1 =>
      match skipBlank rest with
      | ']' :: rest => return (.list none [], rest)
      | rest => do
        let (items, rest) ← items depth fuel rest
        return (.list none items, rest)
    | '\x7b' :: rest, depth + 1 =>
      match skipBlank rest with
      | '\x7d' :: rest => return (.mapping none [], rest)
      | rest => do
        let (members, rest) ← members depth fuel rest
        return (.mapping none (Entries.ofPairs members), rest)
    | _, _ => atom cs

/-- The items of an array up to its closing bracket. -/
def items (depth : Nat) : Nat → List Char → Except Trouble (List Value × List Char)
  | 0, _ => .error .malformed
  | fuel + 1, cs => do
    let (item, rest) ← value depth fuel cs
    match skipBlank rest with
    | ']' :: rest => return ([item], rest)
    | ',' :: rest =>
      let (others, rest) ← items depth fuel (skipBlank rest)
      return (item :: others, rest)
    | _ => .error .malformed

/-- The members of an object up to its closing brace. -/
def members (depth : Nat) : Nat → List Char → Except Trouble (List (Value × Value) × List Char)
  | 0, _ => .error .malformed
  | fuel + 1, cs => do
    match cs with
    | '"' :: rest =>
      let (key, rest) ← Trouble.required (string? fuel rest)
      match skipBlank rest with
      | ':' :: rest =>
        let (item, rest) ← value depth fuel (skipBlank rest)
        let member := (Value.text (String.ofList key), item)
        match skipBlank rest with
        | '\x7d' :: rest => return ([member], rest)
        | ',' :: rest =>
          let (others, rest) ← members depth fuel (skipBlank rest)
          return (member :: others, rest)
        | _ => .error .malformed
      | _ => .error .malformed
    | _ => .error .malformed

end

/-- The value of a document. Every step takes a character, so the length of the text bounds
their number. -/
def read (cs : List Char) : Except Trouble Value := do
  let (v, rest) ← value depthLimit (2 * cs.length + 2) (skipBlank cs)
  if (skipBlank rest).isEmpty then return v else .error .malformed

end Conform.Document.Json
