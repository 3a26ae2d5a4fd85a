import Conform.Text.Printable

/-!
# Quoted Text

How text and bytes are written inside quotes. The single quote is used unless the content
has one and no double quote; the backslash, the quote in use and whatever cannot be shown
are written as escapes.
-/

namespace Conform.Text

/-- The hexadecimal digits of a number in lower case, filled with zeros up to a width. -/
def hexText (width n : Nat) : List Char :=
  let digits := Nat.toDigits 16 n
  List.replicate (width - digits.length) '0' ++ digits

/-- The quote that encloses the given content. -/
def quoteFor (content : List Char) : Char :=
  if content.contains '\'' && !content.contains '"' then '"' else '\''

/-- The escapes that characters have in text and in bytes alike. -/
def commonEscape? (quote c : Char) : Option (List Char) :=
  if c = quote ∨ c = '\\' then some ['\\', c]
  else if c = '\n' then some ['\\', 'n']
  else if c = '\r' then some ['\\', 'r']
  else if c = '\t' then some ['\\', 't']
  else none

/-- The escape of a character by its code point, as short as that allows. -/
def escapedChar (c : Char) : List Char :=
  if c.toNat < 0x100 then '\\' :: 'x' :: hexText 2 c.toNat
  else if c.toNat < 0x10000 then '\\' :: 'u' :: hexText 4 c.toNat
  else '\\' :: 'U' :: hexText 8 c.toNat

/-- A character as it stands between quotes: itself when printable, else an escape. -/
def quotedChar (quote c : Char) : List Char :=
  (commonEscape? quote c).getD <| if isPrintable c then [c] else escapedChar c

/-- A text in quotes. -/
def quoted (s : String) : String :=
  let quote := quoteFor s.toList
  String.ofList (quote :: s.toList.flatMap (quotedChar quote) ++ [quote])

/-- A byte as it stands between quotes: an ASCII character that can be shown, or an
escape. -/
def quotedByte (quote : Char) (b : UInt8) : List Char :=
  let c := Char.ofNat b.toNat
  (commonEscape? quote c).getD <|
    if 0x20 ≤ b ∧ b < 0x7F then [c] else '\\' :: 'x' :: hexText 2 b.toNat

/-- Bytes in quotes, after the letter that marks them. -/
def quotedBytes (bytes : List UInt8) : String :=
  let quote := quoteFor (bytes.map fun b => Char.ofNat b.toNat)
  String.ofList ('b' :: quote :: bytes.flatMap (quotedByte quote) ++ [quote])

end Conform.Text
