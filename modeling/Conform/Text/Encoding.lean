import Conform.Text.Quoted
import Conform.Text.Utf8

/-!
# Encodings of Text

The encodings in which bytes can be turned into text and text into bytes, and the names
they go by. What an encoding has no form for is handled in one of several ways, which go by
names as well; under most of them something stands in for it.
-/

namespace Conform.Text

/-- An encoding of text. -/
inductive Encoding where
  | utf8
  | latin1
  | ascii
  deriving DecidableEq, Repr

namespace Encoding

/-- The names of encodings, in lower case and with underscores between their words. -/
def names : List (Encoding × List String) :=
  [(.utf8, ["utf_8", "utf8", "u8", "utf", "utf8_ucs2", "utf8_ucs4", "cp65001"]),
    (.latin1, ["latin_1", "latin1", "latin", "l1", "iso_8859_1", "iso8859_1", "iso8859", "8859",
      "cp819", "ibm819", "csisolatin1", "iso_8859_1_1987", "iso_ir_100"]),
    (.ascii, ["ascii", "us_ascii", "us", "646", "ansi_x3.4_1968", "ansi_x3_4_1968",
      "ansi_x3.4_1986", "iso646_us", "iso_646.irv_1991", "iso_ir_6", "cp367", "ibm367",
      "csascii"])]

/-- The words of a name, which are made of letters, digits and points. -/
def words (name : String) : List String :=
  let isPart (c : Char) : Bool := c.isAlphanum || c = '.'
  ((name.toList.splitBy fun c d => isPart c == isPart d).filter fun word => word.any isPart).map
    String.ofList

/-- The encoding that a name stands for, whatever its case and the signs between its words. -/
def ofName? (name : String) : Option Encoding :=
  let plain := String.ofList (("_".intercalate (words name)).toList.map Char.toLower)
  (names.find? fun entry => entry.2.contains plain).map Prod.fst

/-- The parts of bytes in an encoding. -/
def pieces (encoding : Encoding) (bytes : List UInt8) : List Utf8.Piece :=
  match encoding with
  | .utf8 => Utf8.pieces [] { count := 0 } bytes
  | .latin1 => bytes.map fun b => .whole [b]
  | .ascii => bytes.map fun b => if b < 0x80 then .whole [b] else .broken [b]

/-- The character that the bytes of a part stand for. -/
def charsOf (encoding : Encoding) (bytes : List UInt8) : List Char :=
  match encoding with
  | .utf8 => ((String.fromUTF8? ⟨bytes.toArray⟩).map String.toList).getD []
  | .latin1 | .ascii => bytes.map fun b => Char.ofNat b.toNat

/-- The greatest code point that has a form in an encoding. -/
def greatest : Encoding → Nat
  | .utf8 => 0x10FFFF
  | .latin1 => 0xFF
  | .ascii => 0x7F

/-- The bytes of a character that has a form in an encoding. -/
def bytesOf (encoding : Encoding) (c : Char) : List UInt8 :=
  match encoding with
  | .utf8 => (String.singleton c).toUTF8.toList
  | .latin1 | .ascii => [c.toNat.toUInt8]

end Encoding

/-! ## What has no form -/

/-- A way to handle what has no form in an encoding. -/
inductive Handling where
  | strict
  | ignore
  | replace
  | escape
  | reference
  | unknown
  deriving DecidableEq, Repr

/-- Why a text or bytes have no form. -/
inductive Formless where
  | bytes
  | text
  | handling
  | direction
  deriving DecidableEq, Repr

namespace Handling

/-- The names of the ways. -/
def names : List (String × Handling) :=
  [("strict", .strict), ("ignore", .ignore), ("replace", .replace),
    ("backslashreplace", .escape), ("xmlcharrefreplace", .reference),
    ("surrogateescape", .strict), ("surrogatepass", .strict)]

/-- The way that a name stands for. -/
def ofName (name : String) : Handling := (names.lookup name).getD .unknown

/-- What stands in for bytes that make up no character. -/
def forBytes (handling : Handling) (bytes : List UInt8) : Except Formless (List Char) :=
  match handling with
  | .strict => .error .bytes
  | .ignore => .ok []
  | .replace => .ok [Char.ofNat 0xFFFD]
  | .escape => .ok (bytes.flatMap fun b => '\\' :: 'x' :: hexText 2 b.toNat)
  | .reference => .error .direction
  | .unknown => .error .handling

/-- What stands in for a character. -/
def forChar (handling : Handling) (c : Char) : Except Formless (List Char) :=
  match handling with
  | .strict => .error .text
  | .ignore => .ok []
  | .replace => .ok ['?']
  | .escape => .ok (escapedChar c)
  | .reference => .ok ('&' :: '#' :: Nat.toDigits 10 c.toNat ++ [';'])
  | .unknown => .error .handling

end Handling

namespace Encoding

/-- The text that bytes stand for. -/
def decode (encoding : Encoding) (handling : Handling) (bytes : List UInt8) :
    Except Formless String := do
  let parts ← (encoding.pieces bytes).mapM fun
    | .whole bytes => .ok (encoding.charsOf bytes)
    | .broken bytes => handling.forBytes bytes
  return String.ofList parts.flatten

/-- The bytes that stand for a text. -/
def encode (encoding : Encoding) (handling : Handling) (s : String) :
    Except Formless (List UInt8) := do
  let parts ← s.toList.mapM fun c =>
    if c.toNat ≤ encoding.greatest then .ok [c] else handling.forChar c
  return (parts.flatten).flatMap encoding.bytesOf

end Encoding

end Conform.Text
