/-!
# Forms of UTF-8

How bytes make up characters in UTF-8: how many bytes follow the first one of a character, and
between which bytes they lie. Bytes that make up no character fall into runs, each of which
is the longest beginning of a character that is there.
-/

namespace Conform.Text

namespace Utf8

/-- What is still missing of a character: a number of bytes, and between which bytes the
next of them lies. -/
structure Missing where
  /-- How many bytes are missing. -/
  count : Nat
  /-- The smallest byte that may come next. -/
  low : UInt8 := 0x80
  /-- The largest byte that may come next. -/
  high : UInt8 := 0xBF

/-- What is missing after the first byte of a character; some bytes are none. -/
def Missing.ofFirst? (b : UInt8) : Option Missing :=
  if b < 0x80 then some { count := 0 }
  else if b < 0xC2 then none
  else if b < 0xE0 then some { count := 1 }
  else if b = 0xE0 then some { count := 2, low := 0xA0 }
  else if b = 0xED then some { count := 2, high := 0x9F }
  else if b < 0xF0 then some { count := 2 }
  else if b = 0xF0 then some { count := 3, low := 0x90 }
  else if b < 0xF4 then some { count := 3 }
  else if b = 0xF4 then some { count := 3, high := 0x8F }
  else none

/-- What is missing after one more byte, which must be one that may come next. -/
def Missing.after? (m : Missing) (b : UInt8) : Option Missing :=
  if m.low ≤ b ∧ b ≤ m.high then some { count := m.count - 1 } else none

/-- The place of the first byte at which bytes cease to stand for text, given what is missing
before them. -/
def brokenAt? (m : Missing) : List UInt8 → Option Nat
  | [] => none
  | b :: rest =>
    match if m.count = 0 then Missing.ofFirst? b else m.after? b with
    | some m => (brokenAt? m rest).map (· + 1)
    | none => some 0

/-- A part of bytes: the bytes of a character, or a run of bytes that make up none. -/
inductive Piece where
  | whole (bytes : List UInt8)
  | broken (bytes : List UInt8)

/-- The parts of bytes, given the bytes of a character before them, of which the given ones
are missing. -/
def pieces (run : List UInt8) (m : Missing) : List UInt8 → List Piece
  | [] => if run.isEmpty then [] else [.broken run]
  | b :: rest =>
    match if run.isEmpty then none else m.after? b with
    | some m =>
      if m.count = 0 then .whole (run ++ [b]) :: pieces [] { count := 0 } rest
      else pieces (run ++ [b]) m rest
    | none =>
      let cut := if run.isEmpty then [] else [Piece.broken run]
      match Missing.ofFirst? b with
      | none => cut ++ .broken [b] :: pieces [] { count := 0 } rest
      | some m =>
        if m.count = 0 then cut ++ .whole [b] :: pieces [] { count := 0 } rest
        else cut ++ pieces [b] m rest

end Utf8

end Conform.Text
