import Conform.Document.Trouble

/-!
# Cursors

A place in the text of a document: what is left to read, and how far in the text, in which
line and at which column it starts. Line breaks are the line feed and the separators that
the format counts as such; the end of the text ends a line as well.
-/

namespace Conform.Document.Yaml

/-- Whether a character breaks lines. -/
def isBreak (c : Char) : Bool :=
  c = '\n' || c = '\r' || c.toNat = 0x85 || c.toNat = 0x2028 || c.toNat = 0x2029

/-- Whether a line ends here. -/
def endsLine (next : Option Char) : Bool := next.all isBreak

/-- Whether a space, a line break or the end comes next. -/
def endsToken (next : Option Char) : Bool := next.all fun c => c = ' ' || isBreak c

/-- Whether a space, a tab, a line break or the end comes next. -/
def endsWord (next : Option Char) : Bool := next.all fun c => c = ' ' || c = '\t' || isBreak c

/-- What a line break counts as: the separators of lines and paragraphs stand for
themselves, and every other break is a line feed. -/
def breakChar (c : Char) : Char :=
  if c.toNat = 0x2028 ∨ c.toNat = 0x2029 then c else '\n'

/-- Whether a document marker starts here. -/
def atMarker : List Char → Bool
  | '-' :: '-' :: '-' :: rest => endsWord rest.head?
  | '.' :: '.' :: '.' :: rest => endsWord rest.head?
  | _ => false

/-- A place in a text. -/
structure Cursor where
  /-- What is left to read. -/
  rest : List Char
  /-- How many characters come before. -/
  index : Nat := 0
  /-- How many line breaks come before. -/
  line : Nat := 0
  /-- How many characters of the line come before; a byte order mark does not count. -/
  column : Nat := 0

namespace Cursor

/-- The next character. -/
def peek (c : Cursor) : Option Char := c.rest.head?

/-- The character after the next one. -/
def second (c : Cursor) : Option Char := c.rest[1]?

/-- Whether the next character satisfies a test; none does at the end. -/
def nextIs (c : Cursor) (p : Char → Bool) : Bool := c.peek.any p

/-- The place after the next character. -/
def next (c : Cursor) : Cursor :=
  match c.rest with
  | [] => c
  | ch :: rest =>
    if isBreak ch then { rest, index := c.index + 1, line := c.line + 1, column := 0 }
    else
      { rest, index := c.index + 1, line := c.line,
        column := if ch.toNat = 0xFEFF then c.column else c.column + 1 }

/-- The place after a number of characters. -/
def skip : Nat → Cursor → Cursor
  | 0, c => c
  | n + 1, c => skip n c.next

/-- The characters from here on that satisfy a test. -/
def run (c : Cursor) (p : Char → Bool) : List Char := c.rest.takeWhile p

/-- The place after the characters that satisfy a test. -/
def skipWhile (c : Cursor) (p : Char → Bool) : Cursor := c.skip (c.run p).length

/-- The place at the end of the line. -/
def lineEnd (c : Cursor) : Cursor := c.skipWhile fun ch => !isBreak ch

/-- The place after the spaces from here on. -/
def skipSpaces (c : Cursor) : Cursor := c.skipWhile (· = ' ')

/-- The line break that comes next, if one does, and the place after it. -/
def lineBreak (c : Cursor) : List Char × Cursor :=
  match c.peek with
  | some ch => if isBreak ch then ([breakChar ch], c.next) else ([], c)
  | none => ([], c)

/-- How much there is left to read, and one more: a bound for loops that read on. -/
def bound (c : Cursor) : Nat := c.rest.length + 1

end Cursor

end Conform.Document.Yaml
