import Conform.Document.Yaml.Cursor
import Conform.Text.Digit

/-!
# Texts of Scalars

The text that a scalar stands for in its three notations: plain, where a line break
between words is a space; quoted, where escapes and doubled quotes are undone; and block,
where whole lines are taken below an indentation.
-/

namespace Conform.Document.Yaml

/-- What a line break inside a folded text leaves: a space for a single one, and otherwise
the breaks after the first, which is kept when it is not a line feed. -/
def foldBreaks (first later : List Char) : List Char :=
  if first = ['\n'] then (if later.isEmpty then [' '] else later) else first ++ later

namespace Plain

/-- How many characters of a plain scalar come before the next white space or indicator that
ends it. -/
def wordLength (inFlow : Bool) : List Char → Nat
  | [] => 0
  | c :: rest =>
    if endsWord (some c) then 0
    else if c = ':' && (endsWord rest.head? || (inFlow && rest.head?.any (",[]\x7b\x7d".toList.contains ·)))
    then 0
    else if inFlow && ",?[]\x7b\x7d".toList.contains c then 0
    else wordLength inFlow rest + 1

/-- The line breaks from here on, with spaces between them passed over; none once a document
marker starts a line. -/
def breaks : Nat → Cursor → Option (List Char) × Cursor
  | 0, c => (some [], c)
  | fuel + 1, c =>
    if atMarker c.rest then (none, c)
    else
      let c := c.skipSpaces
      match c.lineBreak with
      | ([], _) => (some [], c)
      | (first, after) =>
        let (later, c) := breaks fuel after
        (later.map (first ++ ·), c)

/-- What stands between two words of a plain scalar: the text it leaves, nothing if the
scalar ends here, the place after it, and whether it crosses lines. -/
def gap (c : Cursor) : List Char × Cursor × Bool :=
  let spaces := c.run (· = ' ')
  let c := c.skipSpaces
  match c.lineBreak with
  | ([], _) => (spaces, c, false)
  | (first, after) =>
    match breaks after.bound after with
    | (none, c) => ([], c, true)
    | (some later, c) => (foldBreaks first later, c, true)

/-- The text of a plain scalar from here on, the place after it, and whether the last gap
crossed lines. The words found so far and the gap after them are given. -/
def scan (inFlow : Bool) (indent : Int) : Nat → List Char → List Char → Bool → Cursor →
    List Char × Cursor × Bool
  | 0, text, _, crossed, c => (text, c, crossed)
  | fuel + 1, text, before, crossed, c =>
    let length := wordLength inFlow c.rest
    if c.nextIs (· = '#') || length == 0 then (text, c, crossed)
    else
      let text := text ++ before ++ c.rest.take length
      let (between, c, crossed) := gap (c.skip length)
      if between.isEmpty || c.nextIs (· = '#') || (!inFlow && (c.column : Int) < indent) then
        (text, c, crossed)
      else scan inFlow indent fuel text between crossed c

end Plain

namespace Quoted

/-- The characters that a letter after a backslash stands for. -/
def escapes : List (Char × Nat) :=
  [('0', 0x0), ('a', 0x7), ('b', 0x8), ('t', 0x9), ('\t', 0x9), ('n', 0xA), ('v', 0xB),
    ('f', 0xC), ('r', 0xD), ('e', 0x1B), (' ', 0x20), ('"', 0x22), ('\\', 0x5C), ('/', 0x2F),
    ('N', 0x85), ('_', 0xA0), ('L', 0x2028), ('P', 0x2029)]

/-- How many hexadecimal digits follow a letter after a backslash. -/
def codeLengths : List (Char × Nat) := [('x', 2), ('u', 4), ('U', 8)]

/-- The character of a code point. Past the last code point there is none. -/
def codeChar (code : Nat) : Except Trouble Char :=
  if 0x7FFFFFFF < code then .error (.fault .overflow)
  else if 0x10FFFF < code then .error (.fault .badValue)
  else if 0xD800 ≤ code ∧ code < 0xE000 then .ok (Char.ofNat 0xFFFD)
  else .ok (Char.ofNat code)

/-- The line breaks from here on, with white space between them passed over. A document
marker must not start a line. -/
def breaks : Nat → Cursor → Except Trouble (List Char × Cursor)
  | 0, c => .ok ([], c)
  | fuel + 1, c =>
    if atMarker c.rest then .error .malformed
    else
      let c := c.skipWhile fun ch => ch = ' ' || ch = '\t'
      match c.lineBreak with
      | ([], _) => .ok ([], c)
      | (first, after) => do
        let (later, c) ← breaks fuel after
        return (first ++ later, c)

/-- What a backslash and the characters after it leave, from the character after the
backslash on. -/
def escape (c : Cursor) : Except Trouble (List Char × Cursor) :=
  match c.peek with
  | none => .error .malformed
  | some letter =>
    match escapes.lookup letter, codeLengths.lookup letter with
    | some code, _ => .ok ([Char.ofNat code], c.next)
    | none, some length =>
      match ((c.next.rest.take length).mapM Text.hexDigit?) with
      | some digits =>
        if digits.length = length then do
          let ch ← codeChar (digits.foldl (fun value digit => value * 16 + digit) 0)
          return ([ch], c.next.skip length)
        else .error .malformed
      | none => .error .malformed
    | none, none =>
      match c.lineBreak with
      | ([], _) => .error .malformed
      | (_, after) => breaks after.bound after

/-- What white space inside quotes leaves: itself within a line, and folded line breaks
otherwise. The text must not end here. -/
def gap (c : Cursor) : Except Trouble (List Char × Cursor) := do
  let spaces := c.run fun ch => ch = ' ' || ch = '\t'
  let c := c.skip spaces.length
  match c.peek, c.lineBreak with
  | none, _ => .error .malformed
  | some _, ([], _) => .ok (spaces, c)
  | some _, (first, after) => do
    let (later, c) ← breaks after.bound after
    return (foldBreaks first later, c)

/-- Whether a character inside quotes stands for itself wherever it comes. -/
def isOrdinary (quote c : Char) : Bool :=
  c ≠ quote && !(quote = '"' && c = '\\') && !endsWord (some c)

/-- The text of a quoted scalar after its opening quote, and the place after the closing
one. The text found so far is given. -/
def scan (quote : Char) : Nat → List Char → Cursor → Except Trouble (List Char × Cursor)
  | 0, _, _ => .error .malformed
  | fuel + 1, text, c =>
    match c.peek with
    | none => .error .malformed
    | some ch =>
      if ch = quote then
        if quote = '\'' && c.second == some '\'' then scan quote fuel (text ++ [ch]) (c.skip 2)
        else .ok (text, c.next)
      else if isOrdinary quote ch then
        let run := c.run (isOrdinary quote)
        scan quote fuel (text ++ run) (c.skip run.length)
      else if ch = '\\' then do
        let (piece, c) ← escape c.next
        scan quote fuel (text ++ piece) c
      else do
        let (piece, c) ← gap c
        scan quote fuel (text ++ piece) c

end Quoted

namespace Block

/-- The header of a block scalar: what happens to line breaks at the end, by a sign, and how
far the lines are indented, by a digit other than zero; either may come first. -/
structure Header where
  /-- Whether line breaks at the end are all kept, or all dropped; one is kept otherwise. -/
  keep : Option Bool
  /-- The indentation below that of the surroundings, if it is given. -/
  indent : Option Nat

/-- The sign that says what happens to line breaks at the end. -/
def sign? (c : Cursor) : Option Bool :=
  match c.peek with
  | some '+' => some true
  | some '-' => some false
  | _ => none

/-- The digit that gives the indentation. -/
def digit? (c : Cursor) : Option Nat :=
  c.peek.bind fun ch => if ch.isDigit then some (ch.toNat - '0'.toNat) else none

/-- The place after what was found, if anything was. -/
def after {α : Type} (found : Option α) (c : Cursor) : Cursor :=
  if found.isSome then c.next else c

/-- The header of a block scalar and the place after it. -/
def header (c : Cursor) : Except Trouble (Header × Cursor) :=
  let early := sign? c
  let c := after early c
  let indent := digit? c
  let c := after indent c
  let late := if early.isNone ∧ indent.isSome then sign? c else none
  let c := after late c
  if indent = some 0 ∨ !endsToken c.peek then .error .malformed
  else .ok ({ keep := early.or late, indent }, c)

/-- The place after the rest of the line of the header, which may hold a comment. -/
def headerEnd (c : Cursor) : Except Trouble Cursor :=
  let c := c.skipSpaces
  let c := if c.nextIs (· = '#') then c.lineEnd else c
  if endsLine c.peek then .ok c.lineBreak.2 else .error .malformed

/-- The empty lines from here on, the column of the widest of them or of the first line that
is not empty, and the place after them. -/
def leading : Nat → Nat → Cursor → List Char × Nat × Cursor
  | 0, widest, c => ([], widest, c)
  | fuel + 1, widest, c =>
    let c := c.skipSpaces
    let widest := max widest c.column
    match c.lineBreak with
    | ([], _) => ([], widest, c)
    | (first, after) =>
      let (later, widest, c) := leading fuel widest after
      (first ++ later, widest, c)

/-- The place after spaces, up to a column. -/
def indented (indent : Nat) (c : Cursor) : Cursor :=
  c.skip ((c.run (· = ' ')).take (indent - c.column)).length

/-- The empty lines from here on, and the place after them and the indentation. -/
def breaks (indent : Nat) : Nat → Cursor → List Char × Cursor
  | 0, c => ([], c)
  | fuel + 1, c =>
    let c := indented indent c
    match c.lineBreak with
    | ([], _) => ([], c)
    | (first, after) =>
      let (later, c) := breaks indent fuel after
      (first ++ later, c)

/-- Whether more of the scalar follows: text at the column of its indentation. -/
def continues (indent : Nat) (c : Cursor) : Bool := c.column == indent && c.peek.isSome

/-- The lines of a block scalar: their text, the break after the last one, the empty lines
after that, and the place after them. -/
def lines (folded : Bool) (indent : Nat) : Nat → List Char → List Char → Cursor →
    List Char × List Char × List Char × Cursor
  | 0, text, before, c => (text, [], before, c)
  | fuel + 1, text, before, c =>
    if !continues indent c then (text, [], before, c)
    else
      let flush := c.nextIs fun ch => ch ≠ ' ' && ch ≠ '\t'
      let text := text ++ before ++ c.run fun ch => !isBreak ch
      let (ending, c) := c.lineEnd.lineBreak
      let (later, c) := breaks indent c.bound c
      if continues indent c then
        let flushNext := c.nextIs fun ch => ch ≠ ' ' && ch ≠ '\t'
        let joint :=
          if folded && ending == ['\n'] && flush && flushNext then
            if later.isEmpty then [' '] else []
          else ending
        lines folded indent fuel (text ++ joint) later c
      else (text, ending, later, c)

/-- The text of a block scalar after its indicator, below the given indentation, and the
place after it. -/
def scan (folded : Bool) (indent : Int) (c : Cursor) : Except Trouble (List Char × Cursor) := do
  let (header, c) ← header c
  let c ← headerEnd c
  let least := max (indent + 1) 1
  let (before, indent, c) :=
    match header.indent with
    | some n =>
      let indent := least.toNat + n - 1
      let (before, c) := breaks indent c.bound c
      (before, indent, c)
    | none =>
      let (before, widest, c) := leading c.bound 0 c
      (before, max least.toNat widest, c)
  let (text, ending, later, c) := lines folded indent c.bound [] before c
  let text := if header.keep = some false then text else text ++ ending
  return (if header.keep = some true then text ++ later else text, c)

end Block

end Conform.Document.Yaml
