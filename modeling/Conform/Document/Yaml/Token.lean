import Conform.Document.Yaml.Loading
import Conform.Document.Yaml.Scalar

/-!
# Tokens

The parts that the text of a document falls into: directives, document markers, the starts
and ends of collections, indicators, properties and scalars.

Block collections have no brackets of their own: their starts and ends follow from
indentation. Whether a scalar is a key of a mapping is known only at the colon after it, so
the places where a key could start are remembered, one for each depth of flow collections,
and the token for the key is put in there once the colon is found.
-/

namespace Conform.Document.Yaml

/-- A part of the text of a document. -/
inductive Token where
  | version (major : Nat)
  | tagHandle (handle start : String)
  | otherDirective
  | documentStart
  | documentEnd
  | streamEnd
  | blockSequenceStart
  | blockMappingStart
  | blockEnd
  | flowSequenceStart
  | flowSequenceEnd
  | flowMappingStart
  | flowMappingEnd
  | blockEntry
  | flowEntry
  | key
  | value
  | alias (name : String)
  | anchor (name : String)
  | tag (handle : Option String) (suffix : String)
  | scalar (text : String) (plain : Bool)
  deriving DecidableEq, Repr

/-- A place where a key could start. -/
structure PendingKey where
  /-- The depth of flow collections there. -/
  depth : Nat
  /-- How many tokens come before. -/
  tokens : Nat
  /-- Whether nothing but a key can stand there. -/
  required : Bool
  /-- The place in the text. -/
  place : Cursor

/-- The state of cutting a text into tokens. -/
structure Lexer where
  /-- The place in the text. -/
  cursor : Cursor
  /-- The tokens found so far. -/
  tokens : Array Token := #[]
  /-- The depth of flow collections. -/
  depth : Nat := 0
  /-- The columns of the open block collections, innermost first. -/
  indents : List Nat := []
  /-- Whether a key may start at the next token. -/
  keyAllowed : Bool := true
  /-- The places where a key could have started. -/
  pending : List PendingKey := []
  /-- Whether the text is all of the document. -/
  complete : Bool := true

namespace Lexer

/-- The column of the innermost open block collection; below zero outside of all. -/
def indent (s : Lexer) : Int := s.indents.head?.elim (-1) fun n => (n : Int)

/-- Add a token. -/
def push (s : Lexer) (t : Token) : Lexer := { s with tokens := s.tokens.push t }

/-- Add a token that the next characters make up. -/
def take (s : Lexer) (count : Nat) (t : Token) : Lexer :=
  { s.push t with cursor := s.cursor.skip count }

/-- Forget the place where a key could have started at this depth; it must have been one if
nothing else can stand there. -/
def dropPending (s : Lexer) : Except Trouble Lexer :=
  if s.pending.any fun k => k.depth == s.depth && k.required then .error .malformed
  else .ok { s with pending := s.pending.filter fun k => k.depth ≠ s.depth }

/-- Remember that a key could start here. -/
def markPending (s : Lexer) : Except Trouble Lexer :=
  if s.keyAllowed then do
    let required := s.depth == 0 && s.indent == s.cursor.column
    let s ← s.dropPending
    let k : PendingKey :=
      { depth := s.depth, tokens := s.tokens.size, required, place := s.cursor }
    return { s with pending := k :: s.pending }
  else .ok s

/-- Whether a place is too far back for the key there to end here: a key stays within its
line and is at most 1024 characters long. -/
def isStale (s : Lexer) (k : PendingKey) : Bool :=
  k.place.line ≠ s.cursor.line || 1024 < s.cursor.index - k.place.index

/-- Forget the places that are too far back. -/
def dropStale (s : Lexer) : Except Trouble Lexer :=
  if s.pending.any fun k => s.isStale k && k.required then .error .malformed
  else .ok { s with pending := s.pending.filter fun k => !s.isStale k }

/-- Close the block collections that are further in than a column. -/
def closeBelow (s : Lexer) (column : Int) : Lexer :=
  if s.depth ≠ 0 then s
  else
    let closed := s.indents.takeWhile fun (n : Nat) => column < (n : Int)
    { s with
      tokens := closed.foldl (fun tokens _ => tokens.push .blockEnd) s.tokens
      indents := s.indents.drop closed.length }

/-- Whether a block collection at a column would be further in than the innermost one. -/
def opensAt (s : Lexer) (column : Nat) : Bool := s.indent < (column : Int)

/-- Open a block collection here if it is further in. -/
def openHere (s : Lexer) (start : Token) : Lexer :=
  if s.opensAt s.cursor.column then
    { s.push start with indents := s.cursor.column :: s.indents }
  else s

/-- The place of the next token, and whether a key may start there. Comments and line breaks
are passed over; outside of flow collections a new line lets a key start. -/
def nextPlace (inFlow : Bool) : Nat → Bool → Cursor → Bool × Cursor
  | 0, keyAllowed, c => (keyAllowed, c)
  | fuel + 1, keyAllowed, c =>
    let c := c.skipSpaces
    let c := if c.nextIs (· = '#') then c.lineEnd else c
    match c.lineBreak with
    | ([], _) => (keyAllowed, c)
    | (_, after) => nextPlace inFlow fuel (keyAllowed || !inFlow) after

/-- Go to the place of the next token. A byte order mark may start the text. -/
def toNextPlace (s : Lexer) : Lexer :=
  let c := s.cursor
  let c := if c.index = 0 ∧ c.peek.map Char.toNat = some 0xFEFF then c.next else c
  let (keyAllowed, cursor) := nextPlace (s.depth != 0) c.bound s.keyAllowed c
  { s with keyAllowed, cursor }

/-! ## Directives -/

/-- Whether a character may be part of a name. -/
def isNameChar (c : Char) : Bool := c.isAlphanum || c = '-' || c = '_'

/-- A number in a version, and the place after it. -/
def versionNumber (c : Cursor) : Except Trouble (Nat × Cursor) :=
  let digits := c.run Char.isDigit
  if digits.isEmpty then .error .malformed
  else .ok (digits.foldl (fun n d => n * 10 + (d.toNat - '0'.toNat)) 0, c.skip digits.length)

/-- The handle of a tag, from one exclamation mark to the next, and the place after it. A
handle in a directive may be a single mark. -/
def handle (c : Cursor) : Except Trouble (String × Cursor) :=
  if !c.nextIs (· = '!') then .error .malformed
  else if c.second == some ' ' then .ok ("!", c.next)
  else
    let name := c.next.run isNameChar
    let after := c.next.skip name.length
    if after.nextIs (· = '!') then .ok (String.ofList ('!' :: name ++ ['!']), after.next)
    else .error .malformed

/-- Whether a character may be part of a resource identifier. -/
def isUriChar (c : Char) : Bool := c.isAlphanum || "-;/?:@&=+$,_.!~*'()[]%".toList.contains c

/-- The bytes that percent signs with two hexadecimal digits stand for. -/
def percentBytes : Nat → Cursor → Except Trouble (List UInt8 × Cursor)
  | 0, c => .ok ([], c)
  | fuel + 1, c =>
    match c.rest with
    | '%' :: a :: b :: _ =>
      match Text.hexDigit? a, Text.hexDigit? b with
      | some x, some y => do
        let (others, c) ← percentBytes fuel (c.skip 3)
        return ((x * 16 + y).toUInt8 :: others, c)
      | _, _ => .error .malformed
    | '%' :: _ => .error .malformed
    | _ => .ok ([], c)

/-- The characters of a resource identifier, with escaped ones decoded. -/
def uriChars : Nat → Cursor → Except Trouble (List Char × Cursor)
  | 0, c => .ok ([], c)
  | fuel + 1, c => do
    if c.nextIs (· = '%') then
      let (bytes, c) ← percentBytes c.bound c
      match String.fromUTF8? ⟨bytes.toArray⟩ with
      | none => .error .malformed
      | some s =>
        let (others, c) ← uriChars fuel c
        return (s.toList ++ others, c)
    else if c.nextIs isUriChar then
      let (others, after) ← uriChars fuel c.next
      return (c.rest.take 1 ++ others, after)
    else return ([], c)

/-- A resource identifier, which has at least one character, and the place after it. -/
def uri (c : Cursor) : Except Trouble (String × Cursor) := do
  let (chars, after) ← uriChars c.bound c
  if after.index = c.index then .error .malformed else return (String.ofList chars, after)

/-- The rest of the line of a directive, which may hold a comment. -/
def directiveEnd (c : Cursor) : Except Trouble Cursor :=
  let c := c.skipSpaces
  let c := if c.nextIs (· = '#') then c.lineEnd else c
  if endsLine c.peek then .ok c.lineBreak.2 else .error .malformed

/-- The token of a directive named by what follows the percent sign. -/
def directive (c : Cursor) : Except Trouble (Token × Cursor) := do
  let name := c.run isNameChar
  let c := c.skip name.length
  if name.isEmpty || !endsToken c.peek then .error .malformed
  else if name = "YAML".toList then
    let (major, c) ← versionNumber c.skipSpaces
    if !c.nextIs (· = '.') then .error .malformed
    else
      let (_, c) ← versionNumber c.next
      if endsToken c.peek then return (.version major, c) else .error .malformed
  else if name = "TAG".toList then
    let (handle, c) ← handle c.skipSpaces
    if !c.nextIs (· = ' ') then .error .malformed
    else
      let (start, c) ← uri c.skipSpaces
      if endsToken c.peek then return (.tagHandle handle start, c) else .error .malformed
  else return (.otherDirective, c.lineEnd)

/-- Read a directive. -/
def readDirective (s : Lexer) : Except Trouble Lexer := do
  let s ← (s.closeBelow (-1)).dropPending
  let (token, c) ← directive s.cursor.next
  return { s.push token with cursor := ← directiveEnd c, keyAllowed := false }

/-- Read a document marker. -/
def readMarker (s : Lexer) (token : Token) : Except Trouble Lexer := do
  let s ← (s.closeBelow (-1)).dropPending
  return { s.take 3 token with keyAllowed := false }

/-- Read the end of the text. -/
def readEnd (s : Lexer) : Except Trouble Lexer := do
  let s ← (s.closeBelow (-1)).dropPending
  return s.push .streamEnd

/-! ## Collections -/

/-- Read the start of a flow collection. -/
def readFlowStart (s : Lexer) (token : Token) : Except Trouble Lexer := do
  let s ← s.markPending
  return { s.take 1 token with depth := s.depth + 1, keyAllowed := true }

/-- Read the end of a flow collection; there must be one to end. -/
def readFlowEnd (s : Lexer) (token : Token) : Except Trouble Lexer := do
  let s ← s.dropPending
  if s.depth = 0 then .error .malformed
  else return { s.take 1 token with depth := s.depth - 1, keyAllowed := false }

/-- Read a comma between the parts of a flow collection. -/
def readFlowEntry (s : Lexer) : Except Trouble Lexer := do
  let s ← s.dropPending
  return { s.take 1 .flowEntry with keyAllowed := true }

/-- Read the dash of an entry of a block sequence. -/
def readBlockEntry (s : Lexer) : Except Trouble Lexer := do
  if s.depth = 0 ∧ !s.keyAllowed then .error .malformed
  else
    let s := if s.depth = 0 then s.openHere .blockSequenceStart else s
    let s ← s.dropPending
    return { s.take 1 .blockEntry with keyAllowed := true }

/-- Read the question mark of a key. -/
def readKey (s : Lexer) : Except Trouble Lexer := do
  if s.depth = 0 ∧ !s.keyAllowed then .error .malformed
  else
    let s := if s.depth = 0 then s.openHere .blockMappingStart else s
    let s ← s.dropPending
    return { s.take 1 .key with keyAllowed := s.depth == 0 }

/-- Put the token of a key in where the key started, and the start of a block mapping before
it where the key opens one. -/
def insertKey (s : Lexer) (k : PendingKey) : Lexer :=
  let s := { s with tokens := s.tokens.insertIdxIfInBounds k.tokens .key }
  if s.depth = 0 ∧ s.opensAt k.place.column then
    -- It is put in at the place of the key, and so comes to stand before it.
    { s with
      tokens := s.tokens.insertIdxIfInBounds k.tokens .blockMappingStart
      indents := k.place.column :: s.indents }
  else s

/-- Read the colon before a value. -/
def readValue (s : Lexer) : Except Trouble Lexer := do
  match s.pending.find? fun k => k.depth == s.depth with
  | some k =>
    -- What was read as a scalar since then is a key after all.
    let s := s.insertKey k
    let pending := s.pending.filter fun k => k.depth ≠ s.depth
    return { s.take 1 .value with pending, keyAllowed := false }
  | none =>
    if s.depth = 0 ∧ !s.keyAllowed then .error .malformed
    else
      let s := if s.depth = 0 then s.openHere .blockMappingStart else s
      let s ← s.dropPending
      return { s.take 1 .value with keyAllowed := s.depth == 0 }

/-! ## Properties and scalars -/

/-- Read the name after an ampersand or an asterisk. -/
def readName (s : Lexer) (token : String → Token) : Except Trouble Lexer := do
  let s ← s.markPending
  let c := s.cursor.next
  let name := c.run isNameChar
  let after := c.skip name.length
  if name.isEmpty || !(endsWord after.peek || after.nextIs ("?:,]\x7d%@`".toList.contains ·)) then
    .error .malformed
  else return { s.push (token (String.ofList name)) with cursor := after, keyAllowed := false }

/-- The token of a tag, and the place after it: a whole identifier between angle brackets, a
lone exclamation mark, or a handle and what follows it. -/
def tagToken (c : Cursor) : Except Trouble (Token × Cursor) := do
  if c.second == some '<' then
    let (suffix, c) ← uri (c.skip 2)
    if c.nextIs (· = '>') then return (.tag none suffix, c.next) else .error .malformed
  else if endsWord c.second then return (.tag none "!", c.next)
  else if (c.next.run fun ch => !endsToken (some ch)).contains '!' then
    let (handle, c) ← handle c
    let (suffix, c) ← uri c
    return (.tag (some handle) suffix, c)
  else
    let (suffix, c) ← uri c.next
    return (.tag (some "!") suffix, c)

/-- Read a tag. -/
def readTag (s : Lexer) : Except Trouble Lexer := do
  let s ← s.markPending
  let (token, c) ← tagToken s.cursor
  if endsToken c.peek then return { s.push token with cursor := c, keyAllowed := false }
  else .error .malformed

/-- Read a block scalar. -/
def readBlockScalar (s : Lexer) (folded : Bool) : Except Trouble Lexer := do
  let s ← s.dropPending
  let (text, c) ← Block.scan folded s.indent s.cursor.next
  let token := Token.scalar (String.ofList text) false
  return { s.push token with cursor := c, keyAllowed := true }

/-- Read a quoted scalar. -/
def readQuoted (s : Lexer) (quote : Char) : Except Trouble Lexer := do
  let s ← s.markPending
  let (text, c) ← Quoted.scan quote s.cursor.bound [] s.cursor.next
  let token := Token.scalar (String.ofList text) false
  return { s.push token with cursor := c, keyAllowed := false }

/-- Read a plain scalar. -/
def readPlain (s : Lexer) : Except Trouble Lexer := do
  let s ← s.markPending
  let (text, c, crossed) :=
    Plain.scan (s.depth != 0) (s.indent + 1) s.cursor.bound [] [] false s.cursor
  let token := Token.scalar (String.ofList text) true
  return { s.push token with cursor := c, keyAllowed := crossed }

/-- Whether a plain scalar can start here: not with an indicator, though a dash may start one
when no white space follows it, and outside of flow collections so may a question mark and a
colon. -/
def startsPlain (s : Lexer) : Bool :=
  match s.cursor.peek with
  | none => false
  | some c =>
    !(endsWord (some c) || "-?:,[]\x7b\x7d#&*!|>'\"%@`".toList.contains c) ||
      (!endsWord s.cursor.second && (c = '-' || (s.depth == 0 && (c = '?' || c = ':'))))

/-- Whether an indicator stands here that white space or the end must follow, which inside
flow collections it need not. -/
def isIndicator (s : Lexer) (c : Char) (freeInFlow : Bool) : Bool :=
  s.cursor.nextIs (· = c) && ((freeInFlow && s.depth != 0) || endsWord s.cursor.second)

/-- Read the next token at the place it starts. -/
def readToken (s : Lexer) : Except Trouble Lexer :=
  match s.cursor.peek with
  | none => s.readEnd
  | some c =>
    let lineStart := s.cursor.column == 0
    if c = '%' ∧ lineStart then s.readDirective
    else if lineStart ∧ atMarker s.cursor.rest then
      s.readMarker (if c = '-' then .documentStart else .documentEnd)
    else if c = '[' then s.readFlowStart .flowSequenceStart
    else if c = '\x7b' then s.readFlowStart .flowMappingStart
    else if c = ']' then s.readFlowEnd .flowSequenceEnd
    else if c = '\x7d' then s.readFlowEnd .flowMappingEnd
    else if c = ',' then s.readFlowEntry
    else if s.isIndicator '-' false then s.readBlockEntry
    else if s.isIndicator '?' true then s.readKey
    else if s.isIndicator ':' true then s.readValue
    else if c = '*' then s.readName .alias
    else if c = '&' then s.readName .anchor
    else if c = '!' then s.readTag
    else if c = '|' ∧ s.depth = 0 then s.readBlockScalar false
    else if c = '>' ∧ s.depth = 0 then s.readBlockScalar true
    else if c = '\'' ∨ c = '"' then s.readQuoted c
    else if s.startsPlain then s.readPlain
    else .error .malformed

/-- Go to the next token and read it. No token can be told that touches the end of a text
which is not all of the document. -/
def step (s : Lexer) : Except Trouble Lexer := do
  let s ← s.toNextPlace.dropStale
  let s ← (s.closeBelow s.cursor.column).readToken
  if !s.complete ∧ s.cursor.rest.isEmpty then .error .malformed else return s

/-- Read tokens up to the end of the text or to the trouble that stops it. -/
def readAll : Nat → Lexer → Lexer × Trouble
  | 0, s => (s, .malformed)
  | fuel + 1, s =>
    if s.tokens.back? = some .streamEnd then (s, .malformed)
    else
      match s.step with
      | .ok next => readAll fuel next
      | .error trouble => (s, trouble)

/-- How many of the tokens are settled, so that no key can be put in before them any more. -/
def settled (s : Lexer) : Nat :=
  if s.tokens.back? = some .streamEnd then s.tokens.size
  else
    (s.pending.filter fun k => !s.isStale k).foldl (fun count k => min count k.tokens)
      s.tokens.size

end Lexer

namespace Token

/-- The tokens of a document as far as they can be told, and the trouble that whoever reads
on after them meets. Every step but the last reads at least one character, which bounds their
number. -/
def ofLoaded (document : Loaded) : List Token × Trouble :=
  let (s, trouble) := Lexer.readAll (document.text.length + 2)
    { cursor := { rest := document.text }, complete := document.complete }
  (s.tokens.toList.take s.settled, trouble)

end Token

end Conform.Document.Yaml
