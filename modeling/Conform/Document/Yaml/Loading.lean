import Conform.Document.Encoding
import Conform.Text.Utf8

/-!
# Loading

The text of a document is taken in portions of 4096 characters, the first two of them at
once, and its bytes in blocks of 8192. A character that must not stand in a document spoils
its portion, and bytes that stand for no text spoil their block. What comes before can be
read, so that a trouble there is met first; whatever reads on after it fails.
-/

namespace Conform.Document.Yaml

/-- Whether a character may stand in a document: no control characters but tabs and line
breaks. -/
def isAllowed (c : Char) : Bool :=
  let n := c.toNat
  n = 0x9 || n = 0xA || n = 0xD || (0x20 ≤ n && n ≤ 0x7E) || n = 0x85 ||
    (0xA0 ≤ n && n ≤ 0xD7FF) || (0xE000 ≤ n && n ≤ 0xFFFD) || 0x10000 ≤ n

/-- The text of a document as far as it can be taken. -/
structure Loaded where
  /-- What can be read. -/
  text : List Char
  /-- Whether that is all of the document. -/
  complete : Bool

namespace Loaded

/-- How many characters there are in a portion. -/
def portion : Nat := 4096

/-- Where the portion starts that a place lies in. -/
def portionStart (place : Nat) : Nat :=
  if place < 2 * portion then 0 else place / portion * portion

/-- No portion starts after a place that lies in it. -/
theorem portionStart_le (place : Nat) : portionStart place ≤ place := by
  unfold portionStart
  split
  · exact Nat.zero_le _
  · exact Nat.div_mul_le_self _ _

/-- What can be taken of a text, which may be the beginning of a document whose rest cannot
be made out. -/
def ofText (cs : List Char) (complete : Bool) : Loaded :=
  match cs.findIdx? fun c => !isAllowed c with
  | some place => ⟨cs.take (portionStart place), false⟩
  | none => if complete then ⟨cs, true⟩ else ⟨cs.take (portionStart cs.length), false⟩

/-- A complete text of allowed characters is taken as it is. -/
theorem ofText_complete {cs : List Char} (h : ∀ c ∈ cs, isAllowed c) : ofText cs true = ⟨cs, true⟩ := by
  have : cs.findIdx? (fun c => !isAllowed c) = none := by
    rw [List.findIdx?_eq_none_iff]
    intro c hc
    simp [h c hc]
  simp [ofText, this]

/-- How many bytes a block has. -/
def block : Nat := 8192

/-- The text of bytes of which the last ones may be those of an incomplete character. -/
def textBefore (bytes : List UInt8) : List Char :=
  ([0, 1, 2, 3].findSome? fun n => textOf? (bytes.take (bytes.length - n))).getD []

/-- What can be taken of the document that bytes stand for. -/
def ofBytes (bytes : List UInt8) : Loaded :=
  match textOf? bytes with
  | some cs => ofText cs true
  | none =>
    match Text.Utf8.brokenAt? { count := 0 } bytes with
    | some place => ofText (textBefore (bytes.take (place / block * block))) false
    | none => ofText (textBefore bytes) false

end Loaded

end Conform.Document.Yaml
