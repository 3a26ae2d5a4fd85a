/-!
# Text of Files

Bytes are read as UTF-8, and each line break, whichever of the three customary forms it
has, becomes a line feed.
-/

namespace Conform.Document

/-- Turn carriage returns, alone or before a line feed, into line feeds. -/
def unifyBreaks : List Char → List Char
  | [] => []
  | '\r' :: '\n' :: rest => '\n' :: unifyBreaks rest
  | '\r' :: rest => '\n' :: unifyBreaks rest
  | c :: rest => c :: unifyBreaks rest

/-- The text that bytes stand for; nothing if they are not UTF-8. -/
def textOf? (bytes : List UInt8) : Option (List Char) :=
  (String.fromUTF8? ⟨bytes.toArray⟩).map fun s => unifyBreaks s.toList

end Conform.Document
