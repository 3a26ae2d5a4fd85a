import Conform.Document.Trouble
import Conform.Value

/-!
# Loaders of Documents

What makes a document of the bytes of a file. A loader may be another library's, and then it is
known by its answers alone: a value, the report that the bytes are no document, or a fault that it
does not report.
-/

namespace Conform.Document

/-- A loader: the document that bytes hold, or why there is none. A document that holds itself is no
value, and a loader is taken not to answer with one. -/
abbrev Loader := List UInt8 → Except Trouble Value

end Conform.Document
