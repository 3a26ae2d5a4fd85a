import Conform.Fault

/-!
# Trouble With Documents

Why a document cannot be read: its text is malformed, or a part of it has no value. The
first is for the reader of the document to report, the second is a fault of its own.
-/

namespace Conform.Document

/-- Why a document cannot be read. -/
inductive Trouble where
  | malformed
  | fault (f : Fault)
  deriving DecidableEq, Repr

/-- What was found, where finding nothing means that the document is malformed. -/
def Trouble.required {α : Type} (found : Option α) : Except Trouble α :=
  match found with
  | some x => .ok x
  | none => .error .malformed

end Conform.Document
