/-!
# Faults

What can go wrong apart from the failures that this library reports: a value that is used in
a way that its kind does not allow, and the like. A text of a value fails to come at such a
fault, or with an error of the host program.
-/

namespace Conform

/-- What stops an operation that is no failure of this library: a value used in a way that it
does not allow, arithmetic without a result, text in an unknown or in the wrong encoding,
something too deep or too large to be held, a file system that refuses a path, or links
between files that lead back to themselves. -/
inductive Fault where
  | typeMismatch
  | badValue
  | noAttribute
  | noKey
  | noIndex
  | overflow
  | zeroDivision
  | invalidOperation
  | outOfRange
  | unknownEncoding
  | undecodable
  | unencodable
  | tooDeep
  | tooLarge
  | refusedPath
  | endlessLink
  deriving DecidableEq, Repr

/-- Why a text of a value does not come: an error of the host program, with its message, or a
fault. -/
inductive TextFailure where
  | host (message : String)
  | fault (f : Fault)
  deriving DecidableEq, Repr

end Conform
