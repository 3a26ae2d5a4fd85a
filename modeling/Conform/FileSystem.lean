import Conform.Fault
import Conform.Path

/-!
# File Systems

What is asked of a file system when a file is read: the path that a text names once all links
are followed, whether there is something at a path, and what opening the file there gives. The
first two questions may come to a fault of their own.

A file system is given as its answers, and nothing is taken for granted of them.
-/

namespace Conform

/-- What opening a file gives: it cannot be opened, it can be opened and not be read, or its
bytes. -/
inductive FileContent where
  | refused
  | unreadable
  | bytes (content : List UInt8)
  deriving DecidableEq, Repr

/-- A file system, by what it answers. -/
structure FileSystem where
  /-- The path that a text names, with all links followed. -/
  resolve : String → Except Fault Path
  /-- Whether there is something at a path. -/
  isThere : Path → Except Fault Bool
  /-- What opening the file at a path gives. -/
  contentAt : Path → FileContent

end Conform
