import Conform.FileSystem

/-!
# File Trees

What a path leads to, as data: files with their bytes, files that may not be opened,
directories, directories that may not be gone through, and links that lead back to themselves.
Links that lead elsewhere are not kept. The directories above an entry are there with it.

A tree may lie below a place of its own, which takes up some bytes of every path. Paths that
are too long are refused, and so is a name that is too long once the directory is reached in
which it would have to be.

`FileTree.system` is the file system that a tree makes up.
-/

namespace Conform

/-- What a path leads to. -/
inductive FileEntry where
  | file (content : List UInt8)
  | lockedFile
  | directory
  | lockedDirectory
  | endlessLink
  deriving DecidableEq, Repr

/-- What looking a path up gives. -/
inductive PathAnswer where
  | found (e : FileEntry)
  | missing
  | refused
  | endless
  deriving DecidableEq, Repr

/-- The entries of a file tree under their paths. -/
structure FileTree where
  /-- The entries that were put in, the latest first. -/
  entries : List (Path × FileEntry) := []
  /-- How many bytes the place of the tree adds to every path. -/
  placeBytes : Nat := 0

namespace FileTree

/-- The tree with nothing in it. -/
def empty : FileTree := {}

/-- Put an entry in at a path, in place of what is there. -/
def put (t : FileTree) (p : Path) (e : FileEntry) : FileTree :=
  { t with entries := (p, e) :: t.entries }

/-- Whether a path leads to an entry above the given one. -/
def isAbove (p q : Path) : Bool := p.names.isPrefixOf q.names

/-- What a path leads to, if anything. -/
def find? (t : FileTree) (p : Path) : Option FileEntry :=
  match t.entries.lookup p with
  | some e => some e
  | none => if t.entries.any fun (q, _) => isAbove p q then some .directory else none

/-- How many bytes a name may have. -/
def nameLimit : Nat := 255

/-- How many bytes a path may have. -/
def pathLimit : Nat := 4095

/-- Go the remaining names down from the names passed, which lead to the given answer. Only
a directory can be gone through. -/
def walk (t : FileTree) (passed : List String) (here : PathAnswer) : List String → PathAnswer
  | [] => if here = .found .endlessLink then .endless else here
  | name :: rest =>
    match here with
    | .found .directory =>
      let passed := passed ++ [name]
      if nameLimit < name.utf8ByteSize then .refused
      else
        match t.find? ⟨passed⟩ with
        | some e => walk t passed (.found e) rest
        | none => .missing
    | .found (.file _) | .found .lockedFile | .missing => .missing
    | .found .lockedDirectory | .refused => .refused
    | .found .endlessLink | .endless => .endless

/-- What a path leads to when its names are gone through from the root on. -/
def lookUp (t : FileTree) (p : Path) : PathAnswer :=
  if pathLimit < t.placeBytes + p.text.utf8ByteSize then .refused
  else t.walk [] (.found .directory) p.names

/-- The path that a text names. No name of a file holds the null character, and links must not
lead back to themselves. -/
def resolve (t : FileTree) (text : String) : Except Fault Path :=
  if text.toList.contains '\x00' then .error .badValue
  else
    match t.lookUp (Path.ofText text) with
    | .endless => .error .endlessLink
    | _ => .ok (Path.ofText text)

/-- Whether there is something at a path. Asking for one that is refused is a fault. -/
def isThere (t : FileTree) (p : Path) : Except Fault Bool :=
  match t.lookUp p with
  | .found _ => .ok true
  | .missing | .endless => .ok false
  | .refused => .error .refusedPath

/-- What opening the file at a path gives. -/
def contentAt (t : FileTree) (p : Path) : FileContent :=
  match t.lookUp p with
  | .found (.file content) => .bytes content
  | _ => .refused

/-- The file system that a tree makes up. -/
def system (t : FileTree) : FileSystem where
  resolve := t.resolve
  isThere := t.isThere
  contentAt := t.contentAt

@[simp]
theorem find?_empty (p : Path) : empty.find? p = none := rfl

/-- An entry is found where it was put. -/
theorem find?_put (t : FileTree) (p : Path) (e : FileEntry) : (t.put p e).find? p = some e := by
  simp [find?, put]

end FileTree

end Conform
