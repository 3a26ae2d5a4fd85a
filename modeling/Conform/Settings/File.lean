import Conform.Document.Encoding
import Conform.Document.Json
import Conform.Document.Loader
import Conform.FileSystem
import Conform.Settings
import Conform.Text.Casing

/-!
# Settings Files

Settings read from a file. The suffix of its name, in any case, tells the format of the
document in it. The file must be there and be opened before its format is looked at, and
the format must be known before its bytes are.

Where the file lies is asked of a file system. JSON documents are read here; the loader of YAML
documents is given, and so may be any.

A document that counts as false stands for no settings at all, as that of an empty file
does.
-/

namespace Conform

/-- The formats of settings files. -/
inductive FileFormat where
  | yaml
  | json
  deriving DecidableEq, Repr

namespace FileFormat

/-- The format that a suffix in lower case stands for. -/
def ofSuffix? : String → Option FileFormat
  | ".yaml" | ".yml" => some .yaml
  | ".json" => some .json
  | _ => none

/-- The document that bytes hold, with the given loader of YAML documents. -/
def read (format : FileFormat) (loader : Document.Loader) (content : List UInt8) :
    Except Document.Trouble Value :=
  match format with
  | .json => do Document.Json.read (← Document.Trouble.required (Document.textOf? content))
  | .yaml => loader content

end FileFormat

namespace Settings

/-- The document in a file with the given bytes. A malformed one makes the file unreadable; a
part of it that has no value is a fault. -/
def documentIn (loader : Document.Loader) (path : Path) (format : FileFormat)
    (content : List UInt8) : Except Failure Value :=
  (format.read loader content).mapError fun
    | .malformed => .configuration (.unreadableFile path.text)
    | .fault f => .fault f

/-- The document in the file at a path where there is something. What cannot be opened is
unreadable, whatever its format. -/
def fileDocument (files : FileSystem) (loader : Document.Loader) (path : Path) :
    Except Failure Value :=
  let suffix := Text.lower path.suffix
  match files.contentAt path, FileFormat.ofSuffix? suffix with
  | .refused, _ => .error (.configuration (.unreadableFile path.text))
  | _, none => .error (.configuration (.unsupportedFormat suffix path.text))
  | .unreadable, some _ => .error (.configuration (.unreadableFile path.text))
  | .bytes content, some format => documentIn loader path format content

/-- The document in the file that a text names. That the text cannot be resolved, or that the file
system cannot say whether there is something, is a fault. -/
def documentAt (files : FileSystem) (loader : Document.Loader) (path : String) :
    Except Failure Value := do
  let path ← (files.resolve path).mapError .fault
  if ← (files.isThere path).mapError .fault then fileDocument files loader path
  else .error (.configuration (.missingFile path.text))

/-- Settings read from a document of a file; one that counts as false stands for an empty
mapping. -/
def loadDocument (document : Value) : Act Value := do
  if ← Act.truth document then load document else load (.mapping none [])

/-- Settings read from the file that a text names. -/
def loadFile (files : FileSystem) (loader : Document.Loader) (path : String) : Act Value := do
  loadDocument (← Act.ofExcept (documentAt files loader path))

end Settings

end Conform
