import Conform.Settings
import Conform.Text.Parts

/-!
# Function Paths

Functions are declared by dotted paths: the name of a module, a dot, and the name of a
member of it. The modules that can be imported are data, given by the host program beside
those of this library.

Importing a module imports the modules that its name runs through, one after the other,
and stops at the first that does not load. It is taken to leave the registries and the level of
the validation channel alone: a module that registers validators when it is imported is none of
these.
-/

namespace Conform

/-- What importing a module does. -/
inductive Import where
  | loads (isPackage : Bool) (members : List (String × Value))
  | lacks (reason : String)
  | crashes (message : String)

/-- The modules that can be imported, by name. Importing one is taken to leave the registries and
the level of the validation channel as they are. -/
abbrev Modules := List (String × Import)

namespace Modules

/-- Why a module cannot be imported. -/
inductive Problem where
  | notFound (reason : String)
  | crashed (message : String)
  | fault (f : Fault)

/-- The reason given for a module that does not exist, below the given parent. -/
def missingReason (name : String) (parent : Option (String × Bool)) : String :=
  let start := "No module named " ++ Text.quoted name
  match parent with
  | some (parent, false) => start ++ "; " ++ Text.quoted parent ++ " is not a package"
  | _ => start

/-- Import the modules that a name runs through, below a parent that is loaded already. -/
def importParts (modules : Modules) :
    Option (String × Bool) → List (String × Value) → List String →
      Except Problem (List (String × Value))
  | _, members, [] => .ok members
  | parent, _, part :: rest =>
    let name := match parent with
      | some (parent, _) => parent ++ "." ++ part
      | none => part
    match modules.lookup name with
    | none => .error (.notFound (missingReason name parent))
    | some (.lacks reason) => .error (.notFound reason)
    | some (.crashes message) => .error (.crashed message)
    | some (.loads isPackage members) => importParts modules (some (name, isPackage)) members rest

/-- The members of the module with the given name. A module needs a name, and the name must
not start with a dot. -/
def importModule (modules : Modules) (name : String) : Except Problem (List (String × Value)) :=
  if name.isEmpty then .error (.fault .badValue)
  else if name.toList.head? = some '.' then .error (.fault .typeMismatch)
  else importParts modules none [] (Text.split '.' name)

end Modules

/-- A dotted path as the module before its last dot and the member after it; nothing for a
path without a dot. -/
def splitPath? (path : String) : Option (String × String) :=
  let reversed := path.toList.reverse
  let member := reversed.takeWhile (· ≠ '.')
  match reversed.dropWhile (· ≠ '.') with
  | [] => none
  | _ :: module => some (String.ofList module.reverse, String.ofList member.reverse)

namespace Act

/-- The member that a path names, which must be callable. -/
def loadMember (modules : Modules) (path module member : String) : Except Failure Value :=
  match modules.importModule module with
  | .error (.notFound reason) => .error (.configuration (.importFailed path reason))
  | .error (.crashed message) => .error (.host message)
  | .error (.fault f) => .error (.fault f)
  | .ok members =>
    match members.lookup member with
    | none | some .null => .error (.configuration (.memberMissing member module path))
    | some function =>
      if function.isCallable then .ok function
      else .error (.configuration (.notCallable path))

/-- Whether a value that is not a text holds a dot among its items; a value without items
cannot be asked. -/
def holdsDot (s : Session) : Value → Except Failure Bool
  | .tuple _ items | .list _ items | .set _ items => .ok (items.any (·.alike (.text ".")))
  | .mapping _ entries => .ok (Entries.has entries (.text "."))
  | .registry id _ => .ok ((s.registryAt id).contains (.text "."))
  | _ => .error (.fault .typeMismatch)

/-- The callable that a path names. A path without a dot is malformed; one that holds a dot
and is not a text cannot be split. -/
def loadFunction (modules : Modules) (path : Value) : Act Value := do
  match path with
  | .text s =>
    match splitPath? s with
    | some (module, member) => ofExcept (loadMember modules s module member)
    | none => fail (.configuration (.malformedPath path s))
  | _ =>
    if ← ofExcept (holdsDot (← get) path) then fault .noAttribute
    else fail (.configuration (.malformedPath path (← message path)))

end Act

end Conform
