import Conform.Text.Parts

/-!
# Paths

Absolute paths in normal form: a list of names, none of which is empty, a single dot or a
double dot. A text is read by its parts between slashes. Empty parts and single dots go
away and a double dot takes off the name before it, at the root nothing.

The suffix of a name is what follows its last dot, with the dot, unless the dot is the
first or the last character of the name.
-/

namespace Conform

/-- The names that an absolute path runs through, from the root on. -/
structure Path where
  /-- The names from the root on. -/
  names : List String
  deriving DecidableEq, Repr

namespace Path

/-- Go one part further. The names are kept from the last to the first. -/
def enter (names : List String) (part : String) : List String :=
  if part = "" ∨ part = "." then names
  else if part = ".." then names.tail
  else part :: names

/-- The path that a text names, from the root on. -/
def ofText (text : String) : Path := ⟨((Text.split '/' text).foldl enter []).reverse⟩

/-- The text of a path. -/
def text (p : Path) : String :=
  if p.names.isEmpty then "/" else String.join (p.names.map ("/" ++ ·))

/-- The last name of a path, empty at the root. -/
def name (p : Path) : String := p.names.getLast?.getD ""

/-- The suffix of a name. -/
def suffixOf (name : String) : String :=
  let reversed := name.toList.reverse
  let ending := reversed.takeWhile (· ≠ '.')
  match reversed.dropWhile (· ≠ '.') with
  | '.' :: _ :: _ => if ending.isEmpty then "" else String.ofList ('.' :: ending.reverse)
  | _ => ""

/-- The suffix of the last name of a path. -/
def suffix (p : Path) : String := suffixOf p.name

/-- Going further keeps the names of a path in normal form. -/
theorem enter_normal {names : List String} (part : String)
    (h : ∀ n ∈ names, n ≠ "" ∧ n ≠ "." ∧ n ≠ "..") :
    ∀ n ∈ enter names part, n ≠ "" ∧ n ≠ "." ∧ n ≠ ".." := by
  intro n hn
  unfold enter at hn
  split at hn
  · exact h n hn
  · split at hn
    · exact h n (List.mem_of_mem_tail hn)
    · rcases List.mem_cons.1 hn with rfl | hn
      · grind
      · exact h n hn

end Path

end Conform
