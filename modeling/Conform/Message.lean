import Conform.Session

/-!
# Messages about Values

The sentence that says what was expected and what was given. A callable is mentioned by
its name; the name of the subject comes first, unless it is empty or absent.
-/

namespace Conform

namespace Message

/-- The sentence about a value, from the texts of its parts. -/
def sentence (before expected given : String) : String :=
  before ++ "Expected " ++ expected ++ ", " ++ given ++ " given."

/-- The name of the subject with a colon after it, nothing for a name that counts as
false. -/
def namePrefix (name : Value) : Act String := do
  if ← Act.truth name then return (← Act.message name) ++ ": "
  else return ""

/-- The sentence about a value that is not what was expected. -/
def rejection (value expected name : Value) : Act String := do
  let before ← namePrefix name
  let expected ← Act.message expected
  let given ← Act.mention value
  return sentence before expected given

end Message

namespace Act

/-- Stop because a value is not what was expected. -/
def reject {α : Type} (value expected name : Value) : Act α := do
  let message ← Message.rejection value expected name
  fail (.rejected { value, expected, name, message })

end Act

end Conform
