import Conform.Arithmetic
import Conform.Construction
import Conform.Text.Quoted
import Conform.Value.Sorting

/-!
# Core Functions

The functions that every module can name, as predicates are: applied to one value. They ask
for its size, its order, its characters, its parts or its text, and refuse values of the
wrong kind. A function that needs more than one value refuses to be called with one.
-/

namespace Conform

namespace CoreFunction

/-- The items of a collection. -/
def itemsOf (v : Value) : Act (List Value) := do Act.ofExcept ((← get).items v)

/-- Whether all items of a collection count as true. -/
def all (v : Value) : Act Value := do
  let s ← get
  return .bool ((← itemsOf v).all s.truth)

/-- Whether some item of a collection counts as true. -/
def any (v : Value) : Act Value := do
  let s ← get
  return .bool ((← itemsOf v).any s.truth)

/-- The form of a value inside collections, in ASCII characters. -/
def ascii (v : Value) : Act Value := do
  let text ← Act.inner v
  return .text <| String.ofList <| text.toList.flatMap fun c =>
    if c.toNat < 0x80 then [c] else Text.escapedChar c

/-- The integer that a value must be. -/
def index (v : Value) : Act Int :=
  match v.index? with
  | some n => pure n
  | none => Act.fault .typeMismatch

/-- An integer in a base, after the letter that announces the base. -/
def inBase (base : Nat) (letter : Char) (v : Value) : Act Value := do
  let n ← index v
  let digits := Nat.toDigits base n.natAbs
  return .text (String.ofList ((if n < 0 then ['-'] else []) ++ '0' :: letter :: digits))

/-- The character with a code point. A half of a pair is none by itself and is replaced. -/
def character (v : Value) : Act Value := do
  let n ← index v
  if n < -(Nat.pow 2 31 : Int) ∨ Nat.pow 2 31 ≤ n then Act.fault .overflow
  else if n < 0 ∨ 0x110000 ≤ n then Act.fault .badValue
  else
    let c := if 0xD800 ≤ n ∧ n < 0xE000 then Char.ofNat 0xFFFD else Char.ofNat n.toNat
    return .text (String.singleton c)

/-- The code point of a text or a byte string of one character. -/
def codePoint (v : Value) : Act Value :=
  match v with
  | .text s =>
    match s.toList with
    | [c] => return .int c.toNat
    | _ => Act.fault .typeMismatch
  | .bytes [b] => return .int b.toNat
  | _ => Act.fault .typeMismatch

/-- The hash of a value that can be a key. The empty text and the empty byte string have the
hash zero; what is no number has one of its own. -/
def hash (v : Value) : Act Value :=
  if !v.isHashable then Act.fault .typeMismatch
  else
    match v, v.hash? with
    | .text "", _ | .bytes [], _ => return .int 0
    | _, some n => return .int n
    | _, none => return .int (Nat.pow 2 32 + (← Act.fresh))

/-- The number of items of a collection. -/
def length (v : Value) : Act Value := do
  match (← get).length? v with
  | some n => return .int n
  | none => Act.fault .typeMismatch

/-- The item of a collection that no other one is before in an order; the first of several. -/
def extreme (before : Value → Value → Except Failure Bool) (v : Value) : Act Value := do
  match ← itemsOf v with
  | [] => Act.fault .badValue
  | first :: rest =>
    Act.ofExcept <| rest.foldlM (fun best item => do
      return if ← before item best then item else best) first

/-- The sum of the items of a collection. -/
def sum (v : Value) : Act Value := do
  let items ← itemsOf v
  Act.ofExcept (items.foldlM Value.add? (.int 0))

/-- The items of a collection in rising order. -/
def sorted (v : Value) : Act Value := do
  return .list none (← Act.ofExcept (Value.sorted? (← itemsOf v)))

/-- A walk through the items of a collection. -/
def walk (v : Value) : Act Value := do
  discard (itemsOf v)
  Act.makeObject (Class.core "iterator" []) true

/-- Whether a value keeps members of its own. -/
def keepsMembers : Value → Bool
  | .cls _ | .foreign .. | .partialCall .. | .subClassOf .. | .instanceOf .. | .validator ..
  | .spec .. | .settings .. | .error .. | .registry .. | .channel => true
  | .routine r => !r.isCore
  | _ => false

/-- Whether a value keeps members of its own, and at least one of them. -/
def hasMembers : Value → Bool
  | .foreign _ face _ => !face.callable
  | .routine _ | .partialCall .. => false
  | _ => true

/-- The members that a value keeps of its own. -/
def members (v : Value) : Act Value :=
  if keepsMembers v then Act.makeObject (Class.core "members" []) (hasMembers v)
  else Act.fault .typeMismatch

/-- The functions of one value under their names. -/
def table : List (String × (Value → Act Value)) :=
  [("abs", fun v => Act.ofExcept v.magnitude?),
    ("all", all),
    ("any", any),
    ("ascii", ascii),
    ("bin", inBase 2 'b'),
    ("callable", fun v => return .bool v.isCallable),
    ("chr", character),
    ("dir", fun _ => Act.makeObject (Class.core "listing" []) true),
    ("format", fun v => return .text (← Act.message v)),
    ("hash", hash),
    ("hex", inBase 16 'x'),
    ("id", fun _ => return .int (Nat.pow 2 32 + (← Act.fresh))),
    ("iter", walk),
    ("len", length),
    ("max", extreme fun item best => best.less? item),
    ("min", extreme Value.less?),
    ("oct", inBase 8 'o'),
    ("ord", codePoint),
    ("print", fun v => do
      discard (Act.message v)
      return .null),
    ("repr", fun v => return .text (← Act.inner v)),
    ("round", fun v => return .int (← Act.ofExcept v.rounded?)),
    ("sorted", sorted),
    ("sum", sum),
    ("vars", members)]

/-- The functions that take no value or more than one. -/
def others : List String :=
  ["__build_class__", "__import__", "aiter", "anext", "breakpoint", "compile", "copyright",
    "credits", "delattr", "divmod", "eval", "exec", "exit", "getattr", "globals", "hasattr",
    "help", "input", "isinstance", "issubclass", "license", "locals", "next", "open", "pow",
    "quit", "setattr"]

/-- The names of the core functions. -/
def names : List String := table.map Prod.fst ++ others

/-- Whether a value is an instance of a class, or one class below another: the questions of
two values. -/
def applyTwo (name : String) (v w : Value) : Act Value :=
  match name with
  | "isinstance" => return .bool (← Act.ofExcept (v.isInstance w))
  | "format" => do
    match w with
    | .text "" => return .text (← Act.message v)
    | _ => Act.fault .typeMismatch
  | _ => Act.fault .typeMismatch

/-- Apply a core function to its arguments. -/
def apply (name : String) (arguments : List Value) : Act Value :=
  match table.lookup name, arguments with
  | some run, [v] => run v
  | _, [v, w] => applyTwo name v w
  | _, _ => Act.fault .typeMismatch

end CoreFunction

end Conform
