import Conform.Failure
import Conform.Number.Layout
import Conform.Value.Equality
import Conform.Value.Rendering

/-!
# Classifiers

The questions that can be asked of a single value: of which primitive kind it is, which
number it is or stands for, and where it stands among classes.

* `parseFloat` reads numbers loosely: any value that is not a number is turned into text
  and the longest numeral that the text starts with is taken.
* `formatNumber` writes a number in its normal form.
* `parseNumberStrict` reads a text only if it is the normal form of the number it denotes.
-/

namespace Conform

open Text

namespace Value

/-! ## Primitive kinds -/

/-- Whether the value is a text. -/
def isText : Value → Bool
  | .text _ => true
  | _ => false

/-- Whether the value is a truth value. -/
def isBoolean : Value → Bool
  | .bool _ => true
  | _ => false

/-- Whether the value is a real number; truth values, complex numbers and scaled decimals
are none. -/
def isNumber : Value → Bool
  | .int _ | .float .. | .fraction .. => true
  | _ => false

/-- Whether the value is a list or a tuple. -/
def isArray : Value → Bool
  | .list .. | .tuple .. => true
  | _ => false

/-- Whether the value is a mapping. -/
def isMapping : Value → Bool
  | .mapping .. => true
  | _ => false

/-- Whether the value is there at all. -/
def isPresent (v : Value) : Bool := !v.isNull

/-- Whether the value is a text, a number or a truth value. -/
def isPrimitive (v : Value) : Bool := v.isText || v.isNumber || v.isBoolean

/-! ## Numbers -/

/-- The nearest double to a fraction, unless its magnitude is past the largest one. -/
def finiteDouble (q : Rat) : Except Failure Binary64 :=
  let x := Binary64.ofRat q
  if x.isInfinite then .error (.fault .overflow) else .ok x

/-- Convert a value to a double: a number by its value, a text or a byte string by the
number that makes it up. -/
def toDouble : Value → Except Failure Binary64
  | .bool b => finiteDouble (if b then 1 else 0)
  | .int n => finiteDouble n
  | .float _ x => .ok x
  | .fraction _ q => finiteDouble q
  | .decimal _ d =>
    match d.toDouble? with
    | some x => .ok x
    | none => .error (.fault .badValue)
  | .text s =>
    match Numeral.double? s with
    | some x => .ok x
    | none => .error (.fault .badValue)
  | .bytes content =>
    match Numeral.double? (String.ofList (content.map fun b => Char.ofNat b.toNat)) with
    | some x => if content.all (· < 0x80) then .ok x else .error (.fault .badValue)
    | none => .error (.fault .badValue)
  | _ => .error (.fault .typeMismatch)

/-- The number that a text starts with, white space before it aside; not-a-number if it
starts with none. -/
def parseText (s : String) : Binary64 :=
  match Numeral.scan (trimLeft s.toList) with
  | some (numeral, _) => numeral.value
  | none => .nan

/-- Read a value as a number the loose way: a number by its value, infinite when it is too
large, and anything else by the number that its text starts with. The level that the text of
the validation channel shows does not matter, since no text with it starts with a number. -/
def parseFloat : Value → Except Failure Binary64
  | .int n => .ok (Binary64.ofRat n)
  | .float _ x => .ok x
  | .fraction _ q => .ok (Binary64.ofRat q)
  | v =>
    match v.message .unset with
    | .ok s => .ok (parseText s)
    | .error failure => .error (.ofText failure)

/-- The double as which a value is read the loose way, as an object: a double is left as it is,
and whatever has no number gives the one not-a-number of reading. -/
def readDouble (v : Value) : Except Failure Value :=
  match v with
  | .float mark x => .ok (.float mark x)
  | v => v.parseFloat.map fun x => .float (if x.isNaN then .ofReading else none) x

/-- The normal form of a number. -/
def formatNumber (v : Value) : Except Failure String := v.toDouble.map Layout.canonical.render

/-- The bound under which a whole number is read as an integer. -/
def integerBound : Nat := Nat.pow 10 21

/-- A double as the number it is read as: an integer if it is whole and below the bound. -/
def ofNumber (x : Binary64) : Value :=
  if x.isInteger then
    match x.truncate? with
    | some n => if n.natAbs < integerBound then .int n else .float none x
    | none => .float none x
  else .float none x

/-- The number that a text is the normal form of, and the absent value for a text that is
no normal form. -/
def parseCanonical (s : String) : Value :=
  let x := parseText s
  if x.isNaN then .null
  else if Layout.canonical.render x = s then ofNumber x
  else .null

/-- Read a value as a number the strict way: a number is left as it is, a text must be a
normal form, and nothing else is a number. -/
def parseNumberStrict (v : Value) : Value :=
  match v with
  | .text s => parseCanonical s
  | v => if v.isNumber then v else .null

/-- Whether the value is a text, or its text starts with a number. -/
def isAlphanumeric (v : Value) : Except Failure Bool :=
  v.parseFloat.map fun x => !x.isNaN || v.isText

/-! ## Classes -/

/-- The ancestors of a class, nearest first, without the class itself; other values have
none. -/
def ancestors : Value → List Value
  | .cls c => c.ancestors.map .cls
  | _ => []

/-- Whether a value is an instance of a class. All that can be called conforms to the protocol
of predicates; the class of protocols and that of anything have no instances to ask for. -/
def belongsTo (v : Value) (c : Class) : Except Failure Bool :=
  if c == Class.predicate then .ok v.isCallable
  else if c == Class.protocol || c == Class.anything then .error (.fault .typeMismatch)
  else .ok (c.admits v.classOf)

/-- Whether a value is an instance of a class, or of one in a tuple of classes, which are
tried in order. -/
def isInstance (v : Value) : Value → Except Failure Bool
  | .cls c => v.belongsTo c
  | .tuple _ parents => anyOf parents
  | _ => .error (.fault .typeMismatch)
where
  /-- Whether a value is an instance of one in a list, tried in order. -/
  anyOf : List Value → Except Failure Bool
    | [] => .ok false
    | parent :: rest =>
      match isInstance v parent with
      | .ok true => .ok true
      | .ok false => anyOf rest
      | .error f => .error f

/-- Whether a callable has `parent` among its ancestors, or is `parent` itself where that
counts. The answer to the last question is that of `includeIdentity` itself when it is
false; whether it is, is given. -/
def isSubclass (v parent includeIdentity : Value) (included : Bool) : Value :=
  if !v.isCallable then .bool false
  else if v.ancestors.any (alike parent) then .bool true
  else if included then .bool (v.same parent)
  else includeIdentity

end Value

end Conform
