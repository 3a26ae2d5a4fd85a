import Conform.Document.Yaml.Cursor

/-!
# Resolution of Plain Scalars

Which kind of value the text of a plain scalar stands for when no tag says so. The forms
are regular languages; each is recognised by a function that follows its expression, part by
part, through the text. A single line feed may follow any form; only a scalar that is resolved
as if it were plain can end in one.
-/

namespace Conform.Document.Yaml

/-- The tag of a kind of values that every document may use. -/
def coreTag (name : String) : String := "tag:yaml.org,2002:" ++ name

namespace Plain

/-- The text without a sign at its start. -/
def unsigned : List Char → List Char
  | '+' :: rest | '-' :: rest => rest
  | cs => cs

/-- Whether a character is a digit or an underscore. -/
def isSpacedDigit (c : Char) : Bool := c.isDigit || c = '_'

/-- Whether a text is made of at least one character, all of which satisfy a test. -/
def isRun (p : Char → Bool) (cs : List Char) : Bool := !cs.isEmpty && cs.all p

/-- What follows groups of a colon and one or two digits, the tens of which are below six;
nothing if there is no such group. -/
def afterSixties : Nat → List Char → Option (List Char)
  | 0, _ => none
  | fuel + 1, cs =>
    match cs with
    | ':' :: a :: rest =>
      let two := match rest with
        | b :: more => if '0' ≤ a ∧ a ≤ '5' ∧ b.isDigit then some more else none
        | [] => none
      let one := if a.isDigit then some rest else none
      match two.or one with
      | some rest => some ((afterSixties fuel rest).getD rest)
      | none => none
    | _ => none

/-- Whether a text is an exponent: a letter, a sign, and digits. -/
def isExponent : List Char → Bool
  | 'e' :: sign :: digits | 'E' :: sign :: digits =>
    (sign = '+' || sign = '-') && isRun Char.isDigit digits
  | _ => false

/-- Whether a text is nothing or an exponent. -/
def isOptionalExponent (cs : List Char) : Bool := cs.isEmpty || isExponent cs

/-- Whether a text is a truth value. -/
def isBool (s : String) : Bool :=
  ["yes", "Yes", "YES", "no", "No", "NO", "true", "True", "TRUE", "false", "False", "FALSE", "on",
    "On", "ON", "off", "Off", "OFF"].contains s

/-- A text without the line feed at its end. -/
def withoutBreak (cs : List Char) : List Char :=
  if cs.getLast? = some '\n' then cs.dropLast else cs

/-- Whether a text stands for the absent value. -/
def isNull (s : String) : Bool := ["~", "null", "Null", "NULL", ""].contains s

/-- Whether a text without its sign is a decimal with a point that digits come before. -/
def isPointed (cs : List Char) : Bool :=
  cs.head?.any Char.isDigit &&
    match cs.dropWhile isSpacedDigit with
    | '.' :: rest => isOptionalExponent (rest.dropWhile isSpacedDigit)
    | _ => false

/-- Whether a text is a decimal that starts with its point. -/
def isFraction : List Char → Bool
  | '.' :: d :: rest => d.isDigit && isOptionalExponent (rest.dropWhile isSpacedDigit)
  | _ => false

/-- Whether a text without its sign counts in sixties and ends in a fraction. -/
def isSixtiesFraction (cs : List Char) : Bool :=
  cs.head?.any Char.isDigit &&
    match afterSixties cs.length (cs.dropWhile isSpacedDigit) with
    | some ('.' :: rest) => rest.all isSpacedDigit
    | _ => false

/-- Whether a text is a double. -/
def isFloat (cs : List Char) : Bool :=
  let body := unsigned cs
  isPointed body || isFraction cs || isSixtiesFraction body ||
    [".inf", ".Inf", ".INF"].contains (String.ofList body) ||
    [".nan", ".NaN", ".NAN"].contains (String.ofList cs)

/-- Whether a text is an integer: binary, octal, decimal, hexadecimal, or in sixties. -/
def isInt (cs : List Char) : Bool :=
  match unsigned cs with
  | '0' :: 'b' :: rest => isRun (fun c => c = '0' || c = '1' || c = '_') rest
  | '0' :: 'x' :: rest =>
    isRun (fun c => c.isDigit || ('a' ≤ c && c ≤ 'f') || ('A' ≤ c && c ≤ 'F') || c = '_') rest
  | '0' :: rest => rest.all fun c => ('0' ≤ c && c ≤ '7') || c = '_'
  | c :: rest =>
    ('1' ≤ c && c ≤ '9') &&
      match rest.dropWhile isSpacedDigit with
      | [] => true
      | after => afterSixties after.length after == some []
  | [] => false

/-- Take a number of digits, between a least and a greatest, off the front of a text. -/
def digits? (least most : Nat) (cs : List Char) : Option (List Char × List Char) :=
  let run := (cs.takeWhile Char.isDigit).take most
  if run.length < least then none else some (run, cs.drop run.length)

/-- Take a character off the front of a text. -/
def exactly? (c : Char) : List Char → Option (List Char)
  | d :: rest => if d = c then some rest else none
  | [] => none

/-- The parts of a date as they are written. -/
structure Stamp where
  /-- The year. -/
  year : List Char
  /-- The month. -/
  month : List Char
  /-- The day. -/
  day : List Char
  /-- The hour, the minute and the second, where a time is given. -/
  time : Option (List Char × List Char × List Char)
  /-- The digits of the fraction of the second, where one is given. -/
  fraction : List Char
  /-- The offset: nothing, the letter for universal time, or a sign, hours and minutes. -/
  zone : Option (Option (Char × List Char × List Char))

/-- White space between the parts of a date. -/
def afterBlanks (cs : List Char) : List Char := cs.dropWhile fun c => c = ' ' || c = '\t'

/-- The offset at the end of a time; nothing if the rest of the text is something else. -/
def zone? (cs : List Char) : Option (Option (Option (Char × List Char × List Char))) :=
  match afterBlanks cs with
  | [] => if cs.isEmpty then some none else none
  | ['Z'] => some (some none)
  | sign :: rest =>
    if sign = '+' ∨ sign = '-' then do
      let (hours, rest) ← digits? 1 2 rest
      match rest with
      | [] => return some (some (sign, hours, []))
      | _ =>
        let (minutes, rest) ← digits? 2 2 (← exactly? ':' rest)
        if rest.isEmpty then return some (some (sign, hours, minutes)) else none
    else none

/-- The start of the time after a date: the letter for it or white space. -/
def timeStart? (cs : List Char) : Option (List Char) :=
  match cs with
  | 'T' :: rest | 't' :: rest => some rest
  | ' ' :: _ | '\t' :: _ => some (afterBlanks cs)
  | _ => none

/-- The parts of a text that is a date, with or without a time. -/
def stamp? (cs : List Char) : Option Stamp := do
  let (year, rest) ← digits? 4 4 cs
  let (month, rest) ← digits? 1 2 (← exactly? '-' rest)
  let (day, rest) ← digits? 1 2 (← exactly? '-' rest)
  if rest.isEmpty then
    return { year, month, day, time := none, fraction := [], zone := none }
  let (hour, rest) ← digits? 1 2 (← timeStart? rest)
  let (minute, rest) ← digits? 2 2 (← exactly? ':' rest)
  let (second, rest) ← digits? 2 2 (← exactly? ':' rest)
  let (fraction, rest) := match rest with
    | '.' :: rest => (rest.takeWhile Char.isDigit, rest.dropWhile Char.isDigit)
    | _ => ([], rest)
  let zone ← zone? rest
  return { year, month, day, time := some (hour, minute, second), fraction, zone }

/-- Whether a plain scalar is a date: one without a time has two digits for the month and
for the day. -/
def isStamp (cs : List Char) : Bool :=
  match stamp? cs with
  | some s => s.time.isSome || (s.month.length == 2 && s.day.length == 2)
  | none => false

/-- The tag of the kind of value that a plain scalar stands for. A line feed alone is text.
Indicators alone, which only a scalar resolved as if it were plain can be, have a kind of
their own, which stands for no value. -/
def resolve (s : String) : String :=
  let cs := if s = "\n" then ['\n'] else withoutBreak s.toList
  let body := String.ofList cs
  let startsNumber := cs.head?.any fun c => c.isDigit || c = '+' || c = '-' || c = '.'
  coreTag <|
    if isBool body then "bool"
    else if startsNumber && isFloat cs then "float"
    else if startsNumber && isInt cs then "int"
    else if body = "<<" then "merge"
    else if isNull body then "null"
    else if isStamp cs then "timestamp"
    else if body = "=" then "value"
    else if ["!", "&", "*"].contains body then "yaml"
    else "str"

end Plain

end Conform.Document.Yaml
