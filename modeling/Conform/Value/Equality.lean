import Conform.Failure
import Conform.Number.Exact

/-!
# Equality and Order of Values

`Value.same` tells whether two values are one object. `Value.equal?` is equality of content:
numbers of all kinds are equal when their exact values are, collections of one kind when
their items are, and objects of the host only when they are one. Items are compared more
loosely than values on their own, since one object counts as equal to itself: `Value.alike`.
A signalling not-a-number refuses to be compared with a number.

`Value.less?` orders the values that have an order among themselves.
-/

namespace Conform

namespace Value

/-! ## Numbers -/

/-- The exact value of a real number of any kind; truth values count as numbers. -/
def exactOf : Value → Option Exact
  | .bool b => some (.ofRat (if b then 1 else 0))
  | .int n => some (.ofRat n)
  | .float _ x => some (.ofDouble x)
  | .fraction _ q => some (.ofRat q)
  | .decimal _ d => some (.ofScaled d)
  | _ => none

/-- The exact real and imaginary part of a number of any kind. -/
def parts? : Value → Option (Exact × Exact)
  | .complex _ re im => some (.ofDouble re, .ofDouble im)
  | v => v.exactOf.map fun x => (x, .ofRat 0)

/-- Whether the value is a scaled decimal. -/
def isDecimal : Value → Bool
  | .decimal .. => true
  | _ => false

/-- Equality of numbers of any kind; values that are no numbers are not equal. -/
def equalNumbers? (v w : Value) : Except Failure Bool :=
  match v.parts?, w.parts? with
  | some (a, b), some (c, d) =>
    if (a.isSignalling || c.isSignalling) && b.isZero && d.isZero then
      .error (.fault .invalidOperation)
    else .ok (a.equal c && b.equal d)
  | _, _ => .ok false

/-- The order of real numbers of any kind; other values have none. A scaled decimal refuses to
be ordered where one of the two is not a number. -/
def lessNumbers? (v w : Value) : Except Failure Bool :=
  match v.exactOf, w.exactOf with
  | some x, some y =>
    if (v.isDecimal || w.isDecimal) && (x.isNaN || y.isNaN) then
      .error (.fault .invalidOperation)
    else .ok (x.less y)
  | _, _ => .error (.fault .typeMismatch)

/-! ## Identity -/

/-- Whether two values are one object. Integers, texts, byte strings and dates have no identity
of their own and are one when they are alike; so is the empty tuple. -/
def same : Value → Value → Bool
  | .null, .null => true
  | .bool a, .bool b => a == b
  | .int a, .int b => a == b
  | .float m _, .float n _ => m.same n
  | .fraction m _, .fraction n _ => m.same n
  | .decimal m _, .decimal n _ => m.same n
  | .complex m .., .complex n .. => m.same n
  | .text a, .text b => a == b
  | .bytes a, .bytes b => a == b
  | .moment a, .moment b => a == b
  | .tuple m xs, .tuple n ys => m.same n || (xs.isEmpty && ys.isEmpty)
  | .list m _, .list n _ => m.same n
  | .set m _, .set n _ => m.same n
  | .mapping m _, .mapping n _ => m.same n
  | .cls c, .cls d => c == d
  | .routine r, .routine s => r == s
  | .foreign a .., .foreign b .. => a == b
  | .partialCall a .., .partialCall b .. => a == b
  | .subClassOf a .., .subClassOf b .. => a == b
  | .instanceOf a .., .instanceOf b .. => a == b
  | .validator a .., .validator b .. => a == b
  | .spec a .., .spec b .. => a == b
  | .settings a .., .settings b .. => a == b
  | .error a .., .error b .. => a == b
  | .registry a _, .registry b _ => a == b
  | .channel, .channel => true
  | _, _ => false

/-! ## Equality -/

/-- Whether an answer is there and affirmative. -/
def affirmed : Except Failure Bool → Bool
  | .ok b => b
  | .error _ => false

/-- Equality of content. -/
def equal? : Value → Value → Except Failure Bool
  | .null, .null => .ok true
  | .text s, .text t => .ok (s == t)
  | .bytes s, .bytes t => .ok (s == t)
  | .moment m, .moment n => .ok (m.comparable n && m.instant == n.instant)
  | .tuple _ xs, .tuple _ ys => equalAll? xs ys
  | .list _ xs, .list _ ys => if xs.length == ys.length then equalAll? xs ys else .ok false
  | .set _ xs, .set _ ys => .ok (xs.length == ys.length && containedIn xs ys)
  | .mapping _ es, .mapping _ fs =>
    if es.length == fs.length then includedIn? es fs else .ok false
  | .cls c, .cls d => .ok (c == d)
  | .routine r, .routine s => .ok (r == s)
  | .foreign a .., .foreign b .. => .ok (a == b)
  | .partialCall a .., .partialCall b .. => .ok (a == b)
  | .subClassOf a .., .subClassOf b .. => .ok (a == b)
  | .instanceOf a .., .instanceOf b .. => .ok (a == b)
  | .validator _ n f, .validator _ m g =>
    if same n m then (if same f g then .ok true else equal? f g)
    else
      match equal? n m with
      | .ok true => if same f g then .ok true else equal? f g
      | answer => answer
  | .spec _ k v, .spec _ l w =>
    if k == l then (if same v w then .ok true else equal? v w) else .ok false
  | .settings _ l v, .settings _ m w =>
    if same l m then (if same v w then .ok true else equal? v w)
    else
      match equal? l m with
      | .ok true => if same v w then .ok true else equal? v w
      | answer => answer
  | .error a .., .error b .. => .ok (a == b)
  | .registry a _, .registry b _ => .ok (a == b)
  | .channel, .channel => .ok true
  | v, w => equalNumbers? v w
termination_by structural v => v
where
  /-- Equality of lists, item by item up to the first two that differ. -/
  equalAll? : List Value → List Value → Except Failure Bool
    | [], [] => .ok true
    | v :: vs, w :: ws =>
      if same v w then equalAll? vs ws
      else
        match equal? v w with
        | .ok true => equalAll? vs ws
        | answer => answer
    | _, _ => .ok false
  termination_by structural vs => vs
  /-- Whether every item of the first list has one alike in the second. -/
  containedIn : List Value → List Value → Bool
    | [], _ => true
    | v :: vs, ws => ws.any (fun w => same v w || affirmed (equal? v w)) && containedIn vs ws
  termination_by structural vs => vs
  /-- Whether every entry of the first list has one with a key and a value alike in the
  second. -/
  includedIn? : List (Value × Value) → List (Value × Value) → Except Failure Bool
    | [], _ => .ok true
    | (k, v) :: es, fs =>
      match fs.find? fun entry => same k entry.1 || affirmed (equal? k entry.1) with
      | none => .ok false
      | some (_, w) =>
        if same v w then includedIn? es fs
        else
          match equal? v w with
          | .ok true => includedIn? es fs
          | answer => answer
  termination_by structural es => es

/-- Equality of content, for values that do not refuse to be compared. -/
def equal (v w : Value) : Bool := affirmed (v.equal? w)

/-- Whether two values count as equal where they are items or keys: they are one object or
equal. -/
def alike (v w : Value) : Bool := v.same w || v.equal w

/-- Texts are equal exactly when their characters are. -/
@[simp] theorem equal_text (s t : String) : equal (.text s) (.text t) = (s == t) := by
  simp [equal, equal?, affirmed]

/-- Texts are alike exactly when their characters are the same. -/
@[simp] theorem alike_text (s t : String) : alike (.text s) (.text t) = (s == t) := by
  simp [alike, same]

/-! ## Order -/

/-- The order of two values. -/
def less? : Value → Value → Except Failure Bool
  | .text s, .text t => .ok (s < t)
  | .bytes s, .bytes t => .ok (s < t)
  | .moment m, .moment n =>
    if m.comparable n then .ok (m.instant < n.instant) else .error (.fault .typeMismatch)
  | .tuple _ xs, .tuple _ ys => lessItems? xs ys
  | .list _ xs, .list _ ys => lessItems? xs ys
  | .set _ xs, .set _ ys => .ok (xs.length < ys.length && equal?.containedIn xs ys)
  | v, w => lessNumbers? v w
termination_by structural v => v
where
  /-- The order of two lists, decided by the first place where they differ. -/
  lessItems? : List Value → List Value → Except Failure Bool
    | [], ys => .ok (!ys.isEmpty)
    | _ :: _, [] => .ok false
    | x :: xs, y :: ys =>
      if same x y then lessItems? xs ys
      else
        match equal? x y with
        | .ok true => lessItems? xs ys
        | .ok false => less? x y
        | .error f => .error f
  termination_by structural xs => xs

end Value

namespace Entries

/-- The value under a key. -/
def find? (entries : Entries) (key : Value) : Option Value :=
  (List.find? (fun entry => key.alike entry.1) entries).map Prod.snd

/-- Whether a key is present. -/
def has (entries : Entries) (key : Value) : Bool := entries.any fun entry => key.alike entry.1

/-- Put a value under a key. A key already present keeps its place and its own form; a new
one goes to the end. -/
def put (key item : Value) : Entries → Entries
  | [] => [(key, item)]
  | entry :: rest =>
    if key.alike entry.1 then (entry.1, item) :: rest else entry :: put key item rest

/-- The keys in order. -/
def keys (entries : Entries) : List Value := entries.map Prod.fst

/-- The values in the order of their keys. -/
def items (entries : Entries) : List Value := entries.map Prod.snd

/-- Entries built by putting pairs one after another. -/
def ofPairs (pairs : List (Value × Value)) : Entries :=
  pairs.foldl (fun entries pair => put pair.1 pair.2 entries) []

/-- The value under a text key. -/
def field? (entries : Entries) (name : String) : Option Value := find? entries (.text name)

end Entries

end Conform
