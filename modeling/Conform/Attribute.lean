import Conform.Predicate

/-!
# Attributes

The attributes that values can be asked for: the members of the objects of this library,
the name of a class or function, and the class of anything. What the channel for validation
warnings shows of itself is its state at that moment.
-/

namespace Conform

namespace Act

/-- The members that an object of this library stores. -/
def members : Value → List (String × Value)
  | .subClassOf _ parent includeIdentity =>
    [("parent", parent), ("include_identity", includeIdentity)]
  | .instanceOf _ parent => [("cls", parent)]
  | .validator _ name function => [("name", name), ("function", function)]
  | .spec _ kind raw => [(kind.member, raw), ("raw", raw)]
  | .settings _ logLevel validators => [("log_level", logLevel), ("validators", validators)]
  | .error _ _ message context subject =>
    let shared := [("context", context), ("details", context), ("args", .tuple none [message])]
    match subject with
    | some (value, expected, name) =>
      shared ++ [("value", value), ("expected", expected), ("name", name)]
    | none => shared
  | _ => []

/-- The members of the channel for validation warnings when its threshold is the given one. -/
def channelMembers (level : Threshold) : List (String × Value) :=
  [("name", .text "validation"),
    ("level", if level.fromTruth then .bool (level.number != 0) else .int level.number)]

/-- The attribute of a value with the given name. -/
def attributeOf (v : Value) (name : String) : Act Value := do
  match (members v).lookup name, v with
  | some member, _ => return member
  | none, .channel =>
    match (channelMembers (← get).level).lookup name with
    | some member => return member
    | none => other
  | none, .registry id _ => if name = "name" then return (← registryAt id).name else other
  | none, .subClassOf .. | none, .instanceOf .. =>
    if name = "description" then Predicate.description v else other
  | none, _ => other
where
  /-- The attributes that do not depend on the kind of object. -/
  other : Act Value :=
    if name = "__class__" then return .cls v.classOf
    else if name = "__name__" then do
      match ← ofText v.ownName with
      | some own => return own
      | none => fault .noAttribute
    else fault .noAttribute

end Act

end Conform
