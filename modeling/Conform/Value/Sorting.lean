import Conform.Value.Equality

/-!
# Sorting of Values

A list is sorted by the order of values. The run it starts with, rising or falling, is taken
as it is, and every further value is put into its place, which is found by halving. Which
values meet decides what happens to a list that holds values without an order among
themselves, and so do the steps below where some are not numbers.
-/

namespace Conform

namespace Value

/-- Take the values that keep rising off a list. The run so far is given from its end. -/
def rise? (last : Value) (run : List Value) : List Value → Except Failure (List Value × List Value)
  | [] => .ok ((last :: run).reverse, [])
  | v :: rest => do
    if ← v.less? last then return ((last :: run).reverse, v :: rest)
    else rise? v (last :: run) rest

/-- Take the values that keep falling off a list; they are turned around. -/
def fall? (last : Value) (run : List Value) : List Value → Except Failure (List Value × List Value)
  | [] => .ok (last :: run, [])
  | v :: rest => do
    if ← v.less? last then fall? v (last :: run) rest
    else return (last :: run, v :: rest)

/-- The run that a list starts with, in rising order, and the rest. -/
def run? : List Value → Except Failure (List Value × List Value)
  | [] => .ok ([], [])
  | [v] => .ok ([v], [])
  | v :: w :: rest => do
    if ← w.less? v then fall? w [v] rest else rise? w [v] rest

/-- The place of a value among sorted ones, between a low one and a high one: after all that
it is not below. -/
def placeFor? (v : Value) (sorted : List Value) (low high : Nat) : Except Failure Nat :=
  if _h : low < high then do
    let middle := (low + high) / 2
    match sorted[middle]? with
    | none => .ok low
    | some w =>
      if ← v.less? w then placeFor? v sorted low middle
      else placeFor? v sorted (middle + 1) high
  else .ok low
termination_by high - low

/-- Put a value into its place among sorted ones. -/
def insertSorted? (sorted : List Value) (v : Value) : Except Failure (List Value) := do
  let place ← placeFor? v sorted 0 sorted.length
  return sorted.insertIdx place v

/-- The values in rising order; it is refused where two that meet have no order. -/
def sorted? (vs : List Value) : Except Failure (List Value) := do
  let (run, rest) ← run? vs
  rest.foldlM insertSorted? run

end Value

end Conform
