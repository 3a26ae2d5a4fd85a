import Conform.Value

/-!
# Signatures

Which arguments an operation takes. Parameters have names; the first of them may be given by
place as well, and those that have a default need not be given at all.
-/

namespace Conform

/-- A parameter: required, with a default, or left open where nothing is given. -/
inductive Parameter where
  | required (name : String)
  | default (name : String) (value : Value)
  | opened (name : String)

namespace Parameter

/-- The name of a parameter. -/
def name : Parameter → String
  | .required name | .default name _ | .opened name => name

/-- What stands for a parameter that is not given; nothing if it is required. -/
def missing? : Parameter → Option (Option Value)
  | .required _ => none
  | .default _ v => some (some v)
  | .opened _ => some none

end Parameter

/-- The parameters of an operation. -/
structure Signature where
  /-- The parameters in order. -/
  parameters : List Parameter
  /-- How many of them may be given by place. -/
  placed : Nat

namespace Signature

/-- A signature all of whose parameters may be given by place. -/
def ofList (parameters : List Parameter) : Signature := { parameters, placed := parameters.length }

/-- A signature of one required parameter. -/
def one (name : String) : Signature := ofList [.required name]

/-- The values of parameters from the arguments by place that are left and those by name. -/
def bindAll? (named : List (String × Value)) :
    List Parameter → List Value → Option (List (Option Value))
  | [], _ => some []
  | p :: rest, [] => do
    let v ← ((named.lookup p.name).map some).or p.missing?
    return v :: (← bindAll? named rest [])
  | _ :: rest, v :: given => do return some v :: (← bindAll? named rest given)

/-- The values of all parameters, in order; nothing if the arguments do not fit: too many of
them, one that is missing, one that is not known by its name or is given twice. -/
def bind? (s : Signature) (arguments : List Value) (named : List (String × Value)) :
    Option (List (Option Value)) :=
  let unplaced := s.parameters.drop arguments.length
  if arguments.length ≤ s.placed ∧ named.all (fun entry => unplaced.any (·.name == entry.1)) then
    bindAll? named s.parameters arguments
  else none

/-- As many values are bound as there are parameters. -/
theorem length_bindAll? {named : List (String × Value)} {parameters : List Parameter}
    {arguments : List Value} {bound : List (Option Value)}
    (h : bindAll? named parameters arguments = some bound) : bound.length = parameters.length := by
  induction parameters generalizing arguments bound with
  | nil => simp_all [bindAll?]
  | cons p rest ih =>
    cases arguments with
    | nil =>
      simp only [bindAll?, Option.bind_eq_bind, Option.pure_def, Option.bind_eq_some_iff] at h
      obtain ⟨v, _, others, hothers, h⟩ := h
      cases h
      simp [ih hothers]
    | cons v given =>
      simp only [bindAll?, Option.bind_eq_bind, Option.pure_def, Option.bind_eq_some_iff] at h
      obtain ⟨others, hothers, h⟩ := h
      cases h
      simp [ih hothers]

end Signature

end Conform
