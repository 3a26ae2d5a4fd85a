/-!
# Thresholds

The level of the validation channel: how severe a record must be to be let through. A
threshold is a number, and a truth value counts as one; it stays a truth value in the text
of the threshold. The number zero stands for no threshold of its own, and then the one of
the root counts.
-/

namespace Conform

/-- The level of a log channel. -/
structure Threshold where
  /-- The number of the level. -/
  number : Int
  /-- Whether the level was given as a truth value. -/
  fromTruth : Bool
  deriving DecidableEq, Repr

namespace Threshold

/-- The threshold with the given number. -/
def ofNumber (number : Int) : Threshold := { number, fromTruth := false }

/-- The threshold that a truth value gives. -/
def ofTruth (b : Bool) : Threshold := { number := if b then 1 else 0, fromTruth := true }

/-- No threshold of its own. -/
def unset : Threshold := ofNumber 0

/-- The threshold of the root, which counts where a channel has none of its own. -/
def root : Threshold := ofNumber 30

/-- The threshold that counts. -/
def effective (t : Threshold) : Threshold := if t.number = 0 then root else t

/-- The names of levels and their numbers. -/
def levels : List (String × Int) :=
  [("CRITICAL", 50), ("FATAL", 50), ("ERROR", 40), ("WARN", 30), ("WARNING", 30), ("INFO", 20),
    ("DEBUG", 10), ("NOTSET", 0)]

/-- The number of the level with the given name, in upper case. -/
def number? (name : String) : Option Int := levels.lookup name

/-- The names that levels go by, and their numbers. -/
def names : List (Int × String) :=
  [(50, "CRITICAL"), (40, "ERROR"), (30, "WARNING"), (20, "INFO"), (10, "DEBUG")]

/-- The name of the threshold that counts; one without a name is called by its number. -/
def text (t : Threshold) : String :=
  match names.lookup t.effective.number with
  | some name => name
  | none => "Level " ++ if t.fromTruth then "True" else toString t.number

/-- Whether a record of a level is let through. -/
def admits (t : Threshold) (level : Int) : Bool := t.effective.number ≤ level

/-- A threshold that is set counts itself. -/
theorem effective_of_ne_zero {t : Threshold} (h : t.number ≠ 0) : t.effective = t := by
  simp [effective, h]

/-- The threshold that counts is never unset. -/
theorem effective_number_ne_zero (t : Threshold) : t.effective.number ≠ 0 := by
  by_cases h : t.number = 0 <;> simp [effective, h, root, ofNumber]

end Threshold

end Conform
