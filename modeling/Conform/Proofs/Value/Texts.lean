import Conform.Value.Rendering
import Mathlib.Tactic.SplitIfs

/-!
# Texts of values under different levels

The text of a value shows the level of the validation channel, if the channel is in it. Whether
there is a text does not depend on that level, nor does the error that is met where there is none
(`Value.write_sameOutcome`).
-/

namespace Conform

/-- Two computations come out alike: both with a result, or both with the same error. -/
inductive SameOutcome {ε α β : Type} : Except ε α → Except ε β → Prop where
  | ok (a : α) (b : β) : SameOutcome (.ok a) (.ok b)
  | error (e : ε) : SameOutcome (.error e) (.error e)

namespace SameOutcome

variable {ε α β γ δ : Type} {x : Except ε α} {y : Except ε β}

theorem refl : ∀ x : Except ε α, SameOutcome x x
  | .ok a => .ok a a
  | .error e => .error e

/-- Working on the results changes nothing about the errors. -/
theorem map (h : SameOutcome x y) (f : α → γ) (g : β → δ) :
    SameOutcome (x.map f) (y.map g) := by
  cases h with
  | ok a b => exact .ok _ _
  | error e => exact .error e

/-- What follows a result decides where the first computations have one. -/
theorem bind (h : SameOutcome x y) {f : α → Except ε γ} {g : β → Except ε δ}
    (hnext : ∀ a b, SameOutcome (f a) (g b)) : SameOutcome (x >>= f) (y >>= g) := by
  cases h with
  | ok a b => exact hnext a b
  | error e => exact .error e

/-- A computation that comes out like one with a result has a result. -/
theorem exists_ok (h : SameOutcome x y) (hx : ∃ a, x = .ok a) : ∃ b, y = .ok b := by
  obtain ⟨a, rfl⟩ := hx
  cases h with
  | ok a b => exact ⟨b, rfl⟩

end SameOutcome

namespace Value

-- One theorem for each function of the nest by which values are written.
mutual

/-- Writing a value comes out alike under all levels. -/
theorem write_sameOutcome (level level' : Threshold) :
    ∀ (style : Style) (v : Value), SameOutcome (v.write level style) (v.write level' style)
  | _, .null => .ok _ _
  | _, .bool _ => .ok _ _
  | _, .int _ => .refl _
  | _, .float .. => .ok _ _
  | _, .fraction .. => .refl _
  | _, .decimal .. => .ok _ _
  | _, .complex .. => .ok _ _
  | _, .text _ => .ok _ _
  | _, .bytes _ => .ok _ _
  | _, .moment _ => .ok _ _
  | _, .tuple _ items => (writeAll_sameOutcome level level' items).map _ _
  | _, .list _ items => (writeAll_sameOutcome level level' items).map _ _
  | _, .set _ items => (writeAll_sameOutcome level level' items).map _ _
  | _, .mapping _ entries => (writeEntries_sameOutcome level level' entries).map _ _
  | _, .cls _ => .ok _ _
  | _, .routine _ => .ok _ _
  | .message, .foreign _ face _ => .refl face.text
  | .inner, .foreign _ face _ => .refl face.inner
  | .mention, .foreign _ _ none => by
    simp only [write]
    exact .refl _
  | .mention, .foreign _ face (some name) => by
    simp only [write]
    split_ifs
    · split
      · exact .error _
      · exact write_sameOutcome level level' .message name
    · exact .refl face.text
  | style, .partialCall _ callee bound => by
    simp only [write]
    split_ifs
    · exact .ok _ _
    · exact (write_sameOutcome level level' .inner callee).bind fun _ _ =>
        (writeAll_sameOutcome level level' bound).bind fun _ _ => .ok _ _
  | style, .subClassOf _ parent includeIdentity => by
    simp only [write]
    split_ifs
    · exact .ok _ _
    · exact (write_sameOutcome level level' .mention parent).bind fun _ _ =>
        (write_sameOutcome level level' .message includeIdentity).bind fun _ _ => .ok _ _
  | style, .instanceOf _ parent => by
    simp only [write]
    split_ifs
    · exact .ok _ _
    · exact (write_sameOutcome level level' .mention parent).map _ _
  | style, .validator _ name function => by
    simp only [write]
    split_ifs
    · exact .ok _ _
    · exact (write_sameOutcome level level' .inner name).bind fun _ _ =>
        (write_sameOutcome level level' .inner function).bind fun _ _ => .ok _ _
  | _, .spec _ _ raw => (write_sameOutcome level level' .inner raw).map _ _
  | _, .settings _ logLevel validators =>
    (write_sameOutcome level level' .inner logLevel).bind fun _ _ =>
      (write_sameOutcome level level' .inner validators).bind fun _ _ => .ok _ _
  | style, .error _ _ message _ _ => by
    simp only [write]
    split_ifs
    · exact (write_sameOutcome level level' .inner message).map _ _
    · exact write_sameOutcome level level' .message message
  | _, .registry .. => .ok _ _
  | _, .channel => .ok _ _

/-- Writing the items of a collection comes out alike under all levels. -/
theorem writeAll_sameOutcome (level level' : Threshold) :
    ∀ items, SameOutcome (write.writeAll level items) (write.writeAll level' items)
  | [] => .ok _ _
  | v :: rest =>
    (write_sameOutcome level level' .inner v).bind fun _ _ =>
      (writeAll_sameOutcome level level' rest).bind fun _ _ => .ok _ _

/-- Writing the entries of a mapping comes out alike under all levels. -/
theorem writeEntries_sameOutcome (level level' : Threshold) :
    ∀ entries, SameOutcome (write.writeEntries level entries) (write.writeEntries level' entries)
  | [] => .ok _ _
  | (k, v) :: rest =>
    (write_sameOutcome level level' .inner k).bind fun _ _ =>
      (write_sameOutcome level level' .inner v).bind fun _ _ =>
        (writeEntries_sameOutcome level level' rest).bind fun _ _ => .ok _ _

end

/-- An object of the host whose text fails to come. -/
def textless : Value :=
  .foreign 1
    { cls := Class.object, text := .error (.host "no text"), inner := .ok "object", truth := true,
      callable := false } none

end Value

end Conform
