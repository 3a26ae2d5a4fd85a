import Conform.Value.Rendering
import Mathlib.Tactic.SplitIfs

/-!
# The channel in values

The text of the validation channel shows its level, and so do the texts of the values that hold the
channel (`Value.holdsChannel`). Every other value is written in the same way under all levels. A
value is neutral between two levels (`Value.Neutral`) if it does not hold the channel, or if the
levels go by one name; then it is written in the same way under both (`Value.write_eq`).
-/

namespace Conform

namespace Value

/-- Whether a value is the validation channel or has it among its parts. -/
def holdsChannel : Value → Bool
  | .channel => true
  | .tuple _ items | .list _ items | .set _ items => anyHolds items
  | .mapping _ entries => anyEntryHolds entries
  | .foreign _ _ (some name) => name.holdsChannel
  | .partialCall _ callee bound => callee.holdsChannel || anyHolds bound
  | .subClassOf _ parent includeIdentity => parent.holdsChannel || includeIdentity.holdsChannel
  | .instanceOf _ parent => parent.holdsChannel
  | .validator _ name function => name.holdsChannel || function.holdsChannel
  | .spec _ _ raw => raw.holdsChannel
  | .settings _ logLevel validators => logLevel.holdsChannel || validators.holdsChannel
  | .error _ _ message context none => message.holdsChannel || context.holdsChannel
  | .error _ _ message context (some (value, expected, name)) =>
    message.holdsChannel || context.holdsChannel || value.holdsChannel || expected.holdsChannel ||
      name.holdsChannel
  | _ => false
termination_by structural v => v
where
  /-- Whether one of the items of a collection holds the channel. -/
  anyHolds : List Value → Bool
    | [] => false
    | v :: rest => v.holdsChannel || anyHolds rest
  termination_by structural items => items
  /-- Whether a key or a value of a mapping holds the channel. -/
  anyEntryHolds : List (Value × Value) → Bool
    | [] => false
    | (k, v) :: rest => k.holdsChannel || v.holdsChannel || anyEntryHolds rest
  termination_by structural entries => entries

/-- A value is neutral between two levels of the channel if the levels go by one name, or if the
value does not hold the channel. -/
def Neutral (level level' : Threshold) (v : Value) : Prop :=
  level.text = level'.text ∨ v.holdsChannel = false

variable {level level' : Threshold}

/-- A part of a neutral value is neutral. -/
theorem Neutral.part {v w : Value} (h : Neutral level level' v)
    (hpart : v.holdsChannel = false → w.holdsChannel = false) : Neutral level level' w :=
  h.imp_right hpart

/-- The channel shows nothing of a level but its name. -/
theorem channelText_eq (h : level.text = level'.text) : channelText level = channelText level' := by
  unfold channelText
  rw [h]

-- One theorem for each function of the nest by which values are written.
mutual

/-- A neutral value is written in the same way under both levels. -/
theorem write_eq : ∀ (style : Style) (v : Value), Neutral level level' v →
    v.write level style = v.write level' style
  | _, .null, _ => rfl
  | _, .bool _, _ => rfl
  | _, .int _, _ => rfl
  | _, .float .., _ => rfl
  | _, .fraction .., _ => rfl
  | _, .decimal .., _ => rfl
  | _, .complex .., _ => rfl
  | _, .text _, _ => rfl
  | _, .bytes _, _ => rfl
  | _, .moment _, _ => rfl
  | _, .tuple _ items, h => congrArg (Except.map tupleText) (writeAll_eq items h)
  | _, .list _ items, h => congrArg (Except.map _) (writeAll_eq items h)
  | _, .set _ items, h => congrArg (Except.map _) (writeAll_eq items h)
  | _, .mapping _ entries, h => congrArg (Except.map _) (writeEntries_eq entries h)
  | _, .cls _, _ => rfl
  | _, .routine _, _ => rfl
  | .message, .foreign .., _ => rfl
  | .inner, .foreign .., _ => rfl
  | .mention, .foreign _ _ none, _ => by simp only [write]
  | .mention, .foreign _ face (some name), h => by
    have hname := write_eq .message name h
    simp only [write, hname]
  | style, .partialCall _ callee bound, h => by
    have hcallee := write_eq .inner callee (h.part fun h => (Bool.or_eq_false_iff.1 h).1)
    have hbound := writeAll_eq bound (h.imp_right fun h => (Bool.or_eq_false_iff.1 h).2)
    simp only [write, hcallee, hbound]
  | style, .subClassOf _ parent includeIdentity, h => by
    have hparent := write_eq .mention parent (h.part fun h => (Bool.or_eq_false_iff.1 h).1)
    have hincluded :=
      write_eq .message includeIdentity (h.part fun h => (Bool.or_eq_false_iff.1 h).2)
    simp only [write, hparent, hincluded]
  | style, .instanceOf _ parent, h => by
    have hparent := write_eq .mention parent h
    simp only [write, hparent]
  | style, .validator _ name function, h => by
    have hname := write_eq .inner name (h.part fun h => (Bool.or_eq_false_iff.1 h).1)
    have hfunction := write_eq .inner function (h.part fun h => (Bool.or_eq_false_iff.1 h).2)
    simp only [write, hname, hfunction]
  | style, .spec _ _ raw, h => by
    have hraw := write_eq .inner raw h
    simp only [write, hraw]
  | style, .settings _ logLevel validators, h => by
    have hlevel := write_eq .inner logLevel (h.part fun h => (Bool.or_eq_false_iff.1 h).1)
    have hvalidators := write_eq .inner validators (h.part fun h => (Bool.or_eq_false_iff.1 h).2)
    simp only [write, hlevel, hvalidators]
  | style, .error _ _ message _ subject, h => by
    have hmessage : Neutral level level' message := h.part fun h => by
      cases subject <;> simp_all [holdsChannel]
    have hinner := write_eq .inner message hmessage
    have hmessage := write_eq .message message hmessage
    simp only [write, hinner, hmessage]
  | _, .registry .., _ => rfl
  | _, .channel, h => congrArg Except.ok (channelText_eq (h.resolve_right (by simp [holdsChannel])))

/-- The items of a neutral collection are written in the same way under both levels. -/
theorem writeAll_eq : ∀ items : List Value,
    (level.text = level'.text ∨ holdsChannel.anyHolds items = false) →
      write.writeAll level items = write.writeAll level' items
  | [], _ => rfl
  | v :: rest, h => by
    have hfirst := write_eq .inner v (h.imp_right fun h => (Bool.or_eq_false_iff.1 h).1)
    have hothers := writeAll_eq rest (h.imp_right fun h => (Bool.or_eq_false_iff.1 h).2)
    simp only [write.writeAll, hfirst, hothers]

/-- The entries of a neutral mapping are written in the same way under both levels. -/
theorem writeEntries_eq : ∀ entries : List (Value × Value),
    (level.text = level'.text ∨ holdsChannel.anyEntryHolds entries = false) →
      write.writeEntries level entries = write.writeEntries level' entries
  | [], _ => rfl
  | (k, v) :: rest, h => by
    have hentry (h : holdsChannel.anyEntryHolds ((k, v) :: rest) = false) :
        (k.holdsChannel = false ∧ v.holdsChannel = false) ∧
          holdsChannel.anyEntryHolds rest = false :=
      (Bool.or_eq_false_iff.1 h).imp_left Bool.or_eq_false_iff.1
    have hkey := write_eq .inner k (h.imp_right fun h => (hentry h).1.1)
    have hvalue := write_eq .inner v (h.imp_right fun h => (hentry h).1.2)
    have hothers := writeEntries_eq rest (h.imp_right fun h => (hentry h).2)
    simp only [write.writeEntries, hkey, hvalue, hothers]

end

/-- A class or a function that is neutral has a neutral name. -/
theorem Neutral.ownName {v name : Value} (h : Neutral level level' v)
    (hname : v.ownName = .ok (some name)) : Neutral level level' name := by
  cases v with
  | cls c =>
    cases hname
    exact .inr rfl
  | routine r =>
    cases hname
    exact .inr rfl
  | foreign id face own =>
    obtain ⟨-, rfl⟩ := ownName_foreign_eq_ok_iff.1 hname
    exact h
  | _ => cases hname

/-- What a message mentions in place of a neutral value is neutral. -/
theorem Neutral.shown {v given : Value} (h : Neutral level level' v)
    (hgiven : v.shown = .ok given) : Neutral level level' given := by
  unfold Value.shown at hgiven
  split at hgiven
  · cases hname : v.ownName with
    | error failure =>
      rw [hname] at hgiven
      cases hgiven
    | ok name =>
      rw [hname] at hgiven
      obtain rfl := Except.ok.inj hgiven
      cases name with
      | none => exact .inr rfl
      | some name => exact h.ownName hname
  · obtain rfl := Except.ok.inj hgiven
    exact h

end Value

end Conform
