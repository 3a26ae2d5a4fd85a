import Conform.Classifier
import Conform.Proofs.Value.Texts

/-!
# Numbers at the front of texts

The text of the validation channel shows its level, and so do the texts of values that hold the
channel. The number that a text starts with does not depend on the level (`parseText_message_eq`):
whatever is written around the channel starts with one of a few openings, and no number does.
-/

namespace Conform.Value

variable {level level' : Threshold}

variable {α β : Type} {a : Except TextFailure α}

/-! ## Openings -/

/-- What the texts of values that are written around other values, or around the level, start
with. -/
def openings : List String :=
  ["(", "[", "\x7b", "set()", "functools.partial(", "SubClassOf(", "InstanceOf(",
    "Validator(name=", "RegistryKey", "ClassRef", "PredicateRef", "UnsupportedSpec",
    "TypecheckSettings(log_level=", "<Logger validation ("]

/-- No number starts a text that one of the openings starts. -/
theorem parseText_of_opening {start : String} (h : start ∈ openings) (rest : String) :
    parseText (start ++ rest) = .nan := by
  have hscan : ∀ start ∈ openings, ∀ rest : List Char,
      Numeral.scan (Text.trimLeft (start.toList ++ rest)) = none := by
    simp only [openings, List.mem_cons, List.not_mem_nil, or_false, forall_eq_or_imp, forall_eq]
    and_intros <;> exact fun _ => rfl
  unfold parseText
  rw [String.toList_append, hscan start h]

/-- Whether the text of a value may show the level, because the value is the channel or is written
around others. -/
def IsWrapped : Value → Prop
  | .tuple .. | .list .. | .set .. | .mapping .. | .partialCall .. | .subClassOf .. | .instanceOf ..
  | .validator .. | .spec .. | .settings .. | .channel => True
  | _ => False

theorem exists_of_map_ok {f : α → β} {y : β} (h : a.map f = .ok y) : ∃ x, a = .ok x ∧ f x = y := by
  cases a with
  | error message => cases h
  | ok x => exact ⟨x, rfl, Except.ok.inj h⟩

theorem exists_of_both_ok {γ : Type} {b : Except TextFailure β} {f : α → β → γ} {z : γ}
    (h : (do let x ← a; let y ← b; return f x y) = .ok z) : ∃ x y, f x y = z := by
  cases a with
  | error message => cases h
  | ok x =>
    cases b with
    | error message => cases h
    | ok y => exact ⟨x, y, Except.ok.inj h⟩

/-- The text of such a value starts with an opening. -/
theorem IsWrapped.exists_opening {v : Value} (h : v.IsWrapped) {s : String}
    (hs : v.message level = .ok s) : ∃ start ∈ openings, ∃ rest, s = start ++ rest := by
  have hbracketed (opening closing : String) (items : List String) (hopening : opening ∈ openings) :
      ∃ start ∈ openings, ∃ rest, bracketed opening items closing = start ++ rest :=
    ⟨opening, hopening, _, String.append_assoc ..⟩
  cases v with
  | tuple mark items =>
    obtain ⟨texts, -, rfl⟩ := exists_of_map_ok hs
    unfold tupleText
    split
    · exact ⟨"(", by decide, _, String.append_assoc ..⟩
    · exact hbracketed "(" ")" _ (by decide)
  | list mark items =>
    obtain ⟨texts, -, rfl⟩ := exists_of_map_ok hs
    exact hbracketed "[" "]" texts (by decide)
  | set mark items =>
    obtain ⟨texts, -, rfl⟩ := exists_of_map_ok hs
    split_ifs
    · exact ⟨"set()", by decide, "", String.append_empty.symm⟩
    · exact hbracketed "\x7b" "\x7d" texts (by decide)
  | mapping mark entries =>
    obtain ⟨texts, -, rfl⟩ := exists_of_map_ok hs
    exact hbracketed "\x7b" "\x7d" texts (by decide)
  | partialCall id callee bound =>
    obtain ⟨first, rest, rfl⟩ := exists_of_both_ok hs
    exact hbracketed "functools.partial(" ")" _ (by decide)
  | subClassOf id parent included =>
    obtain ⟨first, last, rfl⟩ := exists_of_both_ok hs
    exact ⟨"SubClassOf(", by decide, first ++ (", include_identity=" ++ (last ++ ")")),
      by simp only [String.append_assoc]⟩
  | instanceOf id parent =>
    obtain ⟨text, -, rfl⟩ := exists_of_map_ok hs
    exact ⟨"InstanceOf(", by decide, _, String.append_assoc ..⟩
  | validator id name function =>
    obtain ⟨first, last, rfl⟩ := exists_of_both_ok hs
    exact ⟨"Validator(name=", by decide, first ++ (", function=" ++ (last ++ ")")),
      by simp only [String.append_assoc]⟩
  | spec id kind raw =>
    obtain ⟨text, -, rfl⟩ := exists_of_map_ok hs
    exact ⟨kind.name, by cases kind <;> decide, "(" ++ (kind.member ++ ("=" ++ (text ++ ")"))),
      by simp only [String.append_assoc]⟩
  | settings id logLevel validators =>
    obtain ⟨first, last, rfl⟩ := exists_of_both_ok hs
    exact ⟨"TypecheckSettings(log_level=", by decide, first ++ (", validators=" ++ (last ++ ")")),
      by simp only [String.append_assoc]⟩
  | channel =>
    cases hs
    exact ⟨"<Logger validation (", by decide, _, String.append_assoc ..⟩
  | _ => cases h

/-! ## Numbers -/

/-- No number starts the text of such a value, whatever the level. -/
theorem IsWrapped.parseText_message_eq {v : Value} (h : v.IsWrapped) :
    (v.message level).map parseText = (v.message level').map parseText := by
  have hnan : ∀ {level : Threshold} {s : String}, v.message level = .ok s → parseText s = .nan := by
    intro level s hs
    obtain ⟨start, hstart, rest, rfl⟩ := h.exists_opening hs
    exact parseText_of_opening hstart rest
  have houtcome : SameOutcome (v.message level) (v.message level') :=
    write_sameOutcome level level' .message v
  generalize hs : v.message level = x at houtcome ⊢
  generalize hs' : v.message level' = y at houtcome ⊢
  cases houtcome with
  | ok s s' => exact congrArg Except.ok ((hnan hs).trans (hnan hs').symm)
  | error failure => rfl

/-- The number that the text of a value starts with does not depend on the level. -/
theorem parseText_message_eq (level level' : Threshold) : ∀ v : Value,
    (v.message level).map parseText = (v.message level').map parseText
  -- The text of an error is that of its message, which may be any value.
  | .error _ _ message _ _ => parseText_message_eq level level' message
  | .tuple .. => IsWrapped.parseText_message_eq trivial
  | .list .. => IsWrapped.parseText_message_eq trivial
  | .set .. => IsWrapped.parseText_message_eq trivial
  | .mapping .. => IsWrapped.parseText_message_eq trivial
  | .partialCall .. => IsWrapped.parseText_message_eq trivial
  | .subClassOf .. => IsWrapped.parseText_message_eq trivial
  | .instanceOf .. => IsWrapped.parseText_message_eq trivial
  | .validator .. => IsWrapped.parseText_message_eq trivial
  | .spec .. => IsWrapped.parseText_message_eq trivial
  | .settings .. => IsWrapped.parseText_message_eq trivial
  | .channel => IsWrapped.parseText_message_eq trivial
  | .null | .bool _ | .int _ | .float .. | .fraction .. | .decimal .. | .complex .. | .text _
  | .bytes _ | .moment _ | .cls _ | .routine _ | .foreign .. | .registry .. => rfl

end Conform.Value
