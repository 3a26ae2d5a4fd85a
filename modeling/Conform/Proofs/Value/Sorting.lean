import Conform.Proofs.Value.Documents
import Conform.Value.Sorting
import Mathlib.Data.List.InsertIdx
import Mathlib.Tactic.SplitIfs

/-!
# Sorting of scalars

Scalars have an order among themselves if they are of one family (`Value.family?`): numbers, texts,
byte strings, dates, times without an offset, times with one. Sorting compares every value of a list
with one that it met before, so that it finds out about every value of another family.

* `less?_of_family?`: which scalars can be ordered against a given one.
* `run?_of_family?`: the run that sorting starts with (`TakesRun`).
* `sorted?_of_isScalar`: what sorting does to a list of scalars.
-/

namespace Conform

/-- The families of scalars that have an order. -/
inductive Family where
  | number
  | text
  | bytes
  | date
  | clock
  | instant
  deriving DecidableEq, Repr

namespace Moment

/-- The family of a moment: dates, or times without an offset or with one. -/
def family (m : Moment) : Family :=
  match m.time with
  | none => .date
  | some t => if t.offset.isSome then .instant else .clock

/-- The families of moments. -/
theorem family_eq_or (m : Moment) : m.family = .date ∨ m.family = .clock ∨ m.family = .instant := by
  unfold family
  split
  · exact .inl rfl
  · split_ifs <;> simp

/-- Moments can be compared exactly if they are of one family. -/
theorem comparable_iff_family_eq (m n : Moment) : m.comparable n = true ↔ m.family = n.family := by
  unfold comparable family
  cases m.time with
  | none =>
    cases n.time with
    | none => simp
    | some u => cases hu : u.offset.isSome <;> simp [hu]
  | some t =>
    cases n.time with
    | none => cases ht : t.offset.isSome <;> simp [ht]
    | some u => cases ht : t.offset.isSome <;> cases hu : u.offset.isSome <;> simp [ht, hu]

end Moment

namespace Value

/-- The family that a value is ordered in, if it is a scalar with an order. -/
def family? : Value → Option Family
  | .bool _ | .int _ | .float .. => some .number
  | .text _ => some .text
  | .bytes _ => some .bytes
  | .moment m => some m.family
  | _ => none

/-- All values of a list are of one family. -/
def Uniform (vs : List Value) : Prop := ∃ family, ∀ v ∈ vs, v.family? = some family

/-- A list that can be sorted: one of a single family, or one in which no two values meet. -/
def Sortable (vs : List Value) : Prop := vs.length ≤ 1 ∨ Uniform vs

/-- The failure to sort what has no order. -/
def unordered : Failure := .fault .typeMismatch

variable {v w : Value} {family : Family}

/-! ## The order of scalars -/

/-- A scalar can be ordered against one of a family exactly if it is of that family. -/
theorem less?_of_family? (hv : IsScalar v) (hw : IsScalar w) (hfamily : w.family? = some family) :
    (v.family? = some family ∧ ∃ answer, v.less? w = .ok answer) ∨
      (v.family? ≠ some family ∧ v.less? w = .error unordered) := by
  cases hw with
  | null => simp [family?] at hfamily
  | moment n =>
    -- The family of a moment is seen from its time, so it is not told by the constructor.
    obtain rfl := Option.some.inj hfamily
    cases hv with
    | moment m =>
      by_cases hcomparable : m.comparable n = true
      · have hsame := (m.comparable_iff_family_eq n).1 hcomparable
        exact .inl ⟨congrArg some hsame, _, if_pos hcomparable⟩
      · have hother := mt (m.comparable_iff_family_eq n).2 hcomparable
        exact .inr ⟨mt Option.some.inj hother, if_neg hcomparable⟩
    | _ =>
      refine .inr ⟨?_, rfl⟩
      rcases n.family_eq_or with hn | hn | hn <;> simp [family?, hn]
  | _ =>
    obtain rfl := Option.some.inj hfamily
    cases hv with
    | moment m =>
      refine .inr ⟨?_, rfl⟩
      rcases m.family_eq_or with hm | hm | hm <;> simp [family?, hm]
    | _ => first | exact .inl ⟨rfl, _, rfl⟩ | exact .inr ⟨by simp [family?], rfl⟩

/-- No scalar can be ordered against one without a family. -/
theorem less?_of_family?_eq_none (hv : IsScalar v) (hw : IsScalar w) (hnone : w.family? = none) :
    v.less? w = .error unordered := by
  cases hw with
  | null => cases hv <;> rfl
  | _ => simp [family?] at hnone

/-! ## Runs -/

/-- What comes of taking a run off a list in which a value of the given family stands: the values
taken are of that family and the others are left, or one of another family is met. -/
def TakesRun (family : Family) (vs : List Value)
    (outcome : Except Failure (List Value × List Value)) : Prop :=
  (∃ taken left, outcome = .ok (taken, left) ∧ (taken ++ left).Perm vs ∧ taken ≠ [] ∧
      ∀ v ∈ taken, v.family? = some family) ∨
    (outcome = .error unordered ∧ ∃ v ∈ vs, v.family? ≠ some family)

/-- In which order the list stands does not matter. -/
theorem TakesRun.of_perm {vs ws : List Value} {outcome : Except Failure (List Value × List Value)}
    (h : TakesRun family vs outcome) (hperm : vs.Perm ws) : TakesRun family ws outcome := by
  rcases h with ⟨taken, left, hok, htaken, hne, hall⟩ | ⟨herror, v, hv, hother⟩
  · exact .inl ⟨taken, left, hok, htaken.trans hperm, hne, hall⟩
  · exact .inr ⟨herror, v, hperm.mem_iff.1 hv, hother⟩

variable {last : Value} {run rest : List Value}

/-- Taking rising values off a list of scalars. -/
theorem rise?_of_isScalar (hlast : IsScalar last) (hfamily : last.family? = some family)
    (hrun : ∀ v ∈ run, v.family? = some family) (hrest : ∀ v ∈ rest, IsScalar v) :
    TakesRun family (last :: run ++ rest) (rise? last run rest) := by
  -- The run grows at its front while the list is gone through, so it is generalized with its head.
  induction rest generalizing last run with
  | nil =>
    have hall : ∀ w ∈ last :: run, w.family? = some family := by simpa [hfamily] using hrun
    refine .inl ⟨(last :: run).reverse, [], rfl, ?_, by simp, ?_⟩
    · simpa using List.reverse_perm (last :: run)
    · exact fun w hw => hall w (List.mem_reverse.1 hw)
  | cons v rest ih =>
    have hv : IsScalar v := hrest v (by simp)
    have hall : ∀ w ∈ last :: run, w.family? = some family := by simpa [hfamily] using hrun
    rcases less?_of_family? hv hlast hfamily with ⟨hsame, answer, hless⟩ | ⟨hother, hless⟩
    · cases answer with
      | true =>
        -- A value below the last one ends the run.
        refine .inl ⟨(last :: run).reverse, v :: rest, ?_, ?_, by simp, ?_⟩
        · rw [rise?, hless]
          rfl
        · exact (List.reverse_perm (last :: run)).append_right _
        · exact fun w hw => hall w (List.mem_reverse.1 hw)
      | false =>
        have hstep : rise? last run (v :: rest) = rise? v (last :: run) rest := by
          rw [rise?, hless]
          rfl
        rw [hstep]
        exact (ih hv hsame hall fun w hw => hrest w (by simp [hw])).of_perm List.perm_middle.symm
    · refine .inr ⟨?_, v, by simp, hother⟩
      rw [rise?, hless]
      rfl

/-- Taking falling values off a list of scalars. -/
theorem fall?_of_isScalar (hlast : IsScalar last) (hfamily : last.family? = some family)
    (hrun : ∀ v ∈ run, v.family? = some family) (hrest : ∀ v ∈ rest, IsScalar v) :
    TakesRun family (last :: run ++ rest) (fall? last run rest) := by
  induction rest generalizing last run with
  | nil =>
    refine .inl ⟨last :: run, [], rfl, by simp, by simp, ?_⟩
    simpa [hfamily] using hrun
  | cons v rest ih =>
    have hv : IsScalar v := hrest v (by simp)
    have hall : ∀ w ∈ last :: run, w.family? = some family := by simpa [hfamily] using hrun
    rcases less?_of_family? hv hlast hfamily with ⟨hsame, answer, hless⟩ | ⟨hother, hless⟩
    · cases answer with
      | true =>
        have hstep : fall? last run (v :: rest) = fall? v (last :: run) rest := by
          rw [fall?, hless]
          rfl
        rw [hstep]
        exact (ih hv hsame hall fun w hw => hrest w (by simp [hw])).of_perm List.perm_middle.symm
      | false =>
        -- A value not below the last one ends the run, which stands in rising order already.
        refine .inl ⟨last :: run, v :: rest, ?_, .refl _, by simp, hall⟩
        rw [fall?, hless]
        rfl
    · refine .inr ⟨?_, v, by simp, hother⟩
      rw [fall?, hless]
      rfl

/-- A list with values of two families is not uniform. -/
theorem not_uniform {vs : List Value} (hv : v ∈ vs) (hfamily : v.family? = some family)
    (hw : w ∈ vs) (hother : w.family? ≠ some family) : ¬ Uniform vs := by
  rintro ⟨family', hall⟩
  have hsame : some family = some family' := hfamily.symm.trans (hall v hv)
  exact hother ((hall w hw).trans hsame.symm)

/-- The run that a list of at least two scalars starts with, where the first has a family. -/
theorem run?_of_family? (hv : IsScalar v) (hfamily : v.family? = some family) (hw : IsScalar w)
    (hrest : ∀ x ∈ rest, IsScalar x) :
    TakesRun family (v :: w :: rest) (run? (v :: w :: rest)) := by
  have hfirst : ∀ x ∈ [v], x.family? = some family := by simpa using hfamily
  have hswap : (w :: [v] ++ rest).Perm (v :: w :: rest) := .swap v w rest
  rcases less?_of_family? hw hv hfamily with ⟨hsame, answer, hless⟩ | ⟨hother, hless⟩
  · -- The first two values tell whether the run falls or rises.
    cases answer with
    | true =>
      have hstep : run? (v :: w :: rest) = fall? w [v] rest := by
        rw [run?, hless]
        rfl
      rw [hstep]
      exact (fall?_of_isScalar hw hsame hfirst hrest).of_perm hswap
    | false =>
      have hstep : run? (v :: w :: rest) = rise? w [v] rest := by
        rw [run?, hless]
        rfl
      rw [hstep]
      exact (rise?_of_isScalar hw hsame hfirst hrest).of_perm hswap
  · refine .inr ⟨?_, w, by simp, hother⟩
    rw [run?, hless]
    rfl

/-- No run is taken off a list of at least two scalars where the first has no family. -/
theorem run?_of_family?_eq_none (hv : IsScalar v) (hnone : v.family? = none) (hw : IsScalar w) :
    run? (v :: w :: rest) = .error unordered := by
  rw [run?, less?_of_family?_eq_none hw hv hnone]
  rfl

/-! ## Places -/

variable {sorted : List Value}

/-- A scalar finds its place among others of its family. -/
theorem exists_placeFor? (hv : IsScalar v) (hfamily : v.family? = some family)
    (hsorted : ∀ w ∈ sorted, IsScalar w ∧ w.family? = some family) (low high : Nat)
    (hlow : low ≤ high) (hhigh : high ≤ sorted.length) :
    ∃ place, placeFor? v sorted low high = .ok place ∧ place ≤ sorted.length := by
  -- Each comparison leaves one of the halves around the middle, so the distance carries the proof.
  induction hsize : high - low using Nat.strongRecOn generalizing low high with
  | ind size ih =>
    rw [placeFor?]
    split_ifs with hlt
    · have hmiddle : (low + high) / 2 < sorted.length := by omega
      obtain ⟨hscalar, hsame⟩ := hsorted _ (List.getElem_mem hmiddle)
      simp only [List.getElem?_eq_getElem hmiddle]
      rcases less?_of_family? hv hscalar hsame with ⟨-, answer, hless⟩ | ⟨hother, -⟩
      · simp only [hless]
        cases answer with
        | true => exact ih _ (by omega) low _ (by omega) (by omega) rfl
        | false => exact ih _ (by omega) _ high (by omega) hhigh rfl
      · exact absurd hfamily hother
    · exact ⟨low, rfl, by omega⟩

/-- A scalar finds no place among others of another family. -/
theorem placeFor?_of_family?_ne (hv : IsScalar v) (hfamily : v.family? ≠ some family)
    (hsorted : ∀ w ∈ sorted, IsScalar w ∧ w.family? = some family) (hne : sorted ≠ []) :
    placeFor? v sorted 0 sorted.length = .error unordered := by
  have hpos : 0 < sorted.length := List.length_pos_iff.2 hne
  have hmiddle : (0 + sorted.length) / 2 < sorted.length := by omega
  obtain ⟨hscalar, hsame⟩ := hsorted _ (List.getElem_mem hmiddle)
  rw [placeFor?, dif_pos hpos]
  simp only [List.getElem?_eq_getElem hmiddle]
  rcases less?_of_family? hv hscalar hsame with ⟨hfamily', -⟩ | ⟨-, hless⟩
  · exact absurd hfamily' hfamily
  · simp only [hless]
    rfl

/-! ## Sorting -/

/-- Putting scalars into their places among those of a family: they are all of that family, or one
of another family is met. -/
theorem foldlM_insertSorted?_of_isScalar
    (hsorted : ∀ w ∈ sorted, IsScalar w ∧ w.family? = some family) (hne : sorted ≠ [])
    (hrest : ∀ v ∈ rest, IsScalar v) :
    (∃ result, rest.foldlM insertSorted? sorted = .ok result ∧ result.Perm (sorted ++ rest) ∧
        ∀ v ∈ rest, v.family? = some family) ∨
      (rest.foldlM insertSorted? sorted = .error unordered ∧
        ∃ v ∈ rest, v.family? ≠ some family) := by
  induction rest generalizing sorted with
  | nil => exact .inl ⟨sorted, rfl, by simp, by simp⟩
  | cons v rest ih =>
    have hv : IsScalar v := hrest v (by simp)
    by_cases hfamily : v.family? = some family
    · obtain ⟨place, hplace, hle⟩ :=
        exists_placeFor? hv hfamily hsorted 0 sorted.length (Nat.zero_le _) (Nat.le_refl _)
      have hstep : (v :: rest).foldlM insertSorted? sorted =
          rest.foldlM insertSorted? (sorted.insertIdx place v) := by
        rw [List.foldlM_cons, insertSorted?, hplace]
        rfl
      -- The list stays one of scalars of the family, with the value in it.
      have hperm : (sorted.insertIdx place v).Perm (v :: sorted) := List.perm_insertIdx v sorted hle
      have hsorted' : ∀ w ∈ sorted.insertIdx place v, IsScalar w ∧ w.family? = some family := by
        intro w hw
        rcases List.mem_cons.1 (hperm.mem_iff.1 hw) with rfl | hw
        · exact ⟨hv, hfamily⟩
        · exact hsorted w hw
      have hne' : sorted.insertIdx place v ≠ [] := by
        intro hnil
        simpa [hnil] using hperm.length_eq
      rw [hstep]
      rcases ih hsorted' hne' (fun w hw => hrest w (by simp [hw])) with
        ⟨result, hok, hresult, hall⟩ | ⟨herror, w, hw, hother⟩
      · refine .inl ⟨result, hok, ?_, by simpa [hfamily] using hall⟩
        exact (hresult.trans (hperm.append_right rest)).trans List.perm_middle.symm
      · exact .inr ⟨herror, w, by simp [hw], hother⟩
    · refine .inr ⟨?_, v, by simp, hfamily⟩
      rw [List.foldlM_cons, insertSorted?, placeFor?_of_family?_ne hv hfamily hsorted hne]
      rfl

/-- Sorting scalars: a list of one family, or of at most one value, is put into another order, and
any other list is refused. -/
theorem sorted?_of_isScalar {vs : List Value} (hvs : ∀ v ∈ vs, IsScalar v) :
    (∃ result, sorted? vs = .ok result ∧ result.Perm vs ∧ Sortable vs) ∨
      (sorted? vs = .error unordered ∧ ¬ Sortable vs) := by
  match vs, hvs with
  | [], _ => exact .inl ⟨[], rfl, .refl _, .inl (by simp)⟩
  | [v], _ => exact .inl ⟨[v], rfl, .refl _, .inl (by simp)⟩
  | v :: w :: rest, hvs =>
    have hlong : Sortable (v :: w :: rest) → Uniform (v :: w :: rest) := by
      rintro (hshort | huniform)
      · simp at hshort
      · exact huniform
    have hv : IsScalar v := hvs v (by simp)
    have hw : IsScalar w := hvs w (by simp)
    have hrest : ∀ x ∈ rest, IsScalar x := fun x hx => hvs x (by simp [hx])
    cases hfamily : v.family? with
    | none =>
      refine .inr ⟨?_, mt hlong ?_⟩
      · rw [sorted?, run?_of_family?_eq_none hv hfamily hw]
        rfl
      · rintro ⟨family, hall⟩
        simpa [hfamily] using hall v (by simp)
    | some family =>
      rcases run?_of_family? hv hfamily hw hrest with
        ⟨taken, left, hok, hperm, hne, htaken⟩ | ⟨herror, x, hx, hother⟩
      · -- The run is sorted and the values after it find their places in it, or one does not.
        have hscalar : ∀ x ∈ taken ++ left, IsScalar x := fun x hx => hvs x (hperm.mem_iff.1 hx)
        have hsorted : ∀ x ∈ taken, IsScalar x ∧ x.family? = some family :=
          fun x hx => ⟨hscalar x (by simp [hx]), htaken x hx⟩
        have hleft : ∀ x ∈ left, IsScalar x := fun x hx => hscalar x (by simp [hx])
        have hstep : sorted? (v :: w :: rest) = left.foldlM insertSorted? taken := by
          rw [sorted?, hok]
          rfl
        rw [hstep]
        rcases foldlM_insertSorted?_of_isScalar hsorted hne hleft with
          ⟨result, hresult, hperm', hall⟩ | ⟨herror, x, hx, hother⟩
        · refine .inl ⟨result, hresult, hperm'.trans hperm, .inr ⟨family, fun x hx => ?_⟩⟩
          rcases List.mem_append.1 (hperm.mem_iff.2 hx) with hx | hx
          · exact htaken x hx
          · exact hall x hx
        · have hmem : x ∈ v :: w :: rest := hperm.mem_iff.1 (by simp [hx])
          exact .inr ⟨herror, mt hlong (not_uniform (by simp) hfamily hmem hother)⟩
      · refine .inr ⟨?_, mt hlong (not_uniform (by simp) hfamily hx hother)⟩
        rw [sorted?, herror]
        rfl

end Value

end Conform
