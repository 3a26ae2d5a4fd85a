import Conform.Classifier
import Conform.Proofs.Value.Sorting
import Mathlib.Data.Set.List

/-!
# Sorting of texts

Texts are ordered by their characters, and any two of them have an order. A list of texts is
therefore always sorted, and what comes of it stands in rising order.

* `Value.InOrder`: the order that sorting is to establish.
* `Value.Narrowed`: what halving keeps while the place of a text is looked for.
* `Value.sorted?_of_isText`: what sorting does to a list of texts.
* `Value.inner_list_text`: how a list of texts is written.
-/

namespace Conform

namespace Value

variable {u v w : Value} {vs sorted : List Value}

/-! ## The order of texts -/

/-- The second value is not below the first. -/
def AtMost (v w : Value) : Prop := w.less? v = .ok false

/-- No value is below an earlier one. -/
def InOrder (vs : List Value) : Prop := vs.Pairwise AtMost

theorem isText_iff : v.isText = true ↔ ∃ s, v = .text s := by
  cases v <;> simp [isText]

theorem isScalar_of_isText (hv : v.isText = true) : IsScalar v := by
  obtain ⟨s, rfl⟩ := isText_iff.1 hv
  exact .text s

theorem family?_of_isText (hv : v.isText = true) : v.family? = some .text := by
  obtain ⟨s, rfl⟩ := isText_iff.1 hv
  rfl

/-- One text is at most another exactly if its characters say so. -/
theorem atMost_text (s t : String) : AtMost (.text s) (.text t) ↔ s ≤ t := by
  show (Except.ok (decide (t < s)) : Except Failure Bool) = .ok false ↔ s ≤ t
  rw [← String.not_lt, Except.ok.injEq, decide_eq_false_iff_not]

/-- Two texts can be compared, and the answer tells which of them is at most the other. -/
theorem less?_of_isText (hv : v.isText = true) (hw : w.isText = true) :
    (v.less? w = .ok true ∧ AtMost v w) ∨ (v.less? w = .ok false ∧ AtMost w v) := by
  obtain ⟨s, rfl⟩ := isText_iff.1 hv
  obtain ⟨t, rfl⟩ := isText_iff.1 hw
  by_cases hlt : s < t
  · have hle : s ≤ t := String.not_lt.1 (String.lt_asymm hlt)
    exact .inl ⟨congrArg Except.ok (decide_eq_true hlt), (atMost_text s t).2 hle⟩
  · exact .inr ⟨congrArg Except.ok (decide_eq_false hlt), (atMost_text t s).2 (String.not_lt.1 hlt)⟩

theorem AtMost.trans (hu : u.isText = true) (hv : v.isText = true) (hw : w.isText = true)
    (huv : AtMost u v) (hvw : AtMost v w) : AtMost u w := by
  obtain ⟨s, rfl⟩ := isText_iff.1 hu
  obtain ⟨t, rfl⟩ := isText_iff.1 hv
  obtain ⟨r, rfl⟩ := isText_iff.1 hw
  rw [atMost_text] at huv hvw ⊢
  exact String.le_trans huv hvw

/-! ## Runs -/

variable {last : Value} {run rest taken left : List Value}

/-- Rising texts that are taken off a list stand in order, if those taken before do. -/
theorem inOrder_of_rise? (htexts : ∀ x ∈ last :: run ++ rest, x.isText = true)
    (horder : (last :: run).Pairwise fun v w => AtMost w v)
    (h : rise? last run rest = .ok (taken, left)) : InOrder taken := by
  induction rest generalizing last run with
  | nil =>
    obtain ⟨rfl, -⟩ := Prod.mk.inj (Except.ok.inj h)
    exact List.pairwise_reverse.2 horder
  | cons v rest ih =>
    have hlast : last.isText = true := htexts last (by simp)
    have hv : v.isText = true := htexts v (by simp)
    rcases less?_of_isText hv hlast with ⟨hless, -⟩ | ⟨hless, hle⟩
    · rw [rise?, hless] at h
      obtain ⟨rfl, -⟩ := Prod.mk.inj (Except.ok.inj h)
      exact List.pairwise_reverse.2 horder
    · rw [rise?, hless] at h
      refine ih (fun x hx => htexts x ?_) (List.pairwise_cons.2 ⟨?_, horder⟩) h
      · exact List.perm_middle.mem_iff.2 hx
      -- The new value is above the last one, and so above all before it.
      · intro x hx
        rcases List.mem_cons.1 hx with rfl | hx
        · exact hle
        · have hbefore : AtMost x last := (List.pairwise_cons.1 horder).1 x hx
          exact hbefore.trans (htexts x (by simp [hx])) hlast hv hle

/-- Falling texts that are taken off a list stand in order, if those taken before do. -/
theorem inOrder_of_fall? (htexts : ∀ x ∈ last :: run ++ rest, x.isText = true)
    (horder : InOrder (last :: run)) (h : fall? last run rest = .ok (taken, left)) :
    InOrder taken := by
  induction rest generalizing last run with
  | nil =>
    obtain ⟨rfl, -⟩ := Prod.mk.inj (Except.ok.inj h)
    exact horder
  | cons v rest ih =>
    have hlast : last.isText = true := htexts last (by simp)
    have hv : v.isText = true := htexts v (by simp)
    rcases less?_of_isText hv hlast with ⟨hless, hle⟩ | ⟨hless, -⟩
    · rw [fall?, hless] at h
      refine ih (fun x hx => htexts x ?_) (List.pairwise_cons.2 ⟨?_, horder⟩) h
      · exact List.perm_middle.mem_iff.2 hx
      · intro x hx
        rcases List.mem_cons.1 hx with rfl | hx
        · exact hle
        · have hafter : AtMost last x := (List.pairwise_cons.1 horder).1 x hx
          exact hle.trans hv hlast (htexts x (by simp [hx])) hafter
    · rw [fall?, hless] at h
      obtain ⟨rfl, -⟩ := Prod.mk.inj (Except.ok.inj h)
      exact horder

/-- The run that a list of texts starts with stands in order. -/
theorem inOrder_of_run? (htexts : ∀ x ∈ vs, x.isText = true) (h : run? vs = .ok (taken, left)) :
    InOrder taken := by
  match vs, htexts with
  | [], _ =>
    obtain ⟨rfl, -⟩ := Prod.mk.inj (Except.ok.inj h)
    exact .nil
  | [v], _ =>
    obtain ⟨rfl, -⟩ := Prod.mk.inj (Except.ok.inj h)
    exact List.pairwise_singleton _ v
  | v :: w :: rest, htexts =>
    have hswap : ∀ x ∈ w :: [v] ++ rest, x.isText = true := by
      intro x hx
      exact htexts x ((List.Perm.swap v w rest).mem_iff.1 hx)
    -- The first two values tell whether the run falls or rises.
    rcases less?_of_isText (htexts w (by simp)) (htexts v (by simp)) with
      ⟨hless, hle⟩ | ⟨hless, hle⟩
    · rw [run?, hless] at h
      exact inOrder_of_fall? hswap (List.pairwise_pair.2 hle) h
    · rw [run?, hless] at h
      exact inOrder_of_rise? hswap (List.pairwise_pair.2 hle) h

/-! ## Places -/

/-- A text has its place among sorted ones somewhere from the low position up to the high one: it
is not below what stands before the low one, and what stands from the high one on is not below
it. -/
structure Narrowed (v : Value) (sorted : List Value) (low high : Nat) : Prop where
  low_le : low ≤ high
  high_le : high ≤ sorted.length
  before : ∀ i (h : i < sorted.length), i < low → AtMost sorted[i] v
  after : ∀ i (h : i < sorted.length), high ≤ i → AtMost v sorted[i]

/-- Among texts in order, each is at most itself and all after it. -/
theorem InOrder.atMost (horder : InOrder sorted) (htexts : ∀ x ∈ sorted, x.isText = true)
    {i j : Nat} (hij : i ≤ j) (hj : j < sorted.length) : AtMost sorted[i] sorted[j] := by
  rcases Nat.lt_or_eq_of_le hij with hlt | rfl
  · exact List.pairwise_iff_getElem.1 horder i j (by omega) hj hlt
  · obtain ⟨s, hs⟩ := isText_iff.1 (htexts _ (List.getElem_mem hj))
    rw [hs]
    exact (atMost_text s s).2 (String.le_refl s)

/-- Halving narrows the positions down to the place of a text. -/
theorem narrowed_of_placeFor? (hv : v.isText = true) (htexts : ∀ x ∈ sorted, x.isText = true)
    (horder : InOrder sorted) {low high place : Nat} (hnarrowed : Narrowed v sorted low high)
    (hplace : placeFor? v sorted low high = .ok place) : Narrowed v sorted place place := by
  -- Each comparison leaves one of the halves around the middle, so the distance carries the proof.
  induction hsize : high - low using Nat.strongRecOn generalizing low high with
  | ind size ih =>
    obtain ⟨hlow, hhigh, hbefore, hafter⟩ := hnarrowed
    rw [placeFor?] at hplace
    split_ifs at hplace with hlt
    · have hmiddle : (low + high) / 2 < sorted.length := by omega
      have hw : sorted[(low + high) / 2].isText = true := htexts _ (List.getElem_mem hmiddle)
      simp only [List.getElem?_eq_getElem hmiddle] at hplace
      rcases less?_of_isText hv hw with ⟨hless, hle⟩ | ⟨hless, hle⟩
      · rw [hless] at hplace
        refine ih _ (by omega) ⟨by omega, by omega, hbefore, fun i hi hmid => ?_⟩ hplace rfl
        exact hle.trans hv hw (htexts _ (List.getElem_mem hi)) (horder.atMost htexts hmid hi)
      · rw [hless] at hplace
        refine ih _ (by omega) ⟨by omega, hhigh, fun i hi hmid => ?_, hafter⟩ hplace rfl
        have hbelow : AtMost sorted[i] sorted[(low + high) / 2] :=
          horder.atMost htexts (by omega) hmiddle
        exact hbelow.trans (htexts _ (List.getElem_mem hi)) hw hv hle
    · obtain rfl : low = high := by omega
      obtain rfl := Except.ok.inj hplace
      exact ⟨hlow, hhigh, hbefore, hafter⟩

/-- A text put into its place leaves texts in order. -/
theorem Narrowed.inOrder_insertIdx {place : Nat} (h : Narrowed v sorted place place)
    (horder : InOrder sorted) : InOrder (sorted.insertIdx place v) := by
  obtain ⟨earlier, later, rfl, rfl, hinsert⟩ :=
    List.exists_of_modifyTailIdx (List.cons v) h.high_le
  have hbefore : ∀ x ∈ earlier, AtMost x v := by
    intro x hx
    obtain ⟨i, hi, rfl⟩ := List.getElem_of_mem hx
    have hle := h.before i (by simp; omega) hi
    rwa [List.getElem_append_left hi] at hle
  have hafter : ∀ x ∈ later, AtMost v x := by
    intro x hx
    obtain ⟨i, hi, rfl⟩ := List.getElem_of_mem hx
    have hle := h.after (earlier.length + i) (by simp; omega) (by omega)
    simpa [List.getElem_append_right] using hle
  obtain ⟨hearlier, hlater, hacross⟩ := List.pairwise_append.1 horder
  show InOrder ((earlier ++ later).modifyTailIdx earlier.length (List.cons v))
  rw [hinsert]
  refine List.pairwise_append.2 ⟨hearlier, List.pairwise_cons.2 ⟨hafter, hlater⟩, ?_⟩
  intro x hx y hy
  rcases List.mem_cons.1 hy with rfl | hy
  · exact hbefore x hx
  · exact hacross x hx y hy

/-- Inserting a text keeps texts in order. -/
theorem inOrder_of_insertSorted? (hv : v.isText = true) (htexts : ∀ x ∈ sorted, x.isText = true)
    (horder : InOrder sorted) {result : List Value} (h : insertSorted? sorted v = .ok result) :
    InOrder result ∧ ∀ x ∈ result, x.isText = true := by
  rw [insertSorted?] at h
  cases hplace : placeFor? v sorted 0 sorted.length with
  | error f =>
    rw [hplace] at h
    cases h
  | ok place =>
    rw [hplace] at h
    obtain rfl := Except.ok.inj h
    have hwhole : Narrowed v sorted 0 sorted.length :=
      ⟨Nat.zero_le _, Nat.le_refl _, fun i _ hi => by omega, fun i hlt hi => by omega⟩
    have hnarrowed := narrowed_of_placeFor? hv htexts horder hwhole hplace
    refine ⟨hnarrowed.inOrder_insertIdx horder, fun x hx => ?_⟩
    rcases List.eq_or_mem_of_mem_insertIdx hx with rfl | hx
    · exact hv
    · exact htexts x hx

/-! ## Sorting -/

/-- Inserting texts one after another keeps them in order. -/
theorem inOrder_of_foldlM (hrest : ∀ x ∈ rest, x.isText = true)
    (htexts : ∀ x ∈ sorted, x.isText = true) (horder : InOrder sorted) {result : List Value}
    (h : rest.foldlM insertSorted? sorted = .ok result) : InOrder result := by
  induction rest generalizing sorted with
  | nil =>
    obtain rfl := Except.ok.inj h
    exact horder
  | cons v rest ih =>
    rw [List.foldlM_cons] at h
    cases hinsert : insertSorted? sorted v with
    | error f =>
      rw [hinsert] at h
      cases h
    | ok next =>
      rw [hinsert] at h
      obtain ⟨hnext, hnexttexts⟩ :=
        inOrder_of_insertSorted? (hrest v (by simp)) htexts horder hinsert
      exact ih (fun x hx => hrest x (by simp [hx])) hnexttexts hnext h

/-- What sorting makes of texts stands in order. -/
theorem inOrder_of_sorted? (htexts : ∀ x ∈ vs, x.isText = true) (h : sorted? vs = .ok sorted) :
    InOrder sorted := by
  match vs, htexts with
  | [], _ =>
    obtain rfl := Except.ok.inj h
    exact .nil
  | [v], _ =>
    obtain rfl := Except.ok.inj h
    exact List.pairwise_singleton _ v
  | v :: w :: rest, htexts =>
    have hscalar : ∀ x ∈ v :: w :: rest, IsScalar x := fun x hx => isScalar_of_isText (htexts x hx)
    have hfamily : v.family? = some .text := family?_of_isText (htexts v (by simp))
    have hrest : ∀ x ∈ rest, IsScalar x := fun x hx => hscalar x (by simp [hx])
    rcases run?_of_family? (hscalar v (by simp)) hfamily (hscalar w (by simp)) hrest with
      ⟨taken, left, hrun, hperm, -⟩ | ⟨hrun, -⟩
    · -- The run holds texts in order, and so do the places that the others are put into.
      have hall : ∀ x ∈ taken ++ left, x.isText = true := fun x hx =>
        htexts x (hperm.mem_iff.1 hx)
      rw [sorted?, hrun] at h
      exact inOrder_of_foldlM (fun x hx => hall x (by simp [hx]))
        (fun x hx => hall x (by simp [hx])) (inOrder_of_run? htexts hrun) h
    · rw [sorted?, hrun] at h
      cases h

/-- A list of texts is put into rising order. -/
theorem sorted?_of_isText (htexts : ∀ x ∈ vs, x.isText = true) :
    ∃ names : List String, sorted? vs = .ok (names.map .text) ∧ (names.map .text).Perm vs ∧
      names.Pairwise (· ≤ ·) := by
  have huniform : Uniform vs := ⟨.text, fun x hx => family?_of_isText (htexts x hx)⟩
  -- Texts are of one family, so sorting is not refused.
  rcases sorted?_of_isScalar fun x hx => isScalar_of_isText (htexts x hx) with
    ⟨result, hsorted, hperm, -⟩ | ⟨-, hmixed⟩
  · have hrange : result ∈ Set.range (List.map Value.text) := by
      rw [Set.range_list_map]
      intro x hx
      obtain ⟨s, rfl⟩ := isText_iff.1 (htexts x (hperm.mem_iff.1 hx))
      exact ⟨s, rfl⟩
    obtain ⟨names, rfl⟩ := hrange
    refine ⟨names, hsorted, hperm, ?_⟩
    have horder : InOrder (names.map .text) := inOrder_of_sorted? htexts hsorted
    exact (List.pairwise_map.1 horder).imp fun hle => (atMost_text _ _).1 hle
  · exact absurd (.inr huniform) hmixed

/-- A list of texts shows each of them between quotes. -/
theorem inner_list_text (level : Threshold) (mark : Mark) (names : List String) :
    (Value.list mark (names.map .text)).inner level =
      .ok (bracketed "[" (names.map Text.quoted) "]") := by
  have hall : write.writeAll level (names.map .text) = .ok (names.map Text.quoted) := by
    induction names with
    | nil => rfl
    | cons s rest ih =>
      rw [List.map_cons, write.writeAll, ih]
      rfl
  show (write.writeAll level (names.map .text)).map (bracketed "[" · "]") = _
  rw [hall]
  rfl

end Value

end Conform
