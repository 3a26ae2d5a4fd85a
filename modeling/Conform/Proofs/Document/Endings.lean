import Conform.Document.Trouble
import Mathlib.Tactic.SplitIfs

/-!
# How reading ends

A computation on a document ends with an answer or with a trouble. `Document.Ends` says of the two
what they are like, and `Document.EndsFrom` says it of computations on a state, which start from
states of a kind and leave states of a kind. Both are told of a computation by its parts, so a
reader is gone through as it is written.
-/

namespace Conform.Document

variable {α β σ : Type}

/-- A trouble that is one of the given faults, unless it is that the document is malformed. -/
def Trouble.Among (faults : List Fault) : Trouble → Prop
  | .malformed => True
  | .fault f => f ∈ faults

theorem Trouble.Among.mono {faults faults' : List Fault} (hsub : faults ⊆ faults') {t : Trouble}
    (h : t.Among faults) : t.Among faults' := by
  cases t with
  | malformed => trivial
  | fault f => exact hsub h

/-- A computation ends with an answer of one kind or with a trouble of another. -/
def Ends (good : α → Prop) (bad : Trouble → Prop) : Except Trouble α → Prop
  | .ok a => good a
  | .error t => bad t

/-- From states of one kind, a computation on a state ends with an answer and a state of another
kind or with a trouble of a third. -/
def EndsFrom (start : σ → Prop) (good : α → σ → Prop) (bad : Trouble → Prop)
    (act : StateT σ (Except Trouble) α) : Prop :=
  ∀ s, start s → Ends (fun result => good result.1 result.2) bad (act.run s)

/-! ## Computations -/

namespace Ends

variable {good good' : α → Prop} {bad bad' : Trouble → Prop} {x : Except Trouble α}

theorem mono (h : Ends good bad x) (hgood : ∀ a, good a → good' a) : Ends good' bad x := by
  cases x with
  | ok a => exact hgood a h
  | error t => exact h

theorem mono_trouble (h : Ends good bad x) (hbad : ∀ t, bad t → bad' t) : Ends good bad' x := by
  cases x with
  | ok a => exact h
  | error t => exact hbad t h

/-- A computation that is followed by another ends with its own trouble or as the other does. -/
theorem bind {mid : α → Prop} {good : β → Prop} {next : α → Except Trouble β} (hx : Ends mid bad x)
    (hnext : ∀ a, mid a → Ends good bad (next a)) : Ends good bad (x >>= next) := by
  cases x with
  | ok a => exact hnext a hx
  | error t => exact hx

theorem map {good : β → Prop} {f : α → β} (h : Ends (fun a => good (f a)) bad x) :
    Ends good bad (x.map f) := by
  cases x <;> exact h

theorem ite {c : Prop} [Decidable c] {y : Except Trouble α} (hx : c → Ends good bad x)
    (hy : ¬ c → Ends good bad y) : Ends good bad (if c then x else y) := by
  split_ifs with hc
  · exact hx hc
  · exact hy hc

/-- A computation on each item of a list ends with one answer for each, or with the trouble of an
item. -/
theorem mapM {good : β → Prop} {f : α → Except Trouble β} {items : List α}
    (h : ∀ a ∈ items, Ends good bad (f a)) :
    Ends (fun answers => ∀ b ∈ answers, good b) bad (items.mapM f) := by
  induction items with
  | nil => exact List.forall_mem_nil good
  | cons a rest ih =>
    rw [List.mapM_cons]
    refine (h a List.mem_cons_self).bind fun b hb => ?_
    have hrest := ih fun c hc => h c (List.mem_cons_of_mem a hc)
    exact hrest.bind fun bs hbs => List.forall_mem_cons.2 ⟨hb, hbs⟩

end Ends

theorem ends_required {good : α → Prop} {bad : Trouble → Prop} (hbad : bad .malformed)
    {found : Option α} (h : ∀ a, found = some a → good a) : Ends good bad (Trouble.required found) := by
  cases found with
  | some a => exact h a rfl
  | none => exact hbad

/-- A fault is one of those that it is among. -/
theorem ends_fault {good : α → Prop} {faults : List Fault} {f : Fault} (h : f ∈ faults) :
    Ends good (Trouble.Among faults) (.error (.fault f)) := h

/-! ## Computations on a state -/

namespace EndsFrom

variable {start : σ → Prop} {good : α → σ → Prop} {bad : Trouble → Prop}
  {act : StateT σ (Except Trouble) α}

theorem mono {good' : α → σ → Prop} (h : EndsFrom start good bad act)
    (hgood : ∀ a s, good a s → good' a s) : EndsFrom start good' bad act :=
  fun s hs => (h s hs).mono fun result => hgood result.1 result.2

/-- What the first computation leaves is where the second starts. -/
theorem bind {mid : α → σ → Prop} {good : β → σ → Prop} {next : α → StateT σ (Except Trouble) β}
    (hact : EndsFrom start mid bad act) (hnext : ∀ a, EndsFrom (mid a) good bad (next a)) :
    EndsFrom start good bad (act >>= next) :=
  fun s hs => (hact s hs).bind fun result hresult => hnext result.1 result.2 hresult

/-- What is known apart from the state can be used before the computation runs. -/
theorem of_and {fact : Prop} (h : fact → EndsFrom start good bad act) :
    EndsFrom (fun s => start s ∧ fact) good bad act := fun s hs => h hs.2 s hs.1

theorem pure {a : α} (h : ∀ s, start s → good a s) :
    EndsFrom start good bad (pure a : StateT σ (Except Trouble) α) := h

theorem throw {t : Trouble} (h : bad t) :
    EndsFrom start good bad (throw t : StateT σ (Except Trouble) α) := fun _ _ => h

theorem fault {faults : List Fault} {f : Fault} (h : f ∈ faults) :
    EndsFrom start good (Trouble.Among faults)
      (MonadExcept.throw (Trouble.fault f) : StateT σ (Except Trouble) α) := fun _ _ => h

/-- The state that is read is one from which the computation may start. -/
theorem read : EndsFrom start (fun r s => start s ∧ start r) bad
    (get : StateT σ (Except Trouble) σ) := fun _ hs => ⟨hs, hs⟩

theorem set {s' : σ} {good : PUnit → σ → Prop} (h : ∀ s, start s → good ⟨⟩ s') :
    EndsFrom start good bad (set s' : StateT σ (Except Trouble) PUnit) := h

theorem modify {f : σ → σ} {good : PUnit → σ → Prop} (h : ∀ s, start s → good ⟨⟩ (f s)) :
    EndsFrom start good bad (modify f : StateT σ (Except Trouble) PUnit) := h

theorem lift {x : Except Trouble α} (h : ∀ s, start s → Ends (good · s) bad x) :
    EndsFrom start good bad (liftM x : StateT σ (Except Trouble) α) :=
  fun s hs => (h s hs).bind fun _ ha => ha

theorem ite {c : Prop} [Decidable c] {act' : StateT σ (Except Trouble) α}
    (h : c → EndsFrom start good bad act) (h' : ¬ c → EndsFrom start good bad act') :
    EndsFrom start good bad (if c then act else act') := by
  split_ifs with hc
  · exact h hc
  · exact h' hc

/-- A computation on each item of a list leaves the state as it does on one, and ends with one
answer for each. -/
theorem mapM {good : β → Prop} {f : α → StateT σ (Except Trouble) β} {items : List α}
    (h : ∀ a ∈ items, EndsFrom start (fun b s => start s ∧ good b) bad (f a)) :
    EndsFrom start (fun answers s => start s ∧ ∀ b ∈ answers, good b) bad (items.mapM f) := by
  induction items with
  | nil => exact .pure fun s hs => ⟨hs, List.forall_mem_nil good⟩
  | cons a rest ih =>
    rw [List.mapM_cons]
    have hrest := ih fun c hc => h c (List.mem_cons_of_mem a hc)
    refine (h a List.mem_cons_self).bind fun b => .of_and fun hb => ?_
    exact hrest.bind fun bs => .pure fun s hs => ⟨hs.1, List.forall_mem_cons.2 ⟨hb, hs.2⟩⟩

/-- A computation on each item of a list keeps what it keeps on one. -/
theorem mapM_keeps {f : α → StateT σ (Except Trouble) β} {items : List α}
    (h : ∀ a, EndsFrom start (fun _ => start) bad (f a)) :
    EndsFrom start (fun _ => start) bad (items.mapM f) := by
  have hall (a : α) : EndsFrom start (fun _ s => start s ∧ True) bad (f a) :=
    (h a).mono fun _ _ hs => ⟨hs, trivial⟩
  exact (EndsFrom.mapM fun a _ => hall a).mono fun _ _ hs => hs.1

end EndsFrom

end Conform.Document
