import Conform.Proofs.Settings.Application
import Mathlib.Data.List.TakeWhile

/-!
# Functions that paths name

A path names a function if the module before its last dot is there and has a callable member under
the name after that dot (`Modules.Declares`). A module is there if it loads and so does the module
above it (`Modules.Offers`).

* `splitPath?_eq_some_iff`: where a path is cut.
* `Modules.importModule_eq_ok_iff`: importing a module by its parts is finding it there.
* `Modules.importModule_error`: what stops an import.
* `Act.loadFunction_answers`: what loading the function of any path comes to.
-/

namespace Conform

/-! ## Cutting paths -/

namespace Text

/-- A text without the separator is its only part. -/
theorem partsAt_of_not_mem {separator : Char} {cs : List Char} (h : separator ∉ cs) :
    partsAt separator cs = [cs] := by
  induction cs with
  | nil => rfl
  | cons c rest ih =>
    obtain ⟨hc, hrest⟩ := not_or.1 (mt List.mem_cons.2 h)
    rw [partsAt, if_neg (Ne.symm hc), ih hrest]

/-- What follows the last separator is the last part. -/
theorem partsAt_append {separator : Char} (cs : List Char) {part : List Char}
    (h : separator ∉ part) :
    partsAt separator (cs ++ separator :: part) = partsAt separator cs ++ [part] := by
  induction cs with
  | nil => simp [partsAt, partsAt_of_not_mem h]
  | cons c rest ih =>
    rw [List.cons_append, partsAt, partsAt, ih]
    split
    · rfl
    · cases hparts : partsAt separator rest with
      | nil => exact absurd hparts (partsAt_ne_nil separator rest)
      | cons first others => rfl

/-- The parts of a string that ends with a part after a dot. -/
theorem split_append (before : String) {part : String} (h : '.' ∉ part.toList) :
    split '.' (before ++ "." ++ part) = split '.' before ++ [part] := by
  have hchars : (before ++ "." ++ part).toList = before.toList ++ '.' :: part.toList := by
    simp
  rw [split, hchars, partsAt_append _ h, List.map_append, List.map_singleton, String.ofList_toList]
  rfl

/-- The parts of a string without a dot. -/
theorem split_of_not_mem {name : String} (h : '.' ∉ name.toList) : split '.' name = [name] := by
  rw [split, partsAt_of_not_mem h, List.map_singleton, String.ofList_toList]

end Text

/-- A path is the name of a module, a dot, and the name of a member, which follows the last dot. -/
structure IsPathOf (path module member : String) : Prop where
  joined : path = module ++ "." ++ member
  last : '.' ∉ member.toList

/-- Every path with a dot has a last one. -/
theorem exists_isPathOf {path : String} (h : '.' ∈ path.toList) :
    ∃ module member, IsPathOf path module member := by
  -- The last dot is the first one from behind.
  obtain ⟨member, module, hreversed, hnot⟩ :=
    List.eq_append_cons_of_mem (List.mem_reverse.2 h)
  refine ⟨String.ofList module.reverse, String.ofList member.reverse, ?_, by simpa using hnot⟩
  have hchars : path.toList = module.reverse ++ '.' :: member.reverse := by
    rw [← List.reverse_reverse path.toList, hreversed]
    simp
  rw [← String.toList_inj, hchars]
  simp

/-- A path is cut at its last dot. -/
theorem IsPathOf.splitPath?_eq {path module member : String} (h : IsPathOf path module member) :
    splitPath? path = some (module, member) := by
  have hreversed : path.toList.reverse =
      member.toList.reverse ++ '.' :: module.toList.reverse := by
    rw [h.joined]
    simp
  have hplain : ∀ c ∈ member.toList.reverse, decide (c ≠ '.') = true := by
    intro c hc
    have : c ≠ '.' := by
      rintro rfl
      exact h.last (List.mem_reverse.1 hc)
    simpa using this
  simp only [splitPath?]
  rw [hreversed, List.takeWhile_append_of_pos hplain, List.dropWhile_append_of_pos hplain]
  simp

/-- A path is cut in one way. -/
theorem IsPathOf.unique {path module member module' member' : String}
    (h : IsPathOf path module member) (h' : IsPathOf path module' member') :
    module = module' ∧ member = member' :=
  Prod.mk.inj (Option.some.inj (h.splitPath?_eq.symm.trans h'.splitPath?_eq))

/-- A path without a dot cannot be cut. -/
theorem splitPath?_of_not_mem {path : String} (h : '.' ∉ path.toList) : splitPath? path = none := by
  have hnone : path.toList.reverse.dropWhile (fun c => decide (c ≠ '.')) = [] := by
    rw [List.dropWhile_eq_nil_iff]
    intro c hc
    have hne : c ≠ '.' := by
      rintro rfl
      exact h (List.mem_reverse.1 hc)
    simpa using hne
  simp only [splitPath?]
  rw [hnone]

theorem splitPath?_eq_some_iff {path module member : String} :
    splitPath? path = some (module, member) ↔ IsPathOf path module member := by
  refine ⟨fun h => ?_, IsPathOf.splitPath?_eq⟩
  by_cases hdot : '.' ∈ path.toList
  · obtain ⟨module', member', hpath⟩ := exists_isPathOf hdot
    obtain ⟨rfl, rfl⟩ := Prod.mk.inj (Option.some.inj (hpath.splitPath?_eq.symm.trans h))
    exact hpath
  · rw [splitPath?_of_not_mem hdot] at h
    cases h

/-- A name is without a dot, or what follows its last dot is a name inside another. -/
theorem dottedInduction {P : String → Prop} (top : ∀ name, '.' ∉ name.toList → P name)
    (inside : ∀ parent part, '.' ∉ part.toList → P parent → P (parent ++ "." ++ part))
    (name : String) : P name := by
  induction hlength : name.length using Nat.strongRecOn generalizing name with
  | ind length ih =>
    by_cases hdot : '.' ∈ name.toList
    · obtain ⟨parent, part, rfl, hpart⟩ := exists_isPathOf hdot
      refine inside parent part hpart (ih parent.length ?_ parent rfl)
      have hdots : ".".length = 1 := rfl
      rw [← hlength, String.length_append, String.length_append, hdots]
      omega
    · exact top name hdot

/-- A path starts as the name of the module in it does, if that is not empty. -/
theorem head?_append_dot {module : String} (h : module ≠ "") (member : String) :
    (module ++ "." ++ member).toList.head? = module.toList.head? := by
  have hchars : (module ++ "." ++ member).toList = module.toList ++ '.' :: member.toList := by
    simp
  obtain ⟨c, rest, hmodule⟩ := List.exists_cons_of_ne_nil (mt String.toList_eq_nil_iff.1 h)
  rw [hchars, hmodule]
  rfl

/-! ## Modules -/

namespace Modules

variable {modules : Modules} {name parent part : String} {members others : List (String × Value)}

/-- A module with members is there: it loads, and the module above it, if there is one, is there as
well. -/
inductive Offers (modules : Modules) : String → List (String × Value) → Prop where
  | top {name : String} {isPackage : Bool} {members : List (String × Value)} (hne : name ≠ "")
    (hname : '.' ∉ name.toList) (hload : modules.lookup name = some (.loads isPackage members)) :
    Offers modules name members
  | inside {parent part : String} {isPackage : Bool} {members others : List (String × Value)}
    (habove : Offers modules parent others) (hpart : '.' ∉ part.toList)
    (hload : modules.lookup (parent ++ "." ++ part) = some (.loads isPackage members)) :
    Offers modules (parent ++ "." ++ part) members

/-- The name of a module that is there is not empty and does not start with a dot. -/
theorem Offers.wellNamed (h : Offers modules name members) :
    name ≠ "" ∧ name.toList.head? ≠ some '.' := by
  induction h with
  | top hne hname _ =>
    refine ⟨hne, fun hhead => hname ?_⟩
    exact List.mem_of_head? hhead
  | inside _ _ _ ih =>
    obtain ⟨hne, hhead⟩ := ih
    rw [head?_append_dot hne]
    exact ⟨by simp, hhead⟩

/-- A module without a dot in its name is there if it loads. -/
theorem offers_iff_of_not_mem (hne : name ≠ "") (hname : '.' ∉ name.toList) :
    Offers modules name members ↔
      ∃ isPackage, modules.lookup name = some (.loads isPackage members) := by
  refine ⟨fun h => ?_, fun ⟨_, hload⟩ => .top hne hname hload⟩
  cases h with
  | top _ _ hload => exact ⟨_, hload⟩
  | inside _ _ _ => simp at hname

/-- A module inside another is there if it loads and the other is there. -/
theorem offers_inside_iff (hpart : '.' ∉ part.toList) :
    Offers modules (parent ++ "." ++ part) members ↔
      (∃ others, Offers modules parent others) ∧
        ∃ isPackage, modules.lookup (parent ++ "." ++ part) = some (.loads isPackage members) := by
  refine ⟨fun h => ?_, fun ⟨⟨_, habove⟩, _, hload⟩ => .inside habove hpart hload⟩
  generalize hname : parent ++ "." ++ part = name at h
  cases h with
  | top _ hdot _ =>
    rw [← hname] at hdot
    simp at hdot
  | @inside parent' part' _ _ _ habove hpart' hload =>
    have hpath : IsPathOf (parent' ++ "." ++ part') parent' part' := ⟨rfl, hpart'⟩
    have hpath' : IsPathOf (parent' ++ "." ++ part') parent part := ⟨hname.symm, hpart⟩
    obtain ⟨rfl, -⟩ := hpath'.unique hpath
    exact ⟨⟨_, habove⟩, _, hload⟩

/-! ## Imports -/

/-- The name of a part of a module, and of a module at the top. -/
def nameBelow : Option String → String → String
  | some parent, part => parent ++ "." ++ part
  | none, part => part

/-- The name that parts lead to, below a module or at the top. -/
def nameAfter (parent : Option String) : List String → String → String
  | [], last => nameBelow parent last
  | part :: rest, last => nameAfter (some (nameBelow parent part)) rest last

/-- One more part leads one module further. -/
theorem nameAfter_concat (parent : Option String) (parts : List String) (part last : String) :
    nameAfter parent (parts ++ [part]) last = nameAfter parent parts part ++ "." ++ last := by
  induction parts generalizing parent with
  | nil => rfl
  | cons first rest ih => exact ih _

/-- The parts of a name lead to the name. -/
theorem exists_split_eq (name : String) :
    ∃ parts last, Text.split '.' name = parts ++ [last] ∧ nameAfter none parts last = name := by
  induction name using dottedInduction with
  | top name hname => exact ⟨[], name, Text.split_of_not_mem hname, rfl⟩
  | inside parent part hpart ih =>
    obtain ⟨parts, last, hsplit, hname⟩ := ih
    refine ⟨parts ++ [last], part, by rw [Text.split_append parent hpart, hsplit], ?_⟩
    rw [nameAfter_concat, hname]

/-- Importing the modules that parts run through is looking each of them up. -/
theorem importParts_cons (modules : Modules) (parent : Option (String × Bool))
    (members : List (String × Value)) (part : String) (rest : List String) :
    importParts modules parent members (part :: rest) =
      match modules.lookup (nameBelow (parent.map Prod.fst) part) with
      | none => .error (.notFound
          (missingReason (nameBelow (parent.map Prod.fst) part) parent))
      | some (.lacks reason) => .error (.notFound reason)
      | some (.crashes message) => .error (.crashed message)
      | some (.loads isPackage members) =>
        importParts modules (some (nameBelow (parent.map Prod.fst) part, isPackage)) members
          rest := by
  rcases parent with _ | ⟨above, isPackage⟩ <;> rfl

/-- The last of several modules is imported if those before it are and if it loads. -/
theorem importParts_concat_eq_ok_iff (parent : Option (String × Bool))
    (start : List (String × Value)) (parts : List String) (last : String) :
    importParts modules parent start (parts ++ [last]) = .ok members ↔
      (∃ others, importParts modules parent start parts = .ok others) ∧
        ∃ isPackage, modules.lookup (nameAfter (parent.map Prod.fst) parts last) =
          some (.loads isPackage members) := by
  induction parts generalizing parent start with
  | nil =>
    rw [List.nil_append, importParts_cons, nameAfter]
    have hstart : ∃ others, importParts modules parent start [] = .ok others :=
      ⟨start, by simp [importParts]⟩
    rw [and_iff_right hstart]
    cases hlookup : modules.lookup (nameBelow (parent.map Prod.fst) last) with
    | none => simp
    | some found => cases found <;> simp [importParts]
  | cons first rest ih =>
    rw [List.cons_append, importParts_cons, importParts_cons, nameAfter]
    split
    · simp
    · simp
    · simp
    · exact ih _ _

/-- Importing a module by the parts of its name is finding it there. -/
theorem importModule_eq_ok_iff (modules : Modules) (name : String) :
    importModule modules name = .ok members ↔ Offers modules name members := by
  by_cases hne : name = ""
  · subst hne
    exact ⟨fun h => (by cases h), fun h => absurd rfl h.wellNamed.1⟩
  by_cases hhead : name.toList.head? = some '.'
  · have hfault : importModule modules name = .error (.fault .typeMismatch) := by
      simp [importModule, hne, hhead]
    rw [hfault]
    exact ⟨fun h => (by cases h), fun h => absurd hhead h.wellNamed.2⟩
  have himport : importModule modules name = importParts modules none [] (Text.split '.' name) := by
    simp [importModule, hne, hhead]
  rw [himport]
  clear himport
  -- A module inside another is imported after the other, so the induction goes down from the last dot.
  induction name using dottedInduction generalizing members with
  | top name hname =>
    rw [Text.split_of_not_mem hname, offers_iff_of_not_mem hne hname]
    refine (importParts_concat_eq_ok_iff none [] [] name).trans (and_iff_right ⟨[], ?_⟩)
    rw [importParts]
  | inside parent part hpart ih =>
    have hparent : parent ≠ "" := by
      rintro rfl
      exact hhead (by simp)
    rw [head?_append_dot hparent] at hhead
    obtain ⟨parts, last, hsplit, hname⟩ := exists_split_eq parent
    rw [Text.split_append parent hpart, importParts_concat_eq_ok_iff, offers_inside_iff hpart]
    have habove : (∃ others, importParts modules none [] (Text.split '.' parent) = .ok others) ↔
        ∃ others, Offers modules parent others :=
      exists_congr fun others => ih hparent hhead
    rw [habove, hsplit, Option.map_none, nameAfter_concat, hname]

/-- No module raises an error of its own while it is imported. -/
def Quiet (modules : Modules) : Prop := ∀ name message, modules.lookup name ≠ some (.crashes message)

/-- What stops an import is that a module is not found. -/
theorem importParts_error (hquiet : modules.Quiet) {parent : Option (String × Bool)}
    {start : List (String × Value)} {parts : List String} {problem : Problem}
    (h : importParts modules parent start parts = .error problem) :
    ∃ reason, problem = .notFound reason := by
  induction parts generalizing parent start with
  | nil => simp [importParts] at h
  | cons part rest ih =>
    rw [importParts_cons] at h
    split at h
    · exact ⟨_, (Except.error.inj h).symm⟩
    · exact ⟨_, (Except.error.inj h).symm⟩
    · rename_i message hlookup
      exact absurd hlookup (hquiet _ message)
    · exact ih h

/-- What stops the import of a module whose name is not empty and does not start with a dot is that
a module is not found. -/
theorem importModule_error (hquiet : modules.Quiet) (hne : name ≠ "")
    (hhead : name.toList.head? ≠ some '.') {problem : Problem}
    (h : importModule modules name = .error problem) : ∃ reason, problem = .notFound reason := by
  unfold importModule at h
  rw [if_neg (by simpa using hne), if_neg hhead] at h
  exact importParts_error hquiet h

/-- A path names a function: it is a callable member of a module that is there, and what follows the
last dot is its name. -/
def Names (modules : Modules) (path : String) (function : Value) : Prop :=
  ∃ module member members, IsPathOf path module member ∧ Offers modules module members ∧
    members.lookup member = some function ∧ function.isCallable = true

/-- What a path names is told by the module and the member that it is cut into. -/
theorem names_iff {path member : String} (hpath : IsPathOf path name member) {function : Value} :
    modules.Names path function ↔
      ∃ members, Offers modules name members ∧ members.lookup member = some function ∧
        function.isCallable = true := by
  refine ⟨?_, fun ⟨members, h⟩ => ⟨name, member, members, hpath, h⟩⟩
  rintro ⟨name', member', members, hpath', h⟩
  obtain ⟨rfl, rfl⟩ := hpath'.unique hpath
  exact ⟨members, h⟩

end Modules

/-! ## Loading functions -/

namespace Act

variable {modules : Modules} {path module member : String}

/-- The member that a path is cut into is loaded if it is what the path names. -/
theorem loadMember_eq_ok_iff (hpath : IsPathOf path module member) {function : Value} :
    loadMember modules path module member = .ok function ↔ modules.Names path function := by
  rw [Modules.names_iff hpath]
  simp only [← Modules.importModule_eq_ok_iff]
  unfold loadMember
  cases modules.importModule module with
  | error problem => cases problem <;> simp
  | ok members =>
    -- A member that is absent counts as no member.
    constructor
    · intro h
      refine ⟨members, rfl, ?_⟩
      dsimp only at h
      split at h
      · cases h
      · cases h
      · rename_i found _ hlookup
        split_ifs at h with hcallable
        obtain rfl := Except.ok.inj h
        exact ⟨hlookup, hcallable⟩
    · rintro ⟨members', hmembers, hlookup, hcallable⟩
      obtain rfl := Except.ok.inj hmembers
      dsimp only
      rw [hlookup]
      cases function with
      | null => cases hcallable
      | _ => exact if_pos hcallable

/-- What keeps a member of a well-named module from being loaded is a problem with the path. -/
theorem loadMember_error (hquiet : modules.Quiet) (hne : module ≠ "")
    (hhead : module.toList.head? ≠ some '.') {f : Failure}
    (h : loadMember modules path module member = .error f) :
    ∃ problem, f = .configuration problem ∧ problem.IsAbout path := by
  unfold loadMember at h
  cases himport : modules.importModule module with
  | error problem =>
    obtain ⟨reason, rfl⟩ := Modules.importModule_error hquiet hne hhead himport
    rw [himport] at h
    obtain rfl := Except.error.inj h
    exact ⟨.importFailed path reason, rfl, rfl⟩
  | ok members =>
    rw [himport] at h
    dsimp only at h
    split at h
    · exact ⟨.memberMissing member module path, (Except.error.inj h).symm, rfl⟩
    · exact ⟨.memberMissing member module path, (Except.error.inj h).symm, rfl⟩
    · split_ifs at h
      exact ⟨.notCallable path, (Except.error.inj h).symm, rfl⟩

/-- Loading the function of a path that starts with a dot is a fault. -/
theorem loadMember_of_dot (modules : Modules) (hpath : IsPathOf path module member)
    (hhead : path.toList.head? = some '.') :
    loadMember modules path module member =
      .error (.fault (if '.' ∈ path.toList.tail then .typeMismatch else .badValue)) := by
  -- The first dot is the last one, or the name of the module starts with it.
  by_cases hne : module = ""
  · subst hne
    have htail : path.toList.tail = member.toList := by
      rw [hpath.joined]
      simp
    rw [htail, if_neg hpath.last]
    rfl
  · rw [hpath.joined, head?_append_dot hne] at hhead
    have htail : '.' ∈ path.toList.tail := by
      obtain ⟨c, rest, hmodule⟩ := List.exists_cons_of_ne_nil (mt String.toList_eq_nil_iff.1 hne)
      rw [hpath.joined]
      simp [hmodule]
    have hfault : modules.importModule module = .error (.fault .typeMismatch) := by
      simp [Modules.importModule, hne, hhead]
    rw [if_pos htail, loadMember, hfault]

/-- Loading the function of a path is loading the member that the path is cut into. -/
theorem exec_loadFunction_of_isPathOf (modules : Modules) (hpath : IsPathOf path module member)
    (s : Session) :
    (loadFunction modules (.text path)).exec s = (loadMember modules path module member, s) := by
  unfold loadFunction
  simp only [hpath.splitPath?_eq]
  exact exec_ofExcept s _

/-- A path without a dot is a problem with settings. -/
theorem exec_loadFunction_of_not_mem (modules : Modules) (hdot : '.' ∉ path.toList) (s : Session) :
    (loadFunction modules (.text path)).exec s =
      (.error (.configuration (.malformedPath (.text path) path)), s) := by
  unfold loadFunction
  simp only [splitPath?_of_not_mem hdot]
  rfl

/-- What loading the function of a path comes to, where no module raises an error of its own. The
answer is the function that the path names. A path that starts with a dot is a fault: the name of
its module is empty, or it starts with a dot. Any other path that names no function is a problem
with settings, which carries the path. -/
theorem loadFunction_answers (hquiet : modules.Quiet) (path : String) (s : Session) :
    (∀ function, (loadFunction modules (.text path)).exec s = (.ok function, s) ↔
      modules.Names path function) ∧
    ((∃ problem, (loadFunction modules (.text path)).exec s = (.error (.configuration problem), s) ∧
        problem.IsAbout path) ↔
      path.toList.head? ≠ some '.' ∧ ¬ ∃ function, modules.Names path function) ∧
    (path.toList.head? = some '.' →
      (loadFunction modules (.text path)).exec s =
        (.error (.fault (if '.' ∈ path.toList.tail then .typeMismatch else .badValue)), s)) := by
  by_cases hdot : '.' ∈ path.toList
  case neg =>
    have hhead : path.toList.head? ≠ some '.' := fun hhead => hdot (List.mem_of_head? hhead)
    have hnot (function : Value) : ¬ modules.Names path function := by
      rintro ⟨module, member, members, hpath, -⟩
      exact hdot (by simp [hpath.joined])
    rw [exec_loadFunction_of_not_mem modules hdot]
    refine ⟨fun function => iff_of_false (fun h => ?_) (hnot function), iff_of_true ?_ ?_,
      fun h => absurd h hhead⟩
    · cases h
    · exact ⟨_, rfl, rfl⟩
    · exact ⟨hhead, fun ⟨function, h⟩ => hnot function h⟩
  case pos =>
    obtain ⟨module, member, hpath⟩ := exists_isPathOf hdot
    rw [exec_loadFunction_of_isPathOf modules hpath]
    have hok (function : Value) :
        (loadMember modules path module member, s) = (.ok function, s) ↔
          modules.Names path function := by
      rw [← loadMember_eq_ok_iff hpath, Prod.mk.injEq, and_iff_left rfl]
    refine ⟨hok, ⟨?_, ?_⟩, fun hhead => by rw [loadMember_of_dot modules hpath hhead]⟩
    · rintro ⟨problem, hproblem, -⟩
      refine ⟨fun hhead => ?_, fun ⟨function, hnames⟩ => ?_⟩
      · rw [loadMember_of_dot modules hpath hhead] at hproblem
        cases hproblem
      · rw [(hok function).2 hnames] at hproblem
        cases hproblem
    -- Neither empty nor behind a dot, the name of the module is one that can be looked for.
    · rintro ⟨hhead, hnot⟩
      have hne : module ≠ "" := by
        rintro rfl
        exact hhead (by simp [hpath.joined])
      have hhead' : module.toList.head? ≠ some '.' := by
        rwa [← head?_append_dot hne member, ← hpath.joined]
      cases hmember : loadMember modules path module member with
      | ok function => exact absurd ⟨function, (loadMember_eq_ok_iff hpath).1 hmember⟩ hnot
      | error f =>
        obtain ⟨problem, rfl, habout⟩ := loadMember_error hquiet hne hhead' hmember
        exact ⟨problem, rfl, habout⟩

/-- In modules of which one has one function, the path of the function is loaded, a name that the
module does not have is a problem with settings, and so is one without a module; a path that starts
with a dot is a fault. -/
theorem loadFunction_answers_fixtures :
    (loadFunction fixtures (.text "fixtures.is_even")).exec .initial = (.ok isEven, .initial) ∧
    (∃ problem, (loadFunction fixtures (.text "fixtures.")).exec .initial =
        (.error (.configuration problem), .initial) ∧ problem.IsAbout "fixtures.") ∧
    (loadFunction fixtures (.text ".is_even")).exec .initial =
      (.error (.fault .badValue), .initial) ∧
    (loadFunction fixtures (.text ".fixtures.is_even")).exec .initial =
      (.error (.fault .typeMismatch), .initial) := by
  have hquiet : fixtures.Quiet := by
    intro name message
    rw [fixtures, List.lookup_cons]
    split <;> simp
  have hnames : fixtures.Names "fixtures.is_even" isEven :=
    ⟨"fixtures", "is_even", _, ⟨rfl, by decide⟩, .top (by decide) (by decide) rfl, rfl, rfl⟩
  have hnot : ¬ ∃ function, fixtures.Names "fixtures." function := by
    rintro ⟨function, hfunction⟩
    have hpath : IsPathOf "fixtures." "fixtures" "" := ⟨rfl, by decide⟩
    obtain ⟨members, hoffers, hlookup, -⟩ := (Modules.names_iff hpath).1 hfunction
    obtain ⟨isPackage, hload⟩ :=
      (Modules.offers_iff_of_not_mem (by decide) (by decide)).1 hoffers
    obtain ⟨-, rfl⟩ := Import.loads.inj (Option.some.inj hload)
    cases hlookup
  refine ⟨((loadFunction_answers hquiet _ _).1 _).2 hnames,
    (loadFunction_answers hquiet _ _).2.1.2 ⟨by decide, hnot⟩,
    (loadFunction_answers hquiet _ _).2.2 (by decide),
    (loadFunction_answers hquiet _ _).2.2 (by decide)⟩

end Act

end Conform
