import Conform.Document.Yaml.Token
import Conform.Proofs.Document.Endings

/-!
# Cutting texts into tokens

What cutting the text of a document into tokens comes to, whatever the text (`Token.ofLoaded_spec`).
It stops at its end or at a trouble: the text is malformed there, or a quoted scalar names a code
point that no character has. The token for the end is only found in a text that is all of the
document (`Lexer.Continues`).
-/

namespace Conform.Document.Yaml

/-- Cutting a text stops where it is malformed or where a code point is too large. -/
abbrev Lexical : Trouble → Prop := Trouble.Among [.overflow, .badValue]

/-- A computation whose troubles are those of cutting a text. -/
abbrev Stops {α : Type} : Except Trouble α → Prop := Ends (fun _ => True) Lexical

theorem Stops.bind {α β : Type} {good : β → Prop} {x : Except Trouble α}
    {next : α → Except Trouble β} (hx : Stops x) (hnext : ∀ a, Ends good Lexical (next a)) :
    Ends good Lexical (x >>= next) :=
  Ends.bind hx fun a _ => hnext a

/-! ## Texts of scalars -/

namespace Quoted

/-- Past the last code point there is no character. -/
theorem stops_codeChar (code : Nat) : Stops (codeChar code) := by
  unfold codeChar
  -- Too large for a number of the machine, and too large for a character.
  split_ifs
  · exact List.mem_cons_self
  · exact List.mem_cons_of_mem _ List.mem_cons_self
  · trivial
  · trivial

theorem stops_breaks (fuel : Nat) (c : Cursor) : Stops (breaks fuel c) := by
  induction fuel generalizing c with
  | zero => trivial
  | succ fuel ih =>
    unfold breaks
    refine .ite (fun _ => trivial) fun _ => ?_
    dsimp only
    split
    · trivial
    · exact (ih _).bind fun _ => trivial

theorem stops_escape (c : Cursor) : Stops (escape c) := by
  unfold escape
  split
  · trivial
  split
  · trivial
  · split
    · exact .ite (fun _ => (stops_codeChar _).bind fun _ => trivial) fun _ => trivial
    · trivial
  · split
    · trivial
    · exact stops_breaks _ _

theorem stops_gap (c : Cursor) : Stops (gap c) := by
  unfold gap
  dsimp only
  split
  · trivial
  · trivial
  · exact (stops_breaks _ _).bind fun _ => trivial

theorem stops_scan (quote : Char) (fuel : Nat) (text : List Char) (c : Cursor) :
    Stops (scan quote fuel text c) := by
  induction fuel generalizing text c with
  | zero => trivial
  | succ fuel ih =>
    unfold scan
    split
    · trivial
    refine .ite (fun _ => .ite (fun _ => ih _ _) fun _ => trivial) fun _ => ?_
    refine .ite (fun _ => ih _ _) fun _ => ?_
    refine .ite (fun _ => ?_) fun _ => ?_
    · exact (stops_escape _).bind fun _ => ih _ _
    · exact (stops_gap _).bind fun _ => ih _ _

end Quoted

namespace Block

theorem stops_header (c : Cursor) : Stops (header c) :=
  .ite (fun _ => trivial) fun _ => trivial

theorem stops_headerEnd (c : Cursor) : Stops (headerEnd c) :=
  .ite (fun _ => trivial) fun _ => trivial

theorem stops_scan (folded : Bool) (indent : Int) (c : Cursor) : Stops (scan folded indent c) :=
  (stops_header c).bind fun _ => (stops_headerEnd _).bind fun _ => trivial

end Block

namespace Lexer

/-! ## Directives and tags -/

theorem stops_versionNumber (c : Cursor) : Stops (versionNumber c) :=
  .ite (fun _ => trivial) fun _ => trivial

theorem stops_handle (c : Cursor) : Stops (handle c) :=
  .ite (fun _ => trivial) fun _ => .ite (fun _ => trivial) fun _ =>
    .ite (fun _ => trivial) fun _ => trivial

theorem stops_percentBytes (fuel : Nat) (c : Cursor) : Stops (percentBytes fuel c) := by
  induction fuel generalizing c with
  | zero => trivial
  | succ fuel ih =>
    unfold percentBytes
    split
    · split
      · exact (ih _).bind fun _ => trivial
      · trivial
    · trivial
    · trivial

theorem stops_uriChars (fuel : Nat) (c : Cursor) : Stops (uriChars fuel c) := by
  induction fuel generalizing c with
  | zero => trivial
  | succ fuel ih =>
    unfold uriChars
    refine .ite (fun _ => ?_) fun _ => ?_
    · refine (stops_percentBytes _ _).bind fun ⟨bytes, after⟩ => ?_
      dsimp only
      split
      · trivial
      · exact (ih _).bind fun _ => trivial
    · exact .ite (fun _ => (ih _).bind fun _ => trivial) fun _ => trivial

theorem stops_uri (c : Cursor) : Stops (uri c) :=
  (stops_uriChars _ _).bind fun _ => .ite (fun _ => trivial) fun _ => trivial

theorem stops_directiveEnd (c : Cursor) : Stops (directiveEnd c) :=
  .ite (fun _ => trivial) fun _ => trivial

/-- What a directive or a tag is cut to is not the end. -/
abbrev Cuts : Except Trouble (Token × Cursor) → Prop :=
  Ends (fun found => found.1 ≠ .streamEnd) Lexical

theorem cuts_directive (c : Cursor) : Cuts (directive c) := by
  unfold directive
  refine .ite (fun _ => trivial) fun _ => .ite (fun _ => ?_) fun _ => .ite (fun _ => ?_) fun _ => ?_
  · refine (stops_versionNumber _).bind fun ⟨major, c⟩ => .ite (fun _ => trivial) fun _ => ?_
    refine (stops_versionNumber _).bind fun _ => .ite (fun _ => ?_) fun _ => trivial
    exact Token.noConfusion
  · refine (stops_handle _).bind fun ⟨handle, c⟩ => .ite (fun _ => trivial) fun _ => ?_
    refine (stops_uri _).bind fun _ => .ite (fun _ => ?_) fun _ => trivial
    exact Token.noConfusion
  · exact Token.noConfusion

theorem cuts_tagToken (c : Cursor) : Cuts (tagToken c) := by
  unfold tagToken
  refine .ite (fun _ => ?_) fun _ => .ite (fun _ => ?_) fun _ => .ite (fun _ => ?_) fun _ => ?_
  · refine (stops_uri _).bind fun _ => .ite (fun _ => ?_) fun _ => trivial
    exact Token.noConfusion
  · exact Token.noConfusion
  · refine (stops_handle _).bind fun _ => (stops_uri _).bind fun _ => ?_
    exact Token.noConfusion
  · exact (stops_uri _).bind fun _ => Token.noConfusion

/-! ## Steps -/

/-- The lexer has gone on from one state to another, and has not found the end on the way. -/
structure Continues (s s' : Lexer) : Prop where
  /-- Whether the text is all of the document does not change. -/
  complete_eq : s'.complete = s.complete
  /-- The end is not among the tokens, unless it was before. -/
  of_end_mem : .streamEnd ∈ s'.tokens → .streamEnd ∈ s.tokens

namespace Continues

variable {s s' s'' : Lexer}

theorem of_tokens (hcomplete : s'.complete = s.complete) (htokens : s'.tokens = s.tokens) :
    Continues s s' := ⟨hcomplete, fun h => htokens ▸ h⟩

theorem trans (h : Continues s s') (h' : Continues s' s'') : Continues s s'' :=
  ⟨h'.complete_eq.trans h.complete_eq, fun hend => h.of_end_mem (h'.of_end_mem hend)⟩

theorem of_push {t : Token} (ht : t ≠ .streamEnd) (hcomplete : s'.complete = s.complete)
    (htokens : s'.tokens = s.tokens.push t) : Continues s s' := by
  refine ⟨hcomplete, fun hend => ?_⟩
  rw [htokens] at hend
  exact (Array.mem_push.1 hend).resolve_right fun heq => ht heq.symm

theorem of_insert {t : Token} {i : Nat} (ht : t ≠ .streamEnd) (hcomplete : s'.complete = s.complete)
    (htokens : s'.tokens = s.tokens.insertIdxIfInBounds i t) : Continues s s' := by
  refine ⟨hcomplete, fun hend => ?_⟩
  rw [htokens, Array.insertIdxIfInBounds] at hend
  split at hend
  · exact (Array.mem_insertIdx.1 hend).resolve_left fun heq => ht heq.symm
  · exact hend

end Continues

/-- A step of the lexer goes on or stops at a trouble. -/
abbrev GoesOn (s : Lexer) : Except Trouble Lexer → Prop := Ends (Continues s) Lexical

theorem GoesOn.bind {s : Lexer} {x : Except Trouble Lexer} {next : Lexer → Except Trouble Lexer}
    (hx : GoesOn s x) (hnext : ∀ s', GoesOn s' (next s')) : GoesOn s (x >>= next) :=
  Ends.bind hx fun s' hs' => (hnext s').mono fun _ => hs'.trans

theorem GoesOn.of_continues {s s' : Lexer} {x : Except Trouble Lexer} (h : Continues s s')
    (hx : GoesOn s' x) : GoesOn s x := hx.mono fun _ => h.trans

variable (s : Lexer)

theorem goesOn_dropPending : GoesOn s s.dropPending :=
  .ite (fun _ => trivial) fun _ => .of_tokens rfl rfl

theorem goesOn_markPending : GoesOn s s.markPending := by
  unfold markPending
  refine .ite (fun _ => ?_) fun _ => .of_tokens rfl rfl
  exact (goesOn_dropPending s).bind fun _ => .of_tokens rfl rfl

theorem goesOn_dropStale : GoesOn s s.dropStale :=
  .ite (fun _ => trivial) fun _ => .of_tokens rfl rfl

/-- Closing block collections adds a token for each of them. -/
theorem continues_closeBelow (column : Int) : Continues s (s.closeBelow column) := by
  unfold closeBelow
  split_ifs
  · exact .of_tokens rfl rfl
  · refine ⟨rfl, fun hend => ?_⟩
    dsimp only at hend
    -- By induction on the collections that are closed, whatever tokens are there before.
    generalize s.indents.takeWhile _ = closed at hend
    generalize s.tokens = tokens at hend ⊢
    induction closed generalizing tokens with
    | nil => exact hend
    | cons column rest ih =>
      exact (Array.mem_push.1 (ih _ hend)).resolve_right Token.noConfusion

theorem continues_openHere {start : Token} (hstart : start ≠ .streamEnd) :
    Continues s (s.openHere start) := by
  unfold openHere
  split_ifs
  · exact .of_push hstart rfl rfl
  · exact .of_tokens rfl rfl

theorem continues_insertKey (k : PendingKey) : Continues s (s.insertKey k) := by
  have hkey : Continues s { s with tokens := s.tokens.insertIdxIfInBounds k.tokens .key } :=
    .of_insert Token.noConfusion rfl rfl
  unfold insertKey
  dsimp only
  split_ifs
  · exact hkey.trans (.of_insert Token.noConfusion rfl rfl)
  · exact hkey

theorem goesOn_closed : GoesOn s (s.closeBelow (-1)).dropPending :=
  .of_continues (continues_closeBelow s _) (goesOn_dropPending _)

theorem goesOn_readDirective : GoesOn s s.readDirective := by
  refine (goesOn_closed s).bind fun s' => (cuts_directive _).bind fun found hfound => ?_
  exact (stops_directiveEnd _).bind fun _ => .of_push hfound rfl rfl

theorem goesOn_readMarker {token : Token} (htoken : token ≠ .streamEnd) :
    GoesOn s (s.readMarker token) :=
  (goesOn_closed s).bind fun _ => .of_push htoken rfl rfl

theorem goesOn_readFlowStart {token : Token} (htoken : token ≠ .streamEnd) :
    GoesOn s (s.readFlowStart token) :=
  (goesOn_markPending s).bind fun _ => .of_push htoken rfl rfl

theorem goesOn_readFlowEnd {token : Token} (htoken : token ≠ .streamEnd) :
    GoesOn s (s.readFlowEnd token) :=
  (goesOn_dropPending s).bind fun _ =>
    .ite (fun _ => trivial) fun _ => .of_push htoken rfl rfl

theorem goesOn_readFlowEntry : GoesOn s s.readFlowEntry :=
  (goesOn_dropPending s).bind fun _ => .of_push Token.noConfusion rfl rfl

/-- An indicator of a block collection opens one where that is further in. -/
theorem goesOn_opened {start : Token} (hstart : start ≠ .streamEnd) :
    GoesOn s (if s.depth = 0 then s.openHere start else s).dropPending := by
  refine .of_continues ?_ (goesOn_dropPending _)
  split_ifs
  · exact continues_openHere s hstart
  · exact .of_tokens rfl rfl

theorem goesOn_readBlockEntry : GoesOn s s.readBlockEntry :=
  .ite (fun _ => trivial) fun _ =>
    (goesOn_opened s Token.noConfusion).bind fun _ => .of_push Token.noConfusion rfl rfl

theorem goesOn_readKey : GoesOn s s.readKey :=
  .ite (fun _ => trivial) fun _ =>
    (goesOn_opened s Token.noConfusion).bind fun _ => .of_push Token.noConfusion rfl rfl

theorem goesOn_readValue : GoesOn s s.readValue := by
  unfold readValue
  split
  · exact (continues_insertKey s _).trans (.of_push Token.noConfusion rfl rfl)
  · refine .ite (fun _ => trivial) fun _ => ?_
    exact (goesOn_opened s Token.noConfusion).bind fun _ => .of_push Token.noConfusion rfl rfl

theorem goesOn_readName {token : String → Token} (htoken : ∀ name, token name ≠ .streamEnd) :
    GoesOn s (s.readName token) :=
  (goesOn_markPending s).bind fun _ =>
    .ite (fun _ => trivial) fun _ => .of_push (htoken _) rfl rfl

theorem goesOn_readTag : GoesOn s s.readTag := by
  refine (goesOn_markPending s).bind fun s' => (cuts_tagToken _).bind fun found hfound => ?_
  exact .ite (fun _ => .of_push hfound rfl rfl) fun _ => trivial

theorem goesOn_readBlockScalar (folded : Bool) : GoesOn s (s.readBlockScalar folded) :=
  (goesOn_dropPending s).bind fun _ =>
    (Block.stops_scan _ _ _).bind fun _ => .of_push Token.noConfusion rfl rfl

theorem goesOn_readQuoted (quote : Char) : GoesOn s (s.readQuoted quote) :=
  (goesOn_markPending s).bind fun _ =>
    (Quoted.stops_scan _ _ _ _).bind fun _ => .of_push Token.noConfusion rfl rfl

theorem goesOn_readPlain : GoesOn s s.readPlain :=
  (goesOn_markPending s).bind fun _ => .of_push Token.noConfusion rfl rfl

/-- Reading the end moves nowhere. -/
theorem ends_readEnd :
    Ends (fun s' => s'.complete = s.complete ∧ s'.cursor = s.cursor) Lexical s.readEnd := by
  have hclosed : Ends (fun s' => s'.complete = s.complete ∧ s'.cursor = s.cursor) Lexical
      (s.closeBelow (-1)).dropPending := by
    refine .ite (fun _ => trivial) fun _ => ?_
    unfold closeBelow
    split_ifs <;> exact ⟨rfl, rfl⟩
  exact hclosed.bind fun _ h => h

/-- Reading a token does not find the end, unless nothing is left to read. -/
theorem ends_readToken :
    Ends (fun s' => Continues s s' ∨ s'.complete = s.complete ∧ s'.cursor.rest = []) Lexical
      s.readToken := by
  unfold readToken
  split
  next hnone =>
    refine (ends_readEnd s).mono fun s' ⟨hcomplete, hcursor⟩ => .inr ⟨hcomplete, ?_⟩
    rw [hcursor]
    exact List.head?_eq_none_iff.1 hnone
  next c _ =>
    dsimp only
    refine (?_ : GoesOn s _).mono fun _ => .inl
    have hmarker : (if c = '-' then Token.documentStart else .documentEnd) ≠ .streamEnd := by
      split_ifs <;> exact Token.noConfusion
    -- The kinds of tokens in the order in which they are tried.
    refine .ite (fun _ => goesOn_readDirective s) fun _ => ?_
    refine .ite (fun _ => goesOn_readMarker s hmarker) fun _ => ?_
    refine .ite (fun _ => goesOn_readFlowStart s Token.noConfusion) fun _ => ?_
    refine .ite (fun _ => goesOn_readFlowStart s Token.noConfusion) fun _ => ?_
    refine .ite (fun _ => goesOn_readFlowEnd s Token.noConfusion) fun _ => ?_
    refine .ite (fun _ => goesOn_readFlowEnd s Token.noConfusion) fun _ => ?_
    refine .ite (fun _ => goesOn_readFlowEntry s) fun _ => ?_
    refine .ite (fun _ => goesOn_readBlockEntry s) fun _ => ?_
    refine .ite (fun _ => goesOn_readKey s) fun _ => ?_
    refine .ite (fun _ => goesOn_readValue s) fun _ => ?_
    refine .ite (fun _ => goesOn_readName s fun _ => Token.noConfusion) fun _ => ?_
    refine .ite (fun _ => goesOn_readName s fun _ => Token.noConfusion) fun _ => ?_
    refine .ite (fun _ => goesOn_readTag s) fun _ => ?_
    refine .ite (fun _ => goesOn_readBlockScalar s false) fun _ => ?_
    refine .ite (fun _ => goesOn_readBlockScalar s true) fun _ => ?_
    refine .ite (fun _ => goesOn_readQuoted s c) fun _ => ?_
    exact .ite (fun _ => goesOn_readPlain s) fun _ => trivial

/-- A step goes on or stops at a trouble, or finds the end of a text that is all of the
document. -/
theorem ends_step :
    Ends (fun s' => s'.complete = s.complete ∧
      (s.complete = false → .streamEnd ∈ s'.tokens → .streamEnd ∈ s.tokens)) Lexical s.step := by
  have hplace : Continues s s.toNextPlace := .of_tokens rfl rfl
  have hnext : GoesOn s s.toNextPlace.dropStale := .of_continues hplace (goesOn_dropStale _)
  refine Ends.bind hnext fun s₁ hs₁ => ?_
  have hclosed := hs₁.trans (continues_closeBelow s₁ s₁.cursor.column)
  refine (ends_readToken _).bind fun s₂ hs₂ => ?_
  refine .ite (fun _ => trivial) fun hrest => ?_
  rcases hs₂ with hs₂ | ⟨hcomplete, hempty⟩
  · have h := hclosed.trans hs₂
    exact ⟨h.complete_eq, fun _ => h.of_end_mem⟩
  -- Nothing is left to read, which a step does not accept where the document goes on.
  · have hall := hcomplete.trans hclosed.complete_eq
    refine ⟨hall, fun hopen => absurd ?_ hrest⟩
    rw [hall, hopen, hempty]
    exact ⟨rfl, rfl⟩

/-- Reading all tokens stops at a trouble, and does not find the end of a text that is not all of
the document. -/
theorem readAll_spec (fuel : Nat) :
    Lexical (readAll fuel s).2 ∧
      (s.complete = false → .streamEnd ∉ s.tokens → .streamEnd ∉ (readAll fuel s).1.tokens) := by
  induction fuel generalizing s with
  | zero => exact ⟨trivial, fun _ h => h⟩
  | succ fuel ih =>
    rw [readAll]
    split_ifs with hend
    · exact ⟨trivial, fun _ h => h⟩
    have hstep := ends_step s
    cases hs' : s.step with
    | error t =>
      rw [hs'] at hstep
      exact ⟨hstep, fun _ h => h⟩
    | ok s' =>
      rw [hs'] at hstep
      -- What the rest finds is found from the state that the step leaves.
      obtain ⟨htrouble, htokens⟩ := ih s'
      refine ⟨htrouble, fun hopen hnone => htokens (hstep.1.trans hopen) fun h => ?_⟩
      exact hnone (hstep.2 hopen h)

end Lexer

/-- The tokens of a document end where its text does or at a trouble. Those of a text that is not
all of the document lack the end. -/
theorem Token.ofLoaded_spec (document : Loaded) :
    Lexical (Token.ofLoaded document).2 ∧
      (document.complete = false → .streamEnd ∉ (Token.ofLoaded document).1) := by
  obtain ⟨htrouble, htokens⟩ := Lexer.readAll_spec
    { cursor := { rest := document.text }, complete := document.complete }
    (document.text.length + 2)
  refine ⟨htrouble, fun hopen hend => ?_⟩
  -- The tokens that are settled are the first of those that were read.
  have hread := List.mem_of_mem_take hend
  exact htokens hopen (Array.not_mem_empty _) (Array.mem_toList_iff.1 hread)

end Conform.Document.Yaml
