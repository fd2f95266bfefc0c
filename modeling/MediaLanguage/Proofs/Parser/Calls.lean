import Mathlib
import MediaLanguage.Proofs.Parser.Taking
import MediaLanguage.Proofs.Token.Order

/-!
# Reading goes forward and ends at the end

* `Parse.Round`: a round over the statements of a text, which finds a statement or an error and is followed by
  another. It reads a token (`Parse.Round.length_lt`), and the run goes on where it leaves the cursor.
* `Parse.statements_induction`: what the statements of a run satisfy, from what each round adds to them.
* `Parse.rest_cursor`: a run that no number stops ends at the end of the text.
* `Call`: what can be asked of the reader of a text, and `TokenStream.visited`: where a sequence of calls leads it.
* `tokenize_progresses`: for every text and all calls, the index never falls, never exceeds that of the end, and is
  that of the end behind a run; no loop idles.
-/

open MediaLanguage.Parser

namespace MediaLanguage

/-! ## Rounds over statements -/

namespace Parse

/-- A round over the statements of a text leads from one cursor to another: behind a statement, or to where reading
goes on after an error. -/
inductive Round (start : Cursor) : Cursor → Prop
  | statement {s : Ast.Statement} {d : Cursor} : (start.skipWhile isDivider).rest ≠ [] →
      statement (start.skipWhile isDivider) = (.ok s, d) → Round start d
  | error {e : GrammarError} {d : Cursor} : (start.skipWhile isDivider).rest ≠ [] →
      statement (start.skipWhile isDivider) = (.error (.grammar e), d) → Round start d.synchronize

variable {c d : Cursor}

/-- A round reads a token. -/
theorem Round.length_lt (h : Round c d) : d.rest.length < c.rest.length := by
  have hskip := (c.reaches_skipWhile isDivider).length_le
  cases h with
  | statement hrest hrun =>
    have hlt := consumes_statement hrest _ _ hrun
    omega
  | @error e d hrest hrun =>
    have hback := (reaches_of_run hrun).length_le
    have hsync := d.length_synchronize
    have hpos := List.length_pos_iff.2 hrest
    omega

/-- Induction over the rounds of a run: each leaves fewer tokens. -/
theorem Round.induction {motive : Cursor → Prop} (h : ∀ c, (∀ d, Round c d → motive d) → motive c) (c : Cursor) :
    motive c := by
  induction hlen : c.rest.length using Nat.strong_induction_on generalizing c with
  | _ n ih =>
    subst hlen
    exact h c fun d hround => ih d.rest.length hround.length_lt d rfl

/-- A round moves forward. -/
theorem Round.reaches (h : Round c d) : c.Reaches d := by
  have hskip := c.reaches_skipWhile isDivider
  cases h with
  | statement _ hrun => exact hskip.trans (reaches_of_run hrun)
  | error _ hrun => exact (hskip.trans (reaches_of_run hrun)).trans (Cursor.reaches_synchronize _)

/-- The run goes on behind a round. -/
theorem Round.cursor_eq (h : Round c d) : (fromCursor c).cursor = (fromCursor d).cursor := by
  cases h with
  | statement hrest hrun =>
    rw [fromCursor_of_statement hrest hrun]
    rfl
  | error hrest hrun =>
    rw [fromCursor_of_grammar hrest hrun]
    rfl

/-- What stops the run stops it behind a round. -/
theorem Round.stopped_eq (h : Round c d) : (fromCursor c).stopped = (fromCursor d).stopped := by
  cases h with
  | statement hrest hrun =>
    rw [fromCursor_of_statement hrest hrun]
    rfl
  | error hrest hrun =>
    rw [fromCursor_of_grammar hrest hrun]
    rfl

/-- At every cursor a round follows, or the run is over: all tokens are read, or a number stops it. -/
theorem round_or_over (c : Cursor) :
    (∃ d, Round c d) ∨ (fromCursor c).cursor = c.skipWhile isDivider ∧ (c.skipWhile isDivider).rest = [] ∨
      c.Reaches (fromCursor c).cursor ∧ (fromCursor c).stopped ≠ none := by
  by_cases hrest : (c.skipWhile isDivider).rest = []
  · rw [fromCursor_of_empty hrest]
    exact .inr (.inl ⟨rfl, hrest⟩)
  rcases hrun : statement (c.skipWhile isDivider) with ⟨(e | e) | s, d⟩
  · exact .inl ⟨_, .error hrest hrun⟩
  · rw [fromCursor_of_conversion hrest hrun]
    exact .inr (.inr ⟨(c.reaches_skipWhile isDivider).trans (reaches_of_run hrun), nofun⟩)
  · exact .inl ⟨_, .statement hrest hrun⟩

/-- What the statements of a run satisfy: an error adds none, and a statement stands in front of those that the run
finds behind it. -/
theorem statements_induction {motive : Cursor → List Ast.Statement → Prop} (hover : ∀ c, motive c [])
    (herror : ∀ {c d nodes}, Round c d → motive d nodes → motive c nodes)
    (hstatement : ∀ {c node d nodes}, (c.skipWhile isDivider).rest ≠ [] →
      statement (c.skipWhile isDivider) = (.ok node, d) → motive d nodes → motive c (node :: nodes))
    (c : Cursor) : motive c (fromCursor c).statements := by
  induction c using Round.induction with
  | _ c ih =>
    by_cases hrest : (c.skipWhile isDivider).rest = []
    · rw [fromCursor_of_empty hrest]
      exact hover c
    rcases hrun : statement (c.skipWhile isDivider) with ⟨(e | e) | node, d⟩
    · rw [fromCursor_of_grammar hrest hrun]
      exact herror (.error hrest hrun) (ih _ (.error hrest hrun))
    · rw [fromCursor_of_conversion hrest hrun]
      exact hover c
    · rw [fromCursor_of_statement hrest hrun]
      exact hstatement hrest hrun (ih d (.statement hrest hrun))

/-- A run moves forward. -/
theorem reaches_cursor (c : Cursor) : c.Reaches (fromCursor c).cursor := by
  induction c using Round.induction with
  | _ c ih =>
    rcases round_or_over c with ⟨d, hround⟩ | ⟨hcursor, -⟩ | ⟨hreaches, -⟩
    · rw [hround.cursor_eq]
      exact hround.reaches.trans (ih d hround)
    · rw [hcursor]
      exact c.reaches_skipWhile isDivider
    · exact hreaches

/-- A run that no number stops reads all tokens. -/
theorem rest_cursor (c : Cursor) (h : (fromCursor c).stopped = none) : (fromCursor c).cursor.rest = [] := by
  induction c using Round.induction with
  | _ c ih =>
    rcases round_or_over c with ⟨d, hround⟩ | ⟨hcursor, hrest⟩ | ⟨-, hstopped⟩
    · rw [hround.cursor_eq]
      exact ih d hround (hround.stopped_eq ▸ h)
    · rw [hcursor]
      exact hrest
    · exact absurd h hstopped

end Parse

/-! ## Calls -/

/-- What can be asked of the reader of a text: a production or a step of one, to go on after an error, or a run over
the statements from where it stands. -/
inductive Call where
  | production {α : Type} (p : Parser α)
  | synchronize
  | parse

/-- Where a call leaves the cursor, whether it succeeds or fails. -/
def Call.move (c : Cursor) : Call → Cursor
  | .production p => (p c).2
  | .synchronize => c.synchronize
  | .parse => (Parse.fromCursor c).cursor

/-- A call moves forward. -/
theorem Call.reaches_move (c : Cursor) (call : Call) : c.Reaches (call.move c) := by
  cases call with
  | production p => exact p.forward c
  | synchronize => exact c.reaches_synchronize
  | parse => exact Parse.reaches_cursor c

/-- Everything that calls visit is reached from where they start. -/
theorem reaches_of_mem_scanl {c d : Cursor} {calls : List Call} (h : d ∈ calls.scanl Call.move c) : c.Reaches d := by
  induction calls generalizing c with
  | nil =>
    rw [List.scanl_nil, List.mem_singleton] at h
    exact h ▸ .refl c
  | cons call calls ih =>
    rw [List.scanl_cons, List.mem_cons] at h
    rcases h with rfl | h
    · exact .refl d
    · exact (call.reaches_move c).trans (ih h)

/-- Calls visit one cursor behind the other. -/
theorem pairwise_scanl (c : Cursor) (calls : List Call) : (calls.scanl Call.move c).Pairwise Cursor.Reaches := by
  induction calls generalizing c with
  | nil => simp
  | cons call calls ih =>
    rw [List.scanl_cons, List.pairwise_cons]
    exact ⟨fun d hd => (call.reaches_move c).trans (reaches_of_mem_scanl hd), ih _⟩

namespace TokenStream

/-- The cursors that calls visit, from the front of a text on. -/
def visited (s : TokenStream) (calls : List Call) : List Cursor :=
  calls.scanl Call.move (.ofStream s)

/-- The index of the first token that is the end. -/
def endIndex (s : TokenStream) : Nat :=
  s.withEnd.findIdx fun t => t.kind == .endOfInput

/-- The end is the last token of a text. -/
theorem endIndex_eq {s : TokenStream} (h : ∀ t ∈ s.tokens, t.kind ≠ .endOfInput) : s.endIndex = s.tokens.length := by
  have hnone : s.tokens.findIdx (fun t => t.kind == .endOfInput) = s.tokens.length := by
    rw [List.findIdx_eq_length]
    intro t ht
    simpa using h t ht
  rw [endIndex, withEnd, List.findIdx_append, hnone, if_neg (Nat.lt_irrefl _)]
  exact Nat.zero_add _

/-- Reading a text goes forward, and ends at its end. -/
structure Progresses (s : TokenStream) : Prop where
  /-- The end is one token, the last. -/
  finish : s.withEnd.countP (fun t => t.kind == .endOfInput) = 1 ∧ s.endIndex + 1 = s.withEnd.length
  /-- No call moves back. -/
  forward : ∀ calls, (s.visited calls).Pairwise fun c d => s.index c ≤ s.index d
  /-- No call moves beyond the end, and the token at the cursor is the one with its index. -/
  within : ∀ calls, ∀ c ∈ s.visited calls, s.index c ≤ s.endIndex ∧ s.withEnd[s.index c]? = some c.current
  /-- A run over the statements ends at the end, unless a number stops it. -/
  ends : ∀ calls, ∀ c ∈ s.visited calls, (Parse.fromCursor c).stopped = none →
    s.index (Parse.fromCursor c).cursor = s.endIndex
  /-- A round of a run reads a token, and the run goes on behind it; without a round the run is over. -/
  rounds : ∀ calls, ∀ c ∈ s.visited calls,
    (∀ d, Parse.Round c d → s.index c < s.index d ∧ (Parse.fromCursor c).cursor = (Parse.fromCursor d).cursor) ∧
      ((¬∃ d, Parse.Round c d) → s.index (Parse.fromCursor c).cursor = s.endIndex ∨
        (Parse.fromCursor c).stopped ≠ none)
  /-- A round of a loop of the grammar reads a token, ends the loop or fails; no test ends a loop that idles. -/
  loops : ∀ {β : Type} {closing : Mark} {round : Parser (List β × Bool)}, GrammarLoop closing round →
    Advances closing round ∧ Repeats round
  /-- What is skipped is skipped token by token. -/
  skips : (∀ p (c : Cursor), c.skipWhile p = if c.rest ≠ [] ∧ p c.current.kind then c.advance.skipWhile p else c) ∧
    ∀ depth (c : Cursor), c.rest ≠ [] → ∃ depth', closeBraces (depth + 1) c = closeBraces depth' c.advance
  /-- Expressions in expressions come to an end: no bound on their depth cuts them off. -/
  depth : ∀ n (c : Cursor), c.rest.length < n → expressionWithin n c = expression c

end TokenStream

section Source

variable {source : String} {s : TokenStream}

/-- Calls on the reader of a text move forward within its tokens, and no loop idles. -/
theorem tokenize_progresses (h : tokenize source = .ok s) : s.Progresses := by
  have hend : s.endIndex = s.tokens.length := TokenStream.endIndex_eq (kind_ne_endOfInput h)
  have hover : ∀ {c : Cursor}, c.rest = [] → s.index c = s.endIndex := by
    intro c hc
    rw [hend, TokenStream.index, hc, List.length_nil, Nat.sub_zero]
  refine ⟨⟨?_, ?_⟩, ?_, ?_, ?_, ?_, ?_, ⟨fun p c => c.skipWhile_eq p, ?_⟩, ?_⟩
  · have hnone : s.tokens.countP (fun t => t.kind == .endOfInput) = 0 := by
      rw [List.countP_eq_zero]
      intro t ht
      simpa using kind_ne_endOfInput h t ht
    rw [TokenStream.withEnd, List.countP_append, hnone]
    rfl
  · rw [hend, TokenStream.withEnd, List.length_append, List.length_singleton]
  · exact fun calls => (pairwise_scanl _ calls).imp TokenStream.index_le
  · intro calls c hc
    exact ⟨hend ▸ s.index_le_length c, TokenStream.getElem?_index (reaches_of_mem_scanl hc)⟩
  · exact fun calls c hc hstopped => hover (Parse.rest_cursor c hstopped)
  · intro calls c hc
    refine ⟨fun d hround => ⟨?_, hround.cursor_eq⟩, fun hnone => ?_⟩
    · exact TokenStream.index_lt (reaches_of_mem_scanl hc) hround.length_lt
    · rcases Parse.round_or_over c with hround | ⟨hcursor, hrest⟩ | ⟨-, hstopped⟩
      · exact absurd hround hnone
      · exact .inl (hover (hcursor ▸ hrest))
      · exact .inr hstopped
  · exact fun hloop => ⟨hloop.advances, repeats_of_advances hloop.advances⟩
  · exact fun depth c hrest => closeBraces_succ depth hrest
  · exact fun n c hlt => run_expressionWithin hlt

/-- A declaration that breaks off inside braces, and another one at which reading goes on. -/
theorem tokenize_progresses_broken : ∃ s, tokenize "unit u \x7b x\nlet" = .ok s ∧ s.Progresses := by
  have h : tokenize "unit u \x7b x\nlet" =
      .ok ⟨[⟨.keyword .unit, "unit", ⟨1, 1, 0⟩⟩, ⟨.identifier, "u", ⟨1, 6, 5⟩⟩, ⟨.mark .openBrace, "\x7b", ⟨1, 8, 7⟩⟩,
        ⟨.identifier, "x", ⟨1, 10, 9⟩⟩, ⟨.newline, "\n", ⟨1, 11, 10⟩⟩, ⟨.keyword .letVariable, "let", ⟨2, 1, 11⟩⟩],
        ⟨2, 4, 14⟩⟩ := by
    cbv
  exact ⟨_, h, tokenize_progresses h⟩

end Source

end MediaLanguage
