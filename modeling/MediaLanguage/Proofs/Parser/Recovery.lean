import MediaLanguage.Proofs.Parser.Located
import MediaLanguage.Proofs.Token.Leaves

/-!
# Errors of a run

After an error a run goes on behind the token that the error is about, so the errors of a run are about different
tokens, in the order of the text.

* `Parse.sublist_positions`: the places of the errors of a run are some of the places of its tokens, in their order.
* `Parse.exists_length_of_stopped`: what stops a run is the length of a text.
* `recovers_of_tokenize`: a run over a text whose lengths are finite fails exactly if it finds errors, with the first
  of them; each error is about a token, the end included, their offsets ascend, and no token has two.
-/

open MediaLanguage.Ast MediaLanguage.Parser

namespace MediaLanguage

/-! ## The tokens behind a cursor -/

namespace Cursor

variable {c d : Cursor}

/-- The tokens that are not yet read, and the end. -/
def withEnd (c : Cursor) : List Token :=
  c.rest ++ [Token.finish c.finish]

/-- The tokens behind a cursor that is reached are the last of those in front. -/
theorem Reaches.withEnd_suffix (h : c.Reaches d) : d.withEnd <:+ c.withEnd := by
  obtain ⟨front, hrest⟩ := h.rest
  exact ⟨front, by rw [withEnd, withEnd, ← hrest, h.finish, List.append_assoc]⟩

/-- The first of the tokens is the one at the cursor. -/
theorem withEnd_eq_cons (h : c.rest ≠ []) : c.withEnd = c.current :: c.advance.withEnd := by
  obtain ⟨_ | ⟨t, rest⟩, finish⟩ := c
  · exact absurd rfl h
  · rfl

/-- Going on after an error passes over the token at the cursor. -/
theorem reaches_advance_synchronize (c : Cursor) : c.advance.Reaches c.synchronize := by
  have hskip := c.advance.reaches_skipWhile fun k => !(k == .mark .semicolon || startsStatement k)
  unfold synchronize
  dsimp only
  split
  · exact hskip.trans (reaches_advance _)
  · exact hskip

end Cursor

/-! ## Runs -/

namespace Parse

/-- The places of the errors of a run are some of the places of its tokens, in their order. -/
theorem sublist_positions (c : Cursor) :
    ((fromCursor c).errors.map (·.position)).Sublist (c.withEnd.map (·.position)) := by
  induction c using Round.induction with
  | _ c ih =>
    have hskip := c.reaches_skipWhile isDivider
    by_cases hrest : (c.skipWhile isDivider).rest = []
    · rw [fromCursor_of_empty hrest]
      exact List.nil_sublist _
    rcases hrun : statement (c.skipWhile isDivider) with ⟨(e | e) | node, d⟩
    · rw [fromCursor_of_grammar hrest hrun]
      have hround : Round c d.synchronize := .error hrest hrun
      have hplace : e.position = d.current.position := by
        cases located_statement _ _ _ hrun with
        | grammar h => exact h
      have hsuffix := (hskip.trans (reaches_of_run hrun)).withEnd_suffix.sublist.map Token.position
      refine List.Sublist.trans ?_ hsuffix
      show (e.position :: (fromCursor d.synchronize).errors.map (·.position)).Sublist _
      rw [hplace]
      by_cases hd : d.rest = []
      · -- The error is about the end, and nothing follows it.
        have hnone : (d.synchronize.skipWhile isDivider).rest = [] := by
          have hlength := d.length_synchronize
          have hback := (d.synchronize.reaches_skipWhile isDivider).length_le
          rw [hd, List.length_nil] at hlength
          exact List.length_eq_zero_iff.1 (by omega)
        rw [fromCursor_of_empty hnone]
        simp [nothing, Cursor.withEnd, Cursor.current, Cursor.peek, hd]
      · rw [Cursor.withEnd_eq_cons hd]
        refine List.Sublist.cons_cons _ ((ih _ hround).trans ?_)
        exact d.reaches_advance_synchronize.withEnd_suffix.sublist.map _
    · rw [fromCursor_of_conversion hrest hrun]
      exact List.nil_sublist _
    · rw [fromCursor_of_statement hrest hrun]
      have hround : Round c d := .statement hrest hrun
      exact (ih d hround).trans (hround.reaches.withEnd_suffix.sublist.map _)

/-- What stops a run is the length of a text. -/
theorem exists_length_of_stopped {c : Cursor} {e : ConversionError} (h : (fromCursor c).stopped = some e) :
    ∃ x, WritesLength c.rest x ∧ x.conversionError? = some e := by
  induction c using Round.induction with
  | _ c ih =>
    have hskip := c.reaches_skipWhile isDivider
    by_cases hrest : (c.skipWhile isDivider).rest = []
    · rw [fromCursor_of_empty hrest] at h
      cases h
    have hround : ∀ {d}, Round c d → (fromCursor d).stopped = some e →
        ∃ x, WritesLength c.rest x ∧ x.conversionError? = some e := by
      intro d hround hstopped
      obtain ⟨x, hx, he⟩ := ih d hround hstopped
      exact ⟨x, hx.of_suffix hround.reaches.rest, he⟩
    rcases hrun : statement (c.skipWhile isDivider) with ⟨(f | f) | node, d⟩
    · rw [fromCursor_of_grammar hrest hrun] at h
      exact hround (.error hrest hrun) h
    · rw [fromCursor_of_conversion hrest hrun] at h
      cases h
      cases located_statement _ _ _ hrun with
      | conversion hx he => exact ⟨_, hx.of_suffix hskip.rest, he⟩
    · rw [fromCursor_of_statement hrest hrun] at h
      exact hround (.statement hrest hrun) h

/-- A run that nothing stops fails exactly if it finds errors, and with the first of them. -/
theorem result_eq_error_iff {r : Parse} (h : r.stopped = none) {e : Error} :
    r.result [] = .error e ↔ ∃ f, r.errors.head? = some f ∧ e = .grammar f := by
  obtain ⟨statements, errors, stopped, cursor⟩ := r
  dsimp only at h
  subst h
  cases errors with
  | nil => simp [result]
  | cons f errors => simp [result, eq_comm]

end Parse

/-! ## Texts -/

/-- A run over the tokens fails exactly if it finds errors, and its errors are about different tokens, in the order of
the text. -/
structure TokenStream.Recovers (s : TokenStream) : Prop where
  fails : (∃ e, s.parse.result [] = .error e) ↔ s.parse.errors ≠ []
  /-- The first error counts. -/
  first : ∀ e, s.parse.errors.head? = some e → s.parse.result [] = .error (.grammar e)
  /-- Each error is about a token, perhaps the end. -/
  placed : ∀ e ∈ s.parse.errors, ∃ t ∈ s.withEnd, e.position = t.position
  ascends : s.parse.errors.Pairwise fun e f => e.position.offset < f.position.offset
  /-- At most one error is about a token. -/
  single : ∀ t ∈ s.withEnd, s.parse.errors.countP (fun e => e.position = t.position) ≤ 1

section Source

variable {source : String} {s : TokenStream}

/-- Errors of a text whose lengths are finite are found one behind the other, and the first of them counts. -/
theorem recovers_of_tokenize (hs : tokenize source = .ok s)
    (hfinite : ∀ negative, ¬WritesLength s.tokens (.infinite negative)) : s.Recovers := by
  have hstopped : s.parse.stopped = none := by
    cases h : s.parse.stopped with
    | none => rfl
    | some e =>
      obtain ⟨x, hx, he⟩ := Parse.exists_length_of_stopped h
      cases x with
      | finite => cases he
      | infinite negative => exact absurd hx (hfinite negative)
      | nan =>
        obtain ⟨figure, hmem, hfigure⟩ := hx.exists_mem
        have hwritten := isWritten_of_tokenize hs hmem (l := .number .nan) (by simp [Token.leaf?, hfigure])
        exact absurd rfl hwritten
  have hplaces : (s.parse.errors.map (·.position)).Sublist (s.withEnd.map (·.position)) :=
    Parse.sublist_positions (.ofStream s)
  have htokens : (s.withEnd.map (·.position)).Pairwise fun p q => p.offset < q.offset :=
    List.pairwise_map.2 (tokenize_ascends hs).offsets
  have hascends : s.parse.errors.Pairwise fun e f => e.position.offset < f.position.offset :=
    (htokens.sublist hplaces).of_map (fun e : GrammarError => e.position) fun _ _ hlt => hlt
  have hnodup : (s.parse.errors.map (·.position)).Nodup := by
    refine List.pairwise_map.2 (hascends.imp fun {e f} hlt heq => ?_)
    rw [heq] at hlt
    exact Nat.lt_irrefl _ hlt
  refine ⟨?_, ?_, ?_, hascends, ?_⟩
  · simp only [Parse.result_eq_error_iff hstopped]
    cases s.parse.errors <;> simp
  · exact fun e he => (Parse.result_eq_error_iff hstopped).2 ⟨e, he, rfl⟩
  · intro e he
    obtain ⟨t, ht, hplace⟩ := List.mem_map.1 (hplaces.subset (List.mem_map_of_mem he))
    exact ⟨t, ht, hplace.symm⟩
  · intro t _
    have hcount := List.nodup_iff_count_le_one.1 hnodup t.position
    rwa [List.count_eq_countP, List.countP_map] at hcount

/-- A text with a length, in which a column breaks off at the brace behind it, and a variable at the end. -/
theorem recovers_of_tokenize_columns : ∃ s, tokenize "unit u \x7b x: text(0) y \x7d let" = .ok s ∧
    (∀ negative, ¬WritesLength s.tokens (.infinite negative)) ∧ s.Recovers := by
  have h : tokenize "unit u \x7b x: text(0) y \x7d let" =
      .ok ⟨[⟨.keyword .unit, "unit", ⟨1, 1, 0⟩⟩, ⟨.identifier, "u", ⟨1, 6, 5⟩⟩, ⟨.mark .openBrace, "\x7b", ⟨1, 8, 7⟩⟩,
        ⟨.identifier, "x", ⟨1, 10, 9⟩⟩, ⟨.mark .colon, ":", ⟨1, 11, 10⟩⟩, ⟨.keyword .text, "text", ⟨1, 13, 12⟩⟩,
        ⟨.mark .openParen, "(", ⟨1, 17, 16⟩⟩, ⟨.number .zero, "0", ⟨1, 18, 17⟩⟩, ⟨.mark .closeParen, ")", ⟨1, 19, 18⟩⟩,
        ⟨.identifier, "y", ⟨1, 21, 20⟩⟩, ⟨.mark .closeBrace, "\x7d", ⟨1, 23, 22⟩⟩,
        ⟨.keyword .letVariable, "let", ⟨1, 25, 24⟩⟩], ⟨1, 28, 27⟩⟩ := by
    cbv
  refine ⟨_, h, ?finite, recovers_of_tokenize h ?finite⟩
  intro negative hlength
  obtain ⟨t, ht, hlexeme⟩ := hlength.exists_mem
  clear hlength h
  revert negative t
  decide

end Source

end MediaLanguage
