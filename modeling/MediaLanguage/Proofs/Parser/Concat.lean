import Mathlib
import MediaLanguage.Proofs.Parser.Event
import MediaLanguage.Proofs.Parser.Outlet
import MediaLanguage.Proofs.Token.Joint

/-!
# Programs one after the other

A program with a line break and another program behind it is the program of both: the statements of the first, and
those of the second, moved behind the first text (`parse_joined`).

Statements are compared in the mode `ending` (`sim_statement`): a statement at the end of a text cannot tell whether
the text ends there or a line break follows. `fromCursor_beside` carries this over to the rounds of a run.
-/

open MediaLanguage.Ast MediaLanguage.Parser

namespace MediaLanguage

namespace Pairing

variable {P : Pairing} {k : Mode} {c c' : Cursor}

/-! ## Statements -/

/-- A statement. -/
theorem sim_statement (h : P.Beside c c') (hrest : c.rest ≠ []) :
    P.Sim k (P.Same Statement.view) statement statement c c' := by
  refine .look h (fun _ => consumes_statement hrest) fun hin halike => ?_
  rw [← halike.kind]
  split
  case h_1 => exact (sim_importFile h).map fun _ _ hnode => congrArg Statement.importFile hnode
  case h_2 => exact (sim_letVariable h).map fun _ _ hnode => congrArg Statement.letVariable hnode
  case h_3 => exact (sim_unitDeclaration h).map fun _ _ hnode => congrArg Statement.unit hnode
  case h_4 => exact (sim_vocabulary h).map fun _ _ hnode => congrArg Statement.vocabulary hnode
  case h_5 => exact (sim_family h hin).map fun _ _ hnode => congrArg Statement.family hnode
  case h_6 => exact (sim_template h).map fun _ _ hnode => congrArg Statement.template hnode
  case h_7 => exact (sim_data h).map fun _ _ hnode => congrArg Statement.data hnode
  case h_8 => exact (sim_event h).map fun _ _ hnode => congrArg Statement.event hnode
  case h_9 => exact (sim_catalog h).map fun _ _ hnode => congrArg Statement.catalog hnode
  case h_10 => exact (sim_diachronicLink h).map fun _ _ hnode => congrArg (Statement.link ∘ .diachronic) hnode
  case h_11 => exact (sim_synchronousLink h hin).map fun _ _ hnode => congrArg (Statement.link ∘ .synchronous) hnode
  case h_12 => exact (sim_synchronousLink h hin).map fun _ _ hnode => congrArg (Statement.link ∘ .synchronous) hnode
  case h_13 hkind => exact (sim_comment h (by rw [hkind]; rfl)).map fun _ _ hnode => congrArg Statement.comment hnode
  case h_14 hkind => exact (sim_comment h (by rw [hkind]; rfl)).map fun _ _ hnode => congrArg Statement.comment hnode
  case h_15 => exact (sim_tagComment h).map fun _ _ hnode => congrArg Statement.comment hnode
  case h_16 hkind =>
    rw [← (halike.word (.inl hkind)).2]
    refine (sim_next h hin).bind_run fun t t' _ _ hnext hnear h => ?_
    cases hnext
    dsimp only
    rw [hnear.beq_eq (m := .string) rfl, hnear.beq_eq (m := .mark .openBrace) rfl]
    refine .ite (fun _ => ?_) (fun _ => .ite (fun _ => ?_) (fun _ => sim_unexpected h _))
    · exact (sim_family h hin).map fun _ _ hnode => congrArg Statement.family hnode
    · exact (sim_bareVocabulary h).map fun _ _ hnode => congrArg Statement.vocabulary hnode
  case h_17 => exact sim_unexpected h _

/-! ## Runs -/

/-- Where the first text ends behind skipped tokens, the second run skips up to what stands behind. -/
theorem Beside.skipWhile_after {skip : Kind → Bool} (h : P.Beside c c') (hafter : P.after.rest = [])
    (hrest : (c.skipWhile skip).rest = []) : c'.skipWhile skip = P.after'.skipWhile skip := by
  obtain ⟨own, own', halike, rfl, rfl⟩ := h
  rw [hafter, List.append_nil] at hrest
  induction halike with
  | nil => rfl
  | @cons t t' own own' ht _ ih =>
    cases hskip : skip t.kind with
    | false => simp [Cursor.skipWhile, hskip] at hrest
    | true =>
      have hskip' : skip t'.kind = true := ht.kind ▸ hskip
      simp only [Cursor.skipWhile, List.cons_append, List.dropWhile_cons, hskip, hskip', ↓reduceIte] at hrest ih ⊢
      exact ih hrest

/-- A statement of a text, beside a text that goes on differently: a round finds the same statement. -/
theorem statement_beside {s : Statement} {d : Cursor} (hafter : P.after.rest = []) (h : P.Beside c c')
    (hrest : c.rest ≠ []) (hrun : statement c = (.ok s, d)) :
    ∃ s' d', statement c' = (.ok s', d') ∧ P.Same Statement.view s s' ∧ P.Beside d d' := by
  have hsim := sim_statement (k := .ending) h hrest
  unfold Sim at hsim
  rw [hrun] at hsim
  obtain ⟨houtcome, hbeside⟩ := hsim (.inr ⟨rfl, hafter, s, rfl⟩)
  rcases hrun' : statement c' with ⟨r', d'⟩
  rw [hrun'] at houtcome hbeside
  obtain ⟨s', rfl, hsame⟩ := houtcome.of_ok
  exact ⟨s', d', rfl, hsame, hbeside⟩

/-- A run over a text without errors, beside a run that goes on behind the text. -/
theorem fromCursor_beside (hafter : P.after.rest = []) (h : P.Beside c c')
    (herrors : (Parse.fromCursor c).errors = []) (hstopped : (Parse.fromCursor c).stopped = none) :
    ∃ statements : List Statement,
      statements.map (Statement.view P.view') = (Parse.fromCursor c).statements.map (Statement.view P.view) ∧
      Parse.fromCursor c' = statements.foldr Parse.withStatement (Parse.fromCursor P.after') := by
  induction hlen : c.rest.length using Nat.strong_induction_on generalizing c c' with
  | _ n ih =>
    subst hlen
    by_cases hrest : (c.skipWhile isDivider).rest = []
    · -- only line breaks and semicolons are left of the first text
      refine ⟨[], by rw [Parse.fromCursor_of_empty hrest]; rfl, ?_⟩
      rw [← Parse.fromCursor_skipWhile c', h.skipWhile_after hafter hrest, Parse.fromCursor_skipWhile]
      rfl
    · have hin : P.Inside (c.skipWhile isDivider) := .of_lt hafter (List.length_pos_iff.2 hrest)
      have hbeside := h.skipWhile hin
      have hrest' : (c'.skipWhile isDivider).rest ≠ [] := by
        have hlength := hbeside.length
        have hpos := List.length_pos_iff.2 hrest
        rw [hafter, List.length_nil] at hlength
        exact List.length_pos_iff.1 (by omega)
      rcases hrun : statement (c.skipWhile isDivider) with ⟨(e | e) | s, d⟩
      · rw [Parse.fromCursor_of_grammar hrest hrun] at herrors
        cases herrors
      · rw [Parse.fromCursor_of_conversion hrest hrun] at hstopped
        cases hstopped
      · rw [Parse.fromCursor_of_statement hrest hrun] at herrors hstopped ⊢
        obtain ⟨s', d', hrun', hsame, hd⟩ := statement_beside hafter hbeside hrest hrun
        have hlt : d.rest.length < c.rest.length :=
          Nat.lt_of_lt_of_le (consumes_statement hrest s d hrun) (c.reaches_skipWhile isDivider).length_le
        obtain ⟨statements, hstatements, hrounds⟩ := ih _ hlt hd herrors hstopped rfl
        refine ⟨s' :: statements, ?_, ?_⟩
        · rw [List.map_cons, hstatements, ← hsame]
          rfl
        · rw [Parse.fromCursor_of_statement hrest' hrun', hrounds]
          rfl

/-! ## Texts that are moved -/

/-- A level is written alike by an expression that is moved. -/
theorem aggregationText_moving (f : Position → Position) (e : Expr) :
    aggregationText (e.view (.moving f)) = aggregationText e := by
  cases e <;> rfl

/-- A text beside the same text at other places; what stands behind the second starts with a blank token. -/
def moved (f : Position → Position) (finish : Position) (after' : Cursor) (hblank : after'.current.kind.isBlank) :
    Pairing where
  view := .moving f
  view' := .plain
  cause := id
  after := ⟨[], finish⟩
  after' := after'
  name_eq := rfl
  level_eq e e' h := by
    have he : e' = e.view (.moving f) := by simpa using h.symm
    rw [he, aggregationText_moving]
    rfl
  heads := .inr ⟨rfl, hblank⟩

/-- A token is alike the token at another place. -/
theorem moved_alike {f : Position → Position} {finish : Position} {after' : Cursor}
    {hblank : after'.current.kind.isBlank} (t : Token) : (moved f finish after' hblank).Alike t (t.relocate f) where
  lexeme := rfl
  place := rfl
  word _ := ⟨rfl, rfl⟩
  unexpected _ := rfl
  unknown _ := rfl

end Pairing

namespace Parse

/-- Statements in front of a run. -/
theorem foldr_withStatement (statements : List Statement) (p : Parse) :
    statements.foldr withStatement p = { p with statements := statements ++ p.statements } := by
  induction statements with
  | nil => rfl
  | cons s statements ih => rw [List.foldr_cons, ih]; rfl

/-- A run over a text that is moved, with a blank token behind it, finds its statements, moved, and goes on with what
stands behind. -/
theorem fromCursor_relocate (f : Position → Position) {tokens : List Token} {finish : Position} (after : Cursor)
    (hblank : after.current.kind.isBlank) (herrors : (fromCursor ⟨tokens, finish⟩).errors = [])
    (hstopped : (fromCursor ⟨tokens, finish⟩).stopped = none) :
    fromCursor ⟨tokens.map (Token.relocate f) ++ after.rest, after.finish⟩ =
      { fromCursor after with
        statements := (fromCursor ⟨tokens, finish⟩).statements.map (Statement.relocate f) ++
          (fromCursor after).statements } := by
  have hbeside : (Pairing.moved f finish after hblank).Beside ⟨tokens, finish⟩
      ⟨tokens.map (Token.relocate f) ++ after.rest, after.finish⟩ := by
    refine ⟨tokens, tokens.map (Token.relocate f), ?_, by simp [Pairing.moved], rfl⟩
    rw [List.forall₂_map_right_iff, List.forall₂_same]
    exact fun t _ => Pairing.moved_alike t
  obtain ⟨statements, hstatements, hrun⟩ := Pairing.fromCursor_beside rfl hbeside herrors hstopped
  have hmoved : statements = (fromCursor ⟨tokens, finish⟩).statements.map (Statement.relocate f) := by
    simpa [Pairing.moved, Statement.relocate] using hstatements
  rw [hrun, foldr_withStatement, hmoved]
  rfl

/-- A line break in front of the statements changes nothing. -/
theorem fromCursor_newline (text : String) (position finish : Position) (tokens : List Token) :
    fromCursor ⟨⟨.newline, text, position⟩ :: tokens, finish⟩ = fromCursor ⟨tokens, finish⟩ := by
  rw [← fromCursor_skipWhile, ← fromCursor_skipWhile ⟨tokens, finish⟩]
  rfl

/-- A run over nothing finds nothing. -/
theorem fromCursor_nil (finish : Position) : fromCursor ⟨[], finish⟩ = nothing ⟨[], finish⟩ :=
  fromCursor_of_empty rfl

end Parse

/-! ## Programs -/

/-- A run reads a program when it finds no error and no number stops it. -/
theorem Parse.result_eq_ok_iff {r : Parse} {p : Program} :
    r.result [] = .ok p ↔ r.errors = [] ∧ r.stopped = none ∧ r.statements = p.statements := by
  obtain ⟨statements⟩ := p
  unfold Parse.result
  rw [List.nil_append]
  cases r.stopped <;> cases r.errors <;> simp

/-- A text writes a program when its tokens are read without errors. -/
theorem parse_eq_ok_iff {source : String} {p : Program} :
    parse source = .ok p ↔ ∃ s, tokenize source = .ok s ∧ s.parse.errors = [] ∧ s.parse.stopped = none ∧
      s.parse.statements = p.statements := by
  unfold parse
  cases tokenize source with
  | error e => simp [throw, throwThe, MonadExceptOf.throw]
  | ok s => simp [Parse.result_eq_ok_iff]

/-- A program and another one behind a line break: the statements of both, those of the second moved. -/
theorem parse_joined {a b : String} {p q : Program} (ha : parse a = .ok p) (hb : parse b = .ok q) :
    parse (a ++ "\n" ++ b) =
      .ok ⟨p.statements ++ q.statements.map (Statement.relocate (Position.behind a.toList))⟩ := by
  rw [parse_eq_ok_iff] at ha hb ⊢
  obtain ⟨s, hs, herrors, hstopped, hstatements⟩ := ha
  obtain ⟨t, ht, herrors', hstopped', hstatements'⟩ := hb
  refine ⟨_, tokenize_joined hs ht, ?_⟩
  -- the second text, moved, with nothing behind it
  have hsecond := Parse.fromCursor_relocate (Position.behind a.toList) ⟨[], t.finish.behind a.toList⟩ rfl herrors'
    hstopped'
  rw [Parse.fromCursor_nil, List.append_nil] at hsecond
  -- the first text, where it is, with the line break and the second text behind it
  have hfirst := Parse.fromCursor_relocate id
    ⟨⟨.newline, "\n", s.finish⟩ :: t.tokens.map (Token.relocate (Position.behind a.toList)),
      t.finish.behind a.toList⟩ rfl herrors hstopped
  rw [Parse.fromCursor_newline, hsecond, Token.relocate_id, List.map_id, Statement.relocate_id, List.map_id] at hfirst
  change (Parse.fromCursor ⟨_, _⟩).errors = [] ∧ (Parse.fromCursor ⟨_, _⟩).stopped = none ∧
    (Parse.fromCursor ⟨_, _⟩).statements = _
  rw [hfirst, ← hstatements, ← hstatements']
  refine ⟨rfl, rfl, ?_⟩
  simp [Parse.nothing, TokenStream.parse, Cursor.ofStream]

/-- An import whose semicolon is missing, and behind it an annotation whose text is missing and a variable. -/
theorem parse_joined_import :
    parse "import \"é\"" = .ok ⟨[.importFile ⟨"é", ⟨1, 1, 0⟩⟩]⟩ ∧
    parse "@note\nlet x = $y" =
      .ok ⟨[.comment ⟨"@note: ", false, ⟨1, 1, 0⟩⟩, .letVariable ⟨"x", .reference "y" ⟨2, 9, 14⟩, ⟨2, 1, 6⟩⟩]⟩ ∧
    parse ("import \"é\"" ++ "\n" ++ "@note\nlet x = $y") =
      .ok ⟨[.importFile ⟨"é", ⟨1, 1, 0⟩⟩, .comment ⟨"@note: ", false, ⟨2, 1, 12⟩⟩,
        .letVariable ⟨"x", .reference "y" ⟨3, 9, 26⟩, ⟨3, 1, 18⟩⟩]⟩ := by
  have hfirst : parse "import \"é\"" = .ok ⟨[.importFile ⟨"é", ⟨1, 1, 0⟩⟩]⟩ := by cbv
  have hsecond : parse "@note\nlet x = $y" =
      .ok ⟨[.comment ⟨"@note: ", false, ⟨1, 1, 0⟩⟩, .letVariable ⟨"x", .reference "y" ⟨2, 9, 14⟩, ⟨2, 1, 6⟩⟩]⟩ := by
    cbv
  exact ⟨hfirst, hsecond, parse_joined hfirst hsecond⟩

end MediaLanguage
