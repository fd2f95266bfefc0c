import MediaLanguage.Proofs.Parser.Concat

/-!
# Whole texts side by side

Where nothing stands behind the tokens that are alike, two runs do the same from their start to their end, errors and
all (`Pairing.fromCursor_whole`): they find statements that look the same, errors that look the same, and are stopped
by the same number. So the texts write programs that look the same, or fail alike (`Pairing.result_whole`).

`GrammarCause.unspelled` is what is kept of the cause of an error when spellings may differ.
-/

open MediaLanguage.Ast MediaLanguage.Parser

namespace MediaLanguage

/-- The cause of an error without the spellings of the text. -/
def GrammarCause.unspelled : GrammarCause → GrammarCause
  | .unexpectedToken _ expected => .unexpectedToken "" expected
  | .invalidSyntax _ => .invalidSyntax ""
  | cause => cause

/-- Causes that are the same but for spellings have one name. -/
theorem GrammarCause.name_eq_of_unspelled {a b : GrammarCause} (h : a.unspelled = b.unspelled) : a.name = b.name := by
  have hname : ∀ c : GrammarCause, c.unspelled.name = c.name := fun c => by cases c <;> rfl
  rw [← hname a, h, hname b]

namespace Pairing

variable {P : Pairing} {c c' : Cursor}

/-! ## Cursors -/

/-- Going on after an error leaves the cursors of whole texts beside each other. -/
theorem Beside.synchronize (hwhole : P.Whole) (h : P.Beside c c') : P.Beside c.synchronize c'.synchronize := by
  have hin : ∀ d, P.Inside d := fun _ => .inl hwhole
  have hskip : P.Beside (c.advance.skipWhile fun k => !(k == .mark .semicolon || startsStatement k))
      (c'.advance.skipWhile fun k => !(k == .mark .semicolon || startsStatement k)) :=
    (h.advance (hin c)).skipWhile (hin _)
  unfold Cursor.synchronize
  dsimp only
  rw [← (hskip.current (hin _)).kind]
  split
  · exact hskip.advance (hin _)
  · exact hskip

/-- The cursors of whole texts are at the end together. -/
theorem Beside.rest_eq_nil_iff (hwhole : P.Whole) (h : P.Beside c c') : c.rest = [] ↔ c'.rest = [] := by
  have hlength := h.length
  rw [hwhole.1, hwhole.2.1] at hlength
  rw [← List.length_eq_zero_iff, ← List.length_eq_zero_iff]
  simp only [List.length_nil] at hlength
  omega

/-! ## Runs -/

/-- Errors that look the same. -/
structure SameError (P : Pairing) (e e' : GrammarError) : Prop where
  cause : P.cause e.cause = P.cause e'.cause
  place : P.view.place e.position = P.view'.place e'.position

/-- Runs that look the same. -/
structure SameParse (P : Pairing) (r r' : Parse) : Prop where
  statements : r.statements.map (Statement.view P.view) = r'.statements.map (Statement.view P.view')
  errors : List.Forall₂ P.SameError r.errors r'.errors
  stopped : r.stopped = r'.stopped

/-- A statement in front of runs that look the same. -/
theorem SameParse.withStatement {r r' : Parse} {s s' : Statement} (h : P.SameParse r r')
    (hs : P.Same Statement.view s s') : P.SameParse (r.withStatement s) (r'.withStatement s') where
  statements := by
    show Statement.view P.view s :: _ = Statement.view P.view' s' :: _
    rw [hs, h.statements]
  errors := h.errors
  stopped := h.stopped

/-- An error in front of runs that look the same. -/
theorem SameParse.withError {r r' : Parse} {e e' : GrammarError} (h : P.SameParse r r') (he : P.SameError e e') :
    P.SameParse (r.withError e) (r'.withError e') where
  statements := h.statements
  errors := .cons he h.errors
  stopped := h.stopped

/-- Runs over whole texts look the same. The induction is on the tokens that are left of the first, one round after
another. -/
theorem fromCursor_whole (hwhole : P.Whole) (h : P.Beside c c') :
    P.SameParse (Parse.fromCursor c) (Parse.fromCursor c') := by
  induction hlen : c.rest.length using Nat.strong_induction_on generalizing c c' with
  | _ n ih =>
    subst hlen
    have hskip : P.Beside (c.skipWhile isDivider) (c'.skipWhile isDivider) := h.skipWhile (.inl hwhole)
    have hle := (c.reaches_skipWhile isDivider).length_le
    by_cases hrest : (c.skipWhile isDivider).rest = []
    · rw [Parse.fromCursor_of_empty hrest, Parse.fromCursor_of_empty ((hskip.rest_eq_nil_iff hwhole).1 hrest)]
      exact ⟨rfl, .nil, rfl⟩
    have hrest' : (c'.skipWhile isDivider).rest ≠ [] := fun hnil => hrest ((hskip.rest_eq_nil_iff hwhole).2 hnil)
    have hsim : P.Sim .within (P.Same Statement.view) statement statement _ _ := sim_statement hskip hrest
    obtain ⟨houtcome, hbeside⟩ := hsim (.inl (.inl hwhole))
    rcases hrun : statement (c.skipWhile isDivider) with ⟨(e | e) | s, d⟩ <;>
      rcases hrun' : statement (c'.skipWhile isDivider) with ⟨(e' | e') | s', d'⟩ <;>
      rw [hrun, hrun'] at houtcome hbeside <;> cases houtcome
    · next hcause hplace =>
      rw [Parse.fromCursor_of_grammar hrest hrun, Parse.fromCursor_of_grammar hrest' hrun']
      have hback := (statement.forward (c.skipWhile isDivider)).length_le
      have hsync := d.length_synchronize
      have hpos := List.length_pos_iff.2 hrest
      rw [hrun] at hback
      dsimp only at hback
      exact (ih d.synchronize.rest.length (by omega) (hbeside.synchronize hwhole) rfl).withError ⟨hcause, hplace⟩
    · rw [Parse.fromCursor_of_conversion hrest hrun, Parse.fromCursor_of_conversion hrest' hrun']
      exact ⟨rfl, .nil, rfl⟩
    · next hsame =>
      rw [Parse.fromCursor_of_statement hrest hrun, Parse.fromCursor_of_statement hrest' hrun']
      have hlt := consumes_statement hrest s d hrun
      exact (ih d.rest.length (by omega) hbeside rfl).withStatement hsame

/-! ## Programs -/

/-- Programs that look the same, or failures that do. -/
inductive SameResult (P : Pairing) : Except Error Program → Except Error Program → Prop
  | program {p q : Program} :
      p.statements.map (Statement.view P.view) = q.statements.map (Statement.view P.view') →
      SameResult P (.ok p) (.ok q)
  | grammar {e e' : GrammarError} : P.SameError e e' → SameResult P (.error (.grammar e)) (.error (.grammar e'))
  | conversion (e : ConversionError) : SameResult P (.error (.conversion e)) (.error (.conversion e))

/-- Runs that look the same have results that do: the first error counts. -/
theorem SameParse.result {r r' : Parse} (h : P.SameParse r r') : P.SameResult (r.result []) (r'.result []) := by
  obtain ⟨statements, errors, stopped, cursor⟩ := r
  obtain ⟨statements', errors', stopped', cursor'⟩ := r'
  obtain ⟨hstatements, herrors, hstopped⟩ := h
  dsimp only at hstatements herrors hstopped
  subst hstopped
  cases stopped with
  | some e => exact .conversion e
  | none =>
    cases herrors with
    | nil => exact .program hstatements
    | cons he _ => exact .grammar he

/-- The programs of whole texts that are alike. -/
theorem result_whole {s t : TokenStream} (hs : P.after = ⟨[], s.finish⟩) (ht : P.after' = ⟨[], t.finish⟩)
    (hfinish : P.view.place s.finish = P.view'.place t.finish) (h : List.Forall₂ P.Alike s.tokens t.tokens) :
    P.SameResult (s.parse.result []) (t.parse.result []) := by
  have hwhole : P.Whole := by
    rw [Whole, hs, ht]
    exact ⟨rfl, rfl, hfinish⟩
  have hbeside : P.Beside (.ofStream s) (.ofStream t) := by
    refine ⟨s.tokens, t.tokens, h, ?_, ?_⟩
    · rw [hs, List.append_nil]
      rfl
    · rw [ht, List.append_nil]
      rfl
  exact (fromCursor_whole hwhole hbeside).result

end Pairing

end MediaLanguage
