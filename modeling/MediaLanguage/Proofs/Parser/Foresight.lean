import MediaLanguage.Proofs.Parser.Calls
import MediaLanguage.Proofs.Parser.Whole

/-!
# What decides the first error

A run over the statements of a text looks at most one token ahead, so its first error does not depend on anything
further behind the token at which the run stands when it finds the error.

* `Parse.FirstError`: a run finds an error first, and where it stands then. Failures inside a production that the
  production makes up for itself are not found.
* `Pairing.firstError_beside`: runs side by side that do not leave the tokens that are alike find the same error first.
* `firstError_foreseen`: texts that agree up to the token behind the one at which the first run stands have one first
  error.
-/

open MediaLanguage.Ast MediaLanguage.Parser

namespace MediaLanguage

/-! ## The first error of a run -/

namespace Parse

/-- A run from `start` on finds the error first, and stands at the second cursor then. -/
inductive FirstError (e : GrammarError) : Cursor → Cursor → Prop
  | here {start d : Cursor} : (start.skipWhile isDivider).rest ≠ [] →
      statement (start.skipWhile isDivider) = (.error (.grammar e), d) → FirstError e start d
  | later {start c d : Cursor} {s : Statement} : (start.skipWhile isDivider).rest ≠ [] →
      statement (start.skipWhile isDivider) = (.ok s, c) → FirstError e c d → FirstError e start d

variable {c d : Cursor} {e : GrammarError}

/-- A run stands at or behind its start when it finds an error. -/
theorem FirstError.reaches (h : FirstError e c d) : c.Reaches d := by
  induction h with
  | here _ hrun => exact (Cursor.reaches_skipWhile _ _).trans (reaches_of_run hrun)
  | later _ hrun _ ih => exact ((Cursor.reaches_skipWhile _ _).trans (reaches_of_run hrun)).trans ih

/-- The error that is found first is the first of the errors that a run collects. -/
theorem exists_firstError_iff : (∃ d, FirstError e c d) ↔ (fromCursor c).errors.head? = some e := by
  induction c using Round.induction with
  | _ c ih =>
    by_cases hrest : (c.skipWhile isDivider).rest = []
    · rw [fromCursor_of_empty hrest]
      constructor
      · rintro ⟨d, ⟨hne, -⟩ | ⟨hne, -⟩⟩ <;> exact absurd hrest hne
      · intro h
        cases h
    rcases hrun : statement (c.skipWhile isDivider) with ⟨(f | f) | s, d⟩
    · rw [fromCursor_of_grammar hrest hrun]
      constructor
      · rintro ⟨_, ⟨-, hrun'⟩ | ⟨-, hrun', -⟩⟩ <;> rw [hrun] at hrun' <;> cases hrun'
        rfl
      · intro h
        cases h
        exact ⟨d, .here hrest hrun⟩
    · rw [fromCursor_of_conversion hrest hrun]
      constructor
      · rintro ⟨_, ⟨-, hrun'⟩ | ⟨-, hrun', -⟩⟩ <;> rw [hrun] at hrun' <;> cases hrun'
      · intro h
        cases h
    · rw [fromCursor_of_statement hrest hrun]
      refine Iff.trans ?_ (ih d (.statement hrest hrun))
      constructor
      · rintro ⟨f, ⟨-, hrun'⟩ | ⟨-, hrun', hlater⟩⟩ <;> rw [hrun] at hrun' <;> cases hrun'
        exact ⟨f, hlater⟩
      · rintro ⟨f, hlater⟩
        exact ⟨f, .later hrest hrun hlater⟩

end Parse

/-! ## Runs side by side -/

namespace Pairing

variable {P : Pairing} {c c' d : Cursor} {e : GrammarError}

/-- Where the first cursor is inside with a token to read, the second has one too. -/
theorem Beside.rest_ne_nil (h : P.Beside c c') (hin : P.Inside c) (hrest : c.rest ≠ []) : c'.rest ≠ [] := by
  obtain hwhole | hlt := hin
  · exact fun hnil => hrest ((h.rest_eq_nil_iff hwhole).2 hnil)
  · have hlength := h.length
    exact List.length_pos_iff.1 (by omega)

/-- A run that finds its first error inside has a run beside it that finds an error there that looks the same. -/
theorem firstError_beside (h : Parse.FirstError e c d) (hbeside : P.Beside c c') (hin : P.Inside d) :
    ∃ e' d', Parse.FirstError e' c' d' ∧ P.SameError e e' ∧ P.Beside d d' := by
  induction h generalizing c' with
  | @here start d hrest hrun =>
    have hskipped : P.Inside (start.skipWhile isDivider) := hin.of_reaches (reaches_of_run hrun)
    have hskip := hbeside.skipWhile hskipped
    have hsim : P.Sim .within (P.Same Statement.view) statement statement _ _ := sim_statement hskip hrest
    unfold Sim at hsim
    rw [hrun] at hsim
    obtain ⟨houtcome, hd⟩ := hsim (.inl hin)
    rcases hrun' : statement (c'.skipWhile isDivider) with ⟨r', d'⟩
    rw [hrun'] at houtcome hd
    cases houtcome with
    | grammar hcause hplace =>
      exact ⟨_, d', .here (hskip.rest_ne_nil hskipped hrest) hrun', ⟨hcause, hplace⟩, hd⟩
  | @later start f d s hrest hrun hlater ih =>
    have hf : P.Inside f := hin.of_reaches hlater.reaches
    have hskipped : P.Inside (start.skipWhile isDivider) := hf.of_reaches (reaches_of_run hrun)
    have hskip := hbeside.skipWhile hskipped
    have hsim : P.Sim .within (P.Same Statement.view) statement statement _ _ := sim_statement hskip hrest
    unfold Sim at hsim
    rw [hrun] at hsim
    obtain ⟨houtcome, hbeside'⟩ := hsim (.inl hf)
    rcases hrun' : statement (c'.skipWhile isDivider) with ⟨r', f'⟩
    rw [hrun'] at houtcome hbeside'
    obtain ⟨s', rfl, -⟩ := houtcome.of_ok
    obtain ⟨e', d', hfirst, herror, hd⟩ := ih hbeside' hin
    exact ⟨e', d', .later (hskip.rest_ne_nil hskipped hrest) hrun' hfirst, herror, hd⟩

/-- Runs over the same tokens with different ones behind them, which start with tokens of one kind. -/
def same (after after' : Cursor) (h : after.current.kind = after'.current.kind) : Pairing where
  view := .plain
  view' := .plain
  cause := id
  after := after
  after' := after'
  name_eq := rfl
  level_eq e e' he := by
    have he' : e = e' := by simpa using he
    rw [he']
  heads := .inl h

/-- A token is alike itself. -/
theorem same_alike {after after' : Cursor} {h : after.current.kind = after'.current.kind} (t : Token) :
    (same after after' h).Alike t t where
  lexeme := rfl
  place := rfl
  word _ := ⟨rfl, rfl⟩
  unexpected _ := rfl
  unknown _ := rfl

end Pairing

/-! ## Texts -/

namespace TokenStream

/-- A run over the tokens finds the error first, and stands at index `k` then. -/
def FirstError (s : TokenStream) (e : GrammarError) (k : Nat) : Prop :=
  ∃ d, Parse.FirstError e (.ofStream s) d ∧ s.index d = k

/-- The tokens of `s` up to index `k`, the end included, are tokens of `t` too, at the same indices. -/
def AgreesUpTo (s t : TokenStream) (k : Nat) : Prop :=
  ∀ i ≤ k, ∀ u, s.withEnd[i]? = some u → t.withEnd[i]? = some u

namespace AgreesUpTo

variable {s t : TokenStream} {i k : Nat}

/-- Where the tokens of one text are the first of another, the texts agree up to each of them. -/
theorem of_isPrefix (h : s.tokens <+: t.tokens) (hk : k < s.tokens.length) : s.AgreesUpTo t k := by
  intro i hi u hu
  obtain ⟨later, hlater⟩ := h
  have hlt : i < s.tokens.length := Nat.lt_of_le_of_lt hi hk
  rw [withEnd, List.getElem?_append_left hlt] at hu
  rw [withEnd, ← hlater, List.append_assoc, List.getElem?_append_left hlt, hu]

/-- A token that is not the end stands among the tokens. -/
theorem lt_length_of_kind {u : Token} (h : t.withEnd[i]? = some u) (hu : u.kind ≠ .endOfInput) :
    i < t.tokens.length := by
  by_contra hle
  obtain ⟨hlt, heq⟩ := List.getElem?_eq_some_iff.1 h
  have hi : i = t.tokens.length := by
    rw [withEnd, List.length_append, List.length_singleton] at hlt
    omega
  subst hi
  apply hu
  rw [← heq]
  simp [withEnd, Token.finish, Token.kind, Lexeme.kind]

/-- The tokens in front of the end that are among those that agree are the same. -/
theorem getElem?_eq (h : s.AgreesUpTo t k) (hs : ∀ u ∈ s.tokens, u.kind ≠ .endOfInput) (hi : i ≤ k)
    (hlt : i < s.tokens.length) : s.tokens[i]? = t.tokens[i]? := by
  have hthere : s.withEnd[i]? = some s.tokens[i] := by
    rw [withEnd, List.getElem?_append_left hlt, List.getElem?_eq_getElem hlt]
  have hother := h i hi _ hthere
  have hlt' := lt_length_of_kind hother (hs _ (List.getElem_mem hlt))
  rw [withEnd, List.getElem?_append_left hlt'] at hother
  rw [hother, List.getElem?_eq_getElem hlt]

/-- Where the end is among the tokens that agree, there is nothing else. -/
theorem eq_of_length_le (h : s.AgreesUpTo t k) (hs : ∀ u ∈ s.tokens, u.kind ≠ .endOfInput)
    (ht : ∀ u ∈ t.tokens, u.kind ≠ .endOfInput) (hk : s.tokens.length ≤ k) : s = t := by
  have hthere : s.withEnd[s.tokens.length]? = some (.finish s.finish) := by
    rw [withEnd, List.getElem?_append_right (Nat.le_refl _), Nat.sub_self]
    rfl
  have hother := h _ hk _ hthere
  have hge : t.tokens.length ≤ s.tokens.length := by
    by_contra hlt
    rw [withEnd, List.getElem?_append_left (Nat.lt_of_not_le hlt)] at hother
    exact ht _ (List.mem_of_getElem? hother) rfl
  have hend : s.tokens.length = t.tokens.length ∧ s.finish = t.finish := by
    rw [withEnd, List.getElem?_append_right hge, List.getElem?_singleton] at hother
    split at hother
    · next hzero => exact ⟨by omega, (congrArg Token.position (Option.some.inj hother)).symm⟩
    · cases hother
  have htokens : s.tokens = t.tokens := by
    refine List.ext_getElem? fun i => ?_
    by_cases hlt : i < s.tokens.length
    · exact h.getElem?_eq hs (Nat.le_trans (Nat.le_of_lt hlt) hk) hlt
    · rw [List.getElem?_eq_none (by omega), List.getElem?_eq_none (by omega)]
  cases s
  cases t
  exact congr (congrArg _ htokens) hend.2

/-- In front of an index, the tokens of both are the same. -/
theorem take_eq (h : s.AgreesUpTo t k) (hs : ∀ u ∈ s.tokens, u.kind ≠ .endOfInput) (hk : k < s.tokens.length) :
    s.tokens.take k = t.tokens.take k := by
  refine List.ext_getElem? fun i => ?_
  rw [List.getElem?_take, List.getElem?_take]
  split
  · next hlt => exact h.getElem?_eq hs (Nat.le_of_lt hlt) (by omega)
  · rfl

end AgreesUpTo

end TokenStream

section Source

variable {source source' : String} {s t : TokenStream} {e : GrammarError} {k : Nat}

/-- A text that agrees with another up to the token behind the one at which the run over the other finds its first
error has the same first error, and its run stands at the same index. -/
theorem firstError_foreseen (hs : tokenize source = .ok s) (ht : tokenize source' = .ok t) (h : s.FirstError e k)
    (hagree : s.AgreesUpTo t (k + 1)) :
    s.parse.errors.head? = some e ∧ t.FirstError e k ∧ t.parse.errors.head? = some e := by
  suffices hfirst : t.FirstError e k by
    obtain ⟨d, hd, -⟩ := h
    obtain ⟨d', hd', hindex⟩ := hfirst
    exact ⟨Parse.exists_firstError_iff.1 ⟨d, hd⟩, ⟨d', hd', hindex⟩, Parse.exists_firstError_iff.1 ⟨d', hd'⟩⟩
  rcases Nat.lt_or_ge (k + 1) s.tokens.length with hlt | hge
  · obtain ⟨d, hd, rfl⟩ := h
    have hnext : s.tokens[s.index d + 1]? = t.tokens[s.index d + 1]? :=
      hagree.getElem?_eq (kind_ne_endOfInput hs) (Nat.le_refl _) hlt
    have hlt' : s.index d + 1 < t.tokens.length := by
      rw [List.getElem?_eq_getElem hlt] at hnext
      exact (List.getElem?_eq_some_iff.1 hnext.symm).1
    have hheads : (s.cursorAt (s.index d + 1)).current.kind = (t.cursorAt (s.index d + 1)).current.kind := by
      simp [TokenStream.cursorAt, Cursor.current, Cursor.peek, List.getElem?_drop, hnext, List.getElem?_eq_getElem hlt']
    let P : Pairing := .same _ _ hheads
    have hbeside : P.Beside (.ofStream s) (.ofStream t) := by
      refine ⟨s.tokens.take (s.index d + 1), s.tokens.take (s.index d + 1),
        List.forall₂_same.2 fun u _ => Pairing.same_alike u, ?_, ?_⟩
      · show Cursor.ofStream s = ⟨_ ++ s.tokens.drop _, s.finish⟩
        rw [List.take_append_drop]
        rfl
      · show Cursor.ofStream t = ⟨_ ++ t.tokens.drop _, t.finish⟩
        rw [hagree.take_eq (kind_ne_endOfInput hs) hlt, List.take_append_drop]
        rfl
    have hreach := hd.reaches.length_le
    have hin : P.Inside d := by
      right
      show (s.tokens.drop _).length < _
      rw [List.length_drop]
      unfold TokenStream.index at hlt ⊢
      omega
    obtain ⟨e', d', hfirst, herror, hbeside'⟩ := Pairing.firstError_beside hd hbeside hin
    have he : e' = e := by
      cases e
      cases e'
      exact congr (congrArg _ herror.cause.symm) herror.place.symm
    refine ⟨d', he ▸ hfirst, ?_⟩
    have hlength : d.rest.length + (t.tokens.drop _).length = d'.rest.length + (s.tokens.drop _).length :=
      hbeside'.length
    rw [List.length_drop, List.length_drop] at hlength
    unfold TokenStream.index at hlt hlt' hlength ⊢
    omega
  · obtain rfl := hagree.eq_of_length_le (kind_ne_endOfInput hs) (kind_ne_endOfInput ht) hge
    exact h

/-- The tokens of a template with two characteristics that break off. -/
def brokenTokens : List Token :=
  [⟨.keyword .template, "template", ⟨1, 1, 0⟩⟩, ⟨.string "T", "\"T\"", ⟨1, 10, 9⟩⟩,
    ⟨.mark .openBrace, "\x7b", ⟨1, 14, 13⟩⟩, ⟨.keyword .characteristics, "characteristics", ⟨1, 16, 15⟩⟩,
    ⟨.mark .openBrace, "\x7b", ⟨1, 32, 31⟩⟩, ⟨.identifier, "a", ⟨1, 34, 33⟩⟩, ⟨.mark .assign, "=", ⟨1, 36, 35⟩⟩,
    ⟨.mark .semicolon, ";", ⟨1, 38, 37⟩⟩, ⟨.identifier, "b", ⟨1, 40, 39⟩⟩, ⟨.mark .closeBrace, "\x7d", ⟨1, 42, 41⟩⟩,
    ⟨.mark .closeBrace, "\x7d", ⟨1, 44, 43⟩⟩]

/-- A characteristic that misses its value is passed over. The next one misses its sign, which is found at the brace
behind it and does not depend on what follows. -/
theorem firstError_foreseen_characteristic : ∃ s t, ∃ e : GrammarError,
    tokenize "template \"T\" \x7b characteristics \x7b a = ; b \x7d \x7d" = .ok s ∧
      tokenize "template \"T\" \x7b characteristics \x7b a = ; b \x7d \x7d let" = .ok t ∧
      s.FirstError e 9 ∧ s.AgreesUpTo t 10 ∧ e.position = ⟨1, 42, 41⟩ ∧ s.parse.errors.head? = some e ∧
      t.FirstError e 9 ∧ t.parse.errors.head? = some e := by
  have hs : tokenize "template \"T\" \x7b characteristics \x7b a = ; b \x7d \x7d" =
      .ok ⟨brokenTokens, ⟨1, 45, 44⟩⟩ := by
    cbv
  have ht : tokenize "template \"T\" \x7b characteristics \x7b a = ; b \x7d \x7d let" =
      .ok ⟨brokenTokens ++ [⟨.keyword .letVariable, "let", ⟨1, 46, 45⟩⟩], ⟨1, 49, 48⟩⟩ := by
    cbv
  have hfirst : TokenStream.FirstError ⟨brokenTokens, ⟨1, 45, 44⟩⟩
      ⟨.unexpectedToken "\x7d" ["'='"], ⟨1, 42, 41⟩⟩ 9 :=
    ⟨TokenStream.cursorAt ⟨brokenTokens, ⟨1, 45, 44⟩⟩ 9, .here (List.cons_ne_nil _ _) (by cbv), rfl⟩
  have hagree := TokenStream.AgreesUpTo.of_isPrefix (s := ⟨brokenTokens, ⟨1, 45, 44⟩⟩) (k := 10)
    (t := ⟨brokenTokens ++ [⟨.keyword .letVariable, "let", ⟨1, 46, 45⟩⟩], ⟨1, 49, 48⟩⟩)
    (List.prefix_append _ _) (by decide)
  exact ⟨_, _, _, hs, ht, hfirst, hagree, rfl, firstError_foreseen hs ht hfirst hagree⟩

end Source

end MediaLanguage
