import Mathlib
import MediaLanguage.Proofs.Outcome
import MediaLanguage.Proofs.Parser.Whole
import MediaLanguage.Proofs.Token.Order
import MediaLanguage.Proofs.Token.Relex
import MediaLanguage.Proofs.Validation.Relocate

/-!
# Layout does not reach the output

Texts whose tokens agree in everything but their places, and in the spelling of comments, are two runs of one
compilation. Both sides give each place the number of its token (`TokenStream.numbered`): read through these numbers
the tokens are alike, so the texts write programs that look the same (`result_numbered`). From there on no step looks
at a place, and a program that is moved has the same model and the same verdict.

* `SameEnding` lists how two such compilations end.
* `compile_ignores_layout`: there is no other way.
-/

namespace MediaLanguage

open Ast

/-! ## Tokens that agree -/

/-- Tokens of one kind and value; their texts are the same unless they are comments. -/
structure Token.Agrees (t u : Token) : Prop where
  kind : t.kind = u.kind
  payload : t.payload = u.payload
  text : t.kind.isComment = false → t.text = u.text

/-- Kind and value of a token make up its lexeme. -/
theorem Token.Agrees.lexeme {t u : Token} (h : t.Agrees u) : t.lexeme = u.lexeme := by
  obtain ⟨l, x, p⟩ := t
  obtain ⟨m, y, q⟩ := u
  have hkind : l.kind = m.kind := h.kind
  have hpayload := h.payload
  cases l <;> cases m <;> cases hkind <;> first | rfl | (cases hpayload; rfl)

/-! ## Places as numbers of tokens -/

namespace TokenStream

/-- The number of the token at a place, written as a place; a place without a token goes to `elsewhere`. -/
def numbered (s : TokenStream) (elsewhere p : Position) : Position :=
  if s.indexAt p < s.withEnd.length then ⟨s.indexAt p, 1, 0⟩ else elsewhere

variable {s t : TokenStream}

/-- The number of a token. -/
theorem Stands.numbered_eq {i : Nat} {p : Position} (h : s.Stands i p) (hs : Ascends .start s.withEnd)
    (elsewhere : Position) : s.numbered elsewhere p = ⟨i, 1, 0⟩ := by
  have hlt : i < s.withEnd.length := by
    obtain ⟨t, ht, -⟩ := h
    exact (List.getElem?_eq_some_iff.1 ht).1
  rw [numbered, h.indexAt_eq hs, if_pos hlt]

/-- Places with one number are those of tokens at one index, if places without a token go to different places. -/
theorem exists_stands_of_numbered {p q : Position} (h : s.numbered ⟨0, 0, 0⟩ p = t.numbered ⟨1, 0, 0⟩ q) :
    ∃ i, s.Stands i p ∧ t.Stands i q := by
  unfold numbered at h
  split at h <;> split at h
  · next hs ht =>
    have hindex : s.indexAt p = t.indexAt q := congrArg Position.line h
    refine ⟨s.indexAt p, stands_indexAt hs, ?_⟩
    rw [hindex]
    exact stands_indexAt ht
  all_goals simp at h

end TokenStream

/-! ## Programs -/

section Numbered

variable {a b : String} {s t : TokenStream}

/-- Two texts, read through the numbers of their tokens. -/
def numberedPairing (s t : TokenStream) : Pairing where
  view := .moving (s.numbered ⟨0, 0, 0⟩)
  view' := .moving (t.numbered ⟨1, 0, 0⟩)
  cause := GrammarCause.unspelled
  after := ⟨[], s.finish⟩
  after' := ⟨[], t.finish⟩
  name_eq := rfl
  level_eq e e' h := by
    have htext := congrArg Parser.aggregationText h
    rwa [Pairing.aggregationText_moving, Pairing.aggregationText_moving] at htext
  heads := .inl rfl

/-- Texts whose tokens agree write programs that look the same through the numbers of the tokens, or fail alike. -/
theorem result_numbered (ha : tokenize a = .ok s) (hb : tokenize b = .ok t)
    (h : List.Forall₂ Token.Agrees s.tokens t.tokens) :
    (numberedPairing s t).SameResult (parse a) (parse b) := by
  have hs := tokenize_ascends ha
  have ht := tokenize_ascends hb
  have hparse : parse a = s.parse.result [] ∧ parse b = t.parse.result [] := by
    rw [parse, parse, ha, hb]
    exact ⟨rfl, rfl⟩
  rw [hparse.1, hparse.2]
  have hplace : ∀ i p q, s.Stands i p → t.Stands i q →
      s.numbered ⟨0, 0, 0⟩ p = t.numbered ⟨1, 0, 0⟩ q := by
    intro i p q hp hq
    rw [hp.numbered_eq hs, hq.numbered_eq ht]
  have hlength := h.length_eq
  refine Pairing.result_whole rfl rfl ?_ (List.forall₂_iff_get.2 ⟨hlength, fun i hi hj => ?_⟩)
  · apply hplace s.tokens.length
    · exact ⟨_, List.getElem?_concat_length, rfl⟩
    · rw [hlength]
      exact ⟨_, List.getElem?_concat_length, rfl⟩
  · have hagrees := List.Forall₂.get h hi hj
    refine ⟨hagrees.lexeme, ?_, fun hword => ?_, fun _ => rfl, fun _ => rfl⟩
    · apply hplace i
      · exact ⟨_, by rw [TokenStream.withEnd, List.getElem?_append_left hi]; exact List.getElem?_eq_getElem hi, rfl⟩
      · exact ⟨_, by rw [TokenStream.withEnd, List.getElem?_append_left hj]; exact List.getElem?_eq_getElem hj, rfl⟩
    · have htext := hagrees.text (by
        revert hword
        cases (s.tokens.get ⟨i, hi⟩).kind <;> simp [Kind.isComment, Kind.isKeyword])
      rw [Pairing.SameName, htext]
      exact ⟨rfl, rfl⟩

end Numbered

/-! ## Compilations -/

/-- How the compilations of two texts end that differ in layout: with the same output; with errors of one kind, at the
places of tokens that have the same index in the two texts; or with the same number that has no integer part. -/
inductive SameEnding (s t : TokenStream) : Except Error String → Except Error String → Prop
  | output (text : String) : SameEnding s t (.ok text) (.ok text)
  | grammar {e e' : GrammarError} {i : Nat} (hname : e.cause.name = e'.cause.name) (hs : s.Stands i e.position)
      (ht : t.Stands i e'.position) : SameEnding s t (.error (.grammar e)) (.error (.grammar e'))
  | semantic (name message : String) {p q : Position} {i : Nat} (hs : s.Stands i p) (ht : t.Stands i q) :
      SameEnding s t (.error (.semantic name message p)) (.error (.semantic name message q))
  | conversion (e : ConversionError) : SameEnding s t (.error (.conversion e)) (.error (.conversion e))

/-- What follows a step that may stop on a number. -/
theorem SameEnding.orConversionError_bind {s t : TokenStream} {α : Type} (x : Except ConversionError α)
    {next next' : α → Except Error String} (h : ∀ a, x = .ok a → SameEnding s t (next a) (next' a)) :
    SameEnding s t (orConversionError x >>= next) (orConversionError x >>= next') := by
  cases x with
  | error e => exact .conversion e
  | ok a => exact h a rfl

/-- A model is written out in one way. -/
theorem SameEnding.generate {s t : TokenStream} (target : Target) (model : Model.Program) :
    SameEnding s t (target.generate model >>= Generation.result) (target.generate model >>= Generation.result) := by
  rw [target.generate_eq]
  cases htext : target.text model with
  | error e =>
    obtain ⟨c, rfl⟩ := Target.exists_of_text_error htext
    exact .conversion c
  | ok text => exact .output text

/-- Texts whose tokens agree but for their places and the spelling of comments compile to the same output, or fail
with errors of one kind at the same token, or on the same number. -/
theorem compile_ignores_layout {a b : String} {s t : TokenStream} (ha : tokenize a = .ok s) (hb : tokenize b = .ok t)
    (h : List.Forall₂ Token.Agrees s.tokens t.tokens) (target : Target) :
    SameEnding s t (compile a target.name) (compile b target.name) := by
  unfold compile
  rw [target.ofName_name]
  change SameEnding s t (parse a >>= _) (parse b >>= _)
  have hresult := result_numbered ha hb h
  generalize parse a = x, parse b = y at hresult
  cases hresult with
  | grammar herror =>
    obtain ⟨i, hs, ht⟩ := TokenStream.exists_stands_of_numbered herror.place
    exact .grammar (GrammarCause.name_eq_of_unspelled herror.cause) hs ht
  | conversion e => exact .conversion e
  | @program p q hstatements =>
    have hmoved : p.relocate (s.numbered ⟨0, 0, 0⟩) = q.relocate (t.numbered ⟨1, 0, 0⟩) :=
      congrArg Program.mk hstatements
    have hintegers : Validator.integers p = Validator.integers q := by
      rw [← Validator.integers_relocate _ p, hmoved, Validator.integers_relocate]
    have hlower : p.lower = q.lower := by
      rw [← Program.lower_relocate _ p, hmoved, Program.lower_relocate]
    change SameEnding s t (orConversionError p.validate >>= _) (orConversionError q.validate >>= _)
    rw [Program.validate, Program.validate, ← hintegers, hlower]
    cases Number.requireIntegers (Validator.integers p) with
    | error e => exact .conversion e
    | ok =>
      change SameEnding s t (orConversionError (.ok _) >>= _) (orConversionError (.ok _) >>= _)
      rw [orConversionError_ok_bind, orConversionError_ok_bind]
      obtain ⟨hp, hq⟩ | ⟨name, message, place, place', hp, hq, hplace⟩ := error?_of_relocate_eq hmoved
      · rw [hp, hq]
        exact .orConversionError_bind q.lower fun model _ => .generate target model
      · rw [hp, hq]
        obtain ⟨i, hs, ht⟩ := TokenStream.exists_stands_of_numbered hplace
        exact .semantic name message hs ht

/-- A unit without columns and a comment behind it. -/
def emptyUnitSource : String :=
  "unit u\x7b\x7d// c"

/-- The unit with blanks between the tokens and at the end of the comment. -/
def emptyUnitSpaced : String :=
  "  unit\tu \x7b\r\x7d // c  "

/-- The unit without columns is an error at its first token, with and without the blanks. -/
theorem compile_ignores_layout_emptyUnit :
    ∃ s t, tokenize emptyUnitSource = .ok s ∧ tokenize emptyUnitSpaced = .ok t ∧
      List.Forall₂ Token.Agrees s.tokens t.tokens ∧
      SameEnding s t (compile emptyUnitSource "sql") (compile emptyUnitSpaced "sql") := by
  have ha : tokenize emptyUnitSource = .ok
      ⟨[⟨.keyword .unit, "unit", ⟨1, 1, 0⟩⟩, ⟨.identifier, "u", ⟨1, 6, 5⟩⟩, ⟨.mark .openBrace, "\x7b", ⟨1, 7, 6⟩⟩,
        ⟨.mark .closeBrace, "\x7d", ⟨1, 8, 7⟩⟩, ⟨.comment "c", "// c", ⟨1, 9, 8⟩⟩], ⟨1, 13, 12⟩⟩ := by
    cbv
  have hb : tokenize emptyUnitSpaced = .ok
      ⟨[⟨.keyword .unit, "unit", ⟨1, 3, 2⟩⟩, ⟨.identifier, "u", ⟨1, 8, 7⟩⟩, ⟨.mark .openBrace, "\x7b", ⟨1, 10, 9⟩⟩,
        ⟨.mark .closeBrace, "\x7d", ⟨1, 12, 11⟩⟩, ⟨.comment "c", "// c  ", ⟨1, 14, 13⟩⟩], ⟨1, 20, 19⟩⟩ := by
    cbv
  have h : List.Forall₂ Token.Agrees
      [⟨.keyword .unit, "unit", ⟨1, 1, 0⟩⟩, ⟨.identifier, "u", ⟨1, 6, 5⟩⟩, ⟨.mark .openBrace, "\x7b", ⟨1, 7, 6⟩⟩,
        ⟨.mark .closeBrace, "\x7d", ⟨1, 8, 7⟩⟩, ⟨.comment "c", "// c", ⟨1, 9, 8⟩⟩]
      [⟨.keyword .unit, "unit", ⟨1, 3, 2⟩⟩, ⟨.identifier, "u", ⟨1, 8, 7⟩⟩, ⟨.mark .openBrace, "\x7b", ⟨1, 10, 9⟩⟩,
        ⟨.mark .closeBrace, "\x7d", ⟨1, 12, 11⟩⟩, ⟨.comment "c", "// c  ", ⟨1, 14, 13⟩⟩] := by
    refine .cons ⟨rfl, rfl, fun _ => rfl⟩ (.cons ⟨rfl, rfl, fun _ => rfl⟩ (.cons ⟨rfl, rfl, fun _ => rfl⟩
      (.cons ⟨rfl, rfl, fun _ => rfl⟩ (.cons ⟨rfl, rfl, fun hcode => ?_⟩ .nil))))
    cases hcode
  exact ⟨_, _, ha, hb, h, compile_ignores_layout ha hb h .sql⟩

end MediaLanguage
