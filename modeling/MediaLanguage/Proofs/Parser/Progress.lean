import Mathlib.Data.List.DropRight
import MediaLanguage.Parser.Program

/-!
# Productions read tokens

A production that succeeds has read a token, unless it may be empty (`Consumes`). A sequence reads a token when one of
its parts does, so the fact is read off the first part of a production that must read.

* `consumes_statement`: a statement is never empty.
* `Parse.fromCursor_eq`: so each round over the statements of a text has fewer tokens to read, and the test that ends
  an idle run is never met.
-/

namespace MediaLanguage

namespace Cursor

/-- A cursor that is reached has no more tokens to read. -/
theorem Reaches.length_le {c d : Cursor} (h : c.Reaches d) : d.rest.length ≤ c.rest.length :=
  h.rest.length_le

/-- A cursor at a token other than the end has tokens to read. -/
theorem rest_ne_nil_of_kind {c : Cursor} (h : c.current.kind ≠ .endOfInput) : c.rest ≠ [] := by
  intro hnil
  apply h
  simp [current, peek, hnil, Token.finish, Token.kind, Lexeme.kind]

end Cursor

namespace Parser

open Ast

section Runs

variable {α β : Type}

theorem run_current (c : Cursor) : current c = (.ok c.current, c) := rfl

/-- A look at the token at the cursor. -/
theorem run_current_bind (f : Token → Parser β) (c : Cursor) : (current >>= f) c = f c.current c := rfl

/-- A test whether the cursor is at a token of a kind. -/
theorem run_sees (kind : Kind) (c : Cursor) : sees kind c = (.ok (c.current.kind == kind), c) := by
  show (Except.ok (c.current.kind == kind || false), c) = _
  rw [Bool.or_false]

/-- A sequence succeeds when its parts do. -/
theorem run_bind_ok {p : Parser α} {f : α → Parser β} {c e : Cursor} {b : β} :
    (p >>= f) c = (.ok b, e) ↔ ∃ a d, p c = (.ok a, d) ∧ f a d = (.ok b, e) := by
  show continueWith f (p c) = _ ↔ _
  rcases p c with ⟨_ | a, d⟩
  · simp [continueWith]
  · constructor
    · intro h
      exact ⟨a, d, rfl, h⟩
    · rintro ⟨_, _, ⟨⟩, h⟩
      exact h

/-- A sequence fails when one of its parts does. -/
theorem run_bind_error {p : Parser α} {f : α → Parser β} {c d : Cursor} {e : Failure} :
    (p >>= f) c = (.error e, d) ↔
      p c = (.error e, d) ∨ ∃ a d', p c = (.ok a, d') ∧ f a d' = (.error e, d) := by
  show continueWith f (p c) = _ ↔ _
  rcases p c with ⟨_ | a, d'⟩ <;> simp [continueWith]

/-- A token of the kind is read, if it is there. -/
theorem run_accept_bind (kind : Kind) (f : Bool → Parser α) (c : Cursor) :
    (accept kind >>= f) c = if c.current.kind == kind then f true c.advance else f false c := by
  have haccept : accept kind c = if c.current.kind == kind then (.ok true, c.advance) else (.ok false, c) := by
    show (if c.current.kind == kind || false then do let _ ← advance; return true else return false : Parser Bool) c = _
    rw [Bool.or_false]
    split <;> rfl
  show continueWith f (accept kind c) = _
  rw [haccept]
  split <;> rfl

end Runs

/-! ## Reading a token -/

/-- At `c`, `p` fails or reads a token. -/
def Consumes {α : Type} (p : Parser α) (c : Cursor) : Prop :=
  ∀ a d, p c = (.ok a, d) → d.rest.length < c.rest.length

section Consumes

variable {α β : Type} {p : Parser α} {f : α → Parser β} {c : Cursor}

/-- A sequence reads a token when its first part does. -/
theorem Consumes.bind (h : Consumes p c) : Consumes (p >>= f) c := by
  intro b e hrun
  obtain ⟨a, d, hp, hf⟩ := run_bind_ok.1 hrun
  have hnext := ((f a).forward d).length_le
  rw [hf] at hnext
  exact Nat.lt_of_le_of_lt hnext (h a d hp)

/-- A sequence reads a token when what follows its first part does. -/
theorem consumes_bind_of_next (h : ∀ a d, p c = (.ok a, d) → Consumes (f a) d) : Consumes (p >>= f) c := by
  intro b e hrun
  obtain ⟨a, d, hp, hf⟩ := run_bind_ok.1 hrun
  have hfirst := (p.forward c).length_le
  rw [hp] at hfirst
  exact Nat.lt_of_lt_of_le (h a d hp b e hf) hfirst

/-- A look at the cursor reads nothing; what follows may. -/
theorem consumes_current {f : Token → Parser β} (h : Consumes (f c.current) c) : Consumes (current >>= f) c := by
  apply consumes_bind_of_next
  intro t d hrun
  rw [run_current] at hrun
  cases hrun
  exact h

/-- The result of a production changes nothing about what it reads. -/
theorem Consumes.map {g : α → β} (h : Consumes p c) : Consumes (g <$> p) c :=
  Consumes.bind h

/-- A failure is no success. -/
theorem consumes_unexpected (expected : String) : Consumes (unexpected expected : Parser α) c :=
  fun _ _ h => nomatch h

/-- A token is read where there is one. -/
theorem consumes_advance (h : c.rest ≠ []) : Consumes advance c := by
  rintro t d hrun
  cases hrun
  show c.rest.tail.length < c.rest.length
  rw [List.length_tail]
  have := List.length_pos_iff.2 h
  omega

/-- At a token other than the end, one is read. -/
theorem consumes_advance_of_kind (h : c.current.kind ≠ .endOfInput) : Consumes advance c :=
  consumes_advance (Cursor.rest_ne_nil_of_kind h)

end Consumes

/-! ## Tokens, names and literals -/

section Tokens

variable {c : Cursor}

/-- A failure for a token that is not there is no success. -/
theorem consumes_notThere {α : Type} (kind : Kind) (expected : String) :
    Consumes (notThere kind expected : Parser α) c := by
  apply consumes_bind_of_next
  intro b d _
  split
  · exact fun _ _ h => nomatch h
  · exact consumes_unexpected expected

/-- A token that is asked for is read. -/
theorem consumes_expectAs {kind : Kind} (hkind : kind ≠ .endOfInput) (expected : String) :
    Consumes (expectAs kind expected) c := by
  apply consumes_bind_of_next
  intro b d hrun
  rw [run_sees] at hrun
  cases hrun
  split
  · next hsees =>
    apply consumes_advance_of_kind
    rw [beq_iff_eq.1 hsees]
    exact hkind
  · exact consumes_notThere kind expected

/-- A mark is read. -/
theorem consumes_mark (m : Mark) : Consumes (mark m) c :=
  consumes_expectAs (by simp) _

/-- A keyword is read. -/
theorem consumes_keyword (w : Keyword) : Consumes (keyword w) c :=
  consumes_expectAs (by simp) _

/-- A token that is read where the cursor is at no end. -/
theorem Consumes.of_advance {α : Type} {f : Token → Parser α} (h : c.current.kind ≠ .endOfInput) :
    Consumes (advance >>= f) c :=
  (consumes_advance_of_kind h).bind

/-- A string literal is read. -/
theorem consumes_string (expected : String) : Consumes (string expected) c := by
  apply consumes_current
  split
  · next value h => exact .of_advance (by simp [Token.kind, h, Lexeme.kind])
  · exact consumes_unexpected expected

/-- A number is read. -/
theorem consumes_number (expected : String) : Consumes (number expected) c := by
  apply consumes_current
  split
  · next value h => exact .of_advance (by simp [Token.kind, h, Lexeme.kind])
  · exact consumes_unexpected expected

/-- A name is read. -/
theorem consumes_name : Consumes name c := by
  apply consumes_current
  split
  · next h =>
    apply Consumes.of_advance
    intro hend
    simp [hend, Kind.isKeyword] at h
  · exact consumes_unexpected _

/-- Items in braces read the braces. -/
theorem consumes_braced {α : Type} (skip : Kind → Bool) (item : Parser (List α)) : Consumes (braced skip item) c :=
  (consumes_mark .openBrace).bind

/-- An annotation is read. -/
theorem consumes_tag : Consumes tag c := by
  apply consumes_current
  split
  · next name h => exact .of_advance (by simp [Token.kind, h, Lexeme.kind])
  · exact consumes_unexpected _

end Tokens

/-! ## Expressions and statements -/

section Statements

variable {c : Cursor}

/-- An object is not empty. -/
theorem consumes_objectOf (value : Parser Expr) : Consumes (objectOf value) c :=
  consumes_current (consumes_braced _ _).bind

/-- An expression is not empty. -/
theorem consumes_expressionWithin (depth : Nat) : Consumes (expressionWithin depth) c := by
  cases depth with
  | zero => exact consumes_unexpected _
  | succ depth =>
    apply consumes_current
    split
    · next h => exact .of_advance (by simp [Token.kind, h, Lexeme.kind])
    · next h => exact .of_advance (by simp [Token.kind, h, Lexeme.kind])
    · next h => exact .of_advance (by simp [Token.kind, h, Lexeme.kind])
    · next h => exact .of_advance (by simp [Token.kind, h, Lexeme.kind])
    · exact (consumes_objectOf _).bind
    · exact consumes_unexpected _

/-- A body of a vocabulary is not empty. -/
theorem consumes_vocabularyBody : Consumes vocabularyBody c :=
  consumes_current consumes_name.bind

/-- A statement is not empty. -/
theorem consumes_statement (h : c.rest ≠ []) : Consumes statement c := by
  have hadvance : Consumes advance c := consumes_advance h
  apply consumes_current
  split
  case h_1 => exact (consumes_keyword _).bind.map
  case h_2 => exact (consumes_keyword _).bind.map
  case h_3 => exact (consumes_keyword _).bind.map
  case h_4 => exact (consumes_keyword _).bind.map
  case h_5 => exact hadvance.bind.map
  case h_6 => exact (consumes_keyword _).bind.map
  case h_7 => exact (consumes_keyword _).bind.map
  case h_8 => exact (consumes_keyword _).bind.map
  case h_9 => exact (consumes_keyword _).bind.map
  case h_10 => exact (consumes_keyword _).bind.map
  case h_11 => exact hadvance.bind.map
  case h_12 => exact hadvance.bind.map
  case h_13 => exact hadvance.bind.map
  case h_14 => exact hadvance.bind.map
  case h_15 => exact consumes_tag.bind.map
  case h_16 =>
    apply consumes_bind_of_next
    intro t d hrun
    cases hrun
    dsimp only
    split
    · exact hadvance.bind.map
    · split
      · exact consumes_vocabularyBody.bind.map
      · exact consumes_unexpected _
  case h_17 => exact consumes_unexpected _

end Statements

end Parser

/-! ## Rounds over a text -/

/-- Going on after an error passes over a token. -/
theorem Cursor.length_synchronize (c : Cursor) : c.synchronize.rest.length ≤ c.rest.length - 1 := by
  have hskip := (c.advance.reaches_skipWhile fun k => !(k == .mark .semicolon || Parser.startsStatement k)).length_le
  have hadvance : c.advance.rest.length = c.rest.length - 1 := List.length_tail
  unfold synchronize
  dsimp only
  split
  · have hnext := (reaches_advance (c.advance.skipWhile fun k =>
      !(k == .mark .semicolon || Parser.startsStatement k))).length_le
    omega
  · omega

namespace Parse

/-- One round over the statements of a text: a statement or an error, and the rounds that follow. -/
theorem fromCursor_eq (start : Cursor) :
    fromCursor start =
      (let c := start.skipWhile Parser.isDivider
      if c.rest.isEmpty then nothing c
      else
        match Parser.statement c with
        | (.ok s, d) => (fromCursor d).withStatement s
        | (.error (.grammar e), d) => (fromCursor d.synchronize).withError e
        | (.error (.conversion e), d) => ⟨[], [], some e, d⟩) := by
  have hskip := (start.reaches_skipWhile Parser.isDivider).length_le
  rw [fromCursor]
  dsimp only
  by_cases hempty : (start.skipWhile Parser.isDivider).rest.isEmpty = true
  · rw [if_pos hempty, if_pos hempty]
  · have hne : (start.skipWhile Parser.isDivider).rest ≠ [] := by simpa using hempty
    rw [if_neg hempty, if_neg hempty]
    rcases hrun : Parser.statement (start.skipWhile Parser.isDivider) with ⟨(e | e) | s, d⟩
    · have hback := (Parser.statement.forward (start.skipWhile Parser.isDivider)).length_le
      have hsync := d.length_synchronize
      have hpos := List.length_pos_iff.2 hne
      rw [hrun] at hback
      dsimp only at hback ⊢
      rw [if_pos (by omega)]
    · rfl
    · have hlt := Parser.consumes_statement hne s d hrun
      dsimp only
      rw [if_pos (by omega)]

section Rounds

variable {start d : Cursor}

/-- A round at the end of a text. -/
theorem fromCursor_of_empty (h : (start.skipWhile Parser.isDivider).rest = []) :
    fromCursor start = nothing (start.skipWhile Parser.isDivider) := by
  rw [fromCursor_eq]
  exact if_pos (List.isEmpty_iff.2 h)

/-- A round that finds a statement. -/
theorem fromCursor_of_statement {s : Ast.Statement} (h : (start.skipWhile Parser.isDivider).rest ≠ [])
    (hrun : Parser.statement (start.skipWhile Parser.isDivider) = (.ok s, d)) :
    fromCursor start = (fromCursor d).withStatement s := by
  rw [fromCursor_eq]
  dsimp only
  rw [if_neg (by simpa using h), hrun]

/-- A round that finds an error. -/
theorem fromCursor_of_grammar {e : GrammarError} (h : (start.skipWhile Parser.isDivider).rest ≠ [])
    (hrun : Parser.statement (start.skipWhile Parser.isDivider) = (.error (.grammar e), d)) :
    fromCursor start = (fromCursor d.synchronize).withError e := by
  rw [fromCursor_eq]
  dsimp only
  rw [if_neg (by simpa using h), hrun]

/-- A round that is stopped by a number. -/
theorem fromCursor_of_conversion {e : ConversionError} (h : (start.skipWhile Parser.isDivider).rest ≠ [])
    (hrun : Parser.statement (start.skipWhile Parser.isDivider) = (.error (.conversion e), d)) :
    fromCursor start = ⟨[], [], some e, d⟩ := by
  rw [fromCursor_eq]
  dsimp only
  rw [if_neg (by simpa using h), hrun]

end Rounds

/-- Line breaks and semicolons in front of the statements change nothing. -/
theorem fromCursor_skipWhile (start : Cursor) :
    fromCursor (start.skipWhile Parser.isDivider) = fromCursor start := by
  rw [fromCursor_eq, fromCursor_eq start]
  have hidem : (start.skipWhile Parser.isDivider).skipWhile Parser.isDivider =
      start.skipWhile Parser.isDivider := by
    simp only [Cursor.skipWhile, List.dropWhile_idempotent]
  rw [hidem]

end Parse

end MediaLanguage
