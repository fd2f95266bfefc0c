import MediaLanguage.Proofs.Parser.Rounds

/-!
# A comment in front of a line break

An `Insertion` puts a comment in front of a line break of a text. Two runs are compared, one over the tokens without
the comment and one over the tokens with it. `Simulates K E R p q` says that from cursors related by `K`, what `p`
gives `q` gives too: the results are related by `R`, and the cursors behind them by `E`.

* `Insertion.Beside`: the cursors have the same tokens to read up to the comment, or are both behind it. Either they
  show the same token (`Insertion.At`), or the first shows the line break and the second the comment
  (`Insertion.Break`).
* `Simulates.bind` is the rule for sequences, `simulates_look` the rule for productions that look at the token at the
  cursor.
* The steps of the grammar keep cursors beside each other, as long as they ask neither for line breaks nor for
  comments, or skip both (`alike_skipWhile`, `alike_skipBody`).
-/

open MediaLanguage.Parser

namespace MediaLanguage

/-- A comment that is put in front of a line break, and the tokens around them. -/
structure Insertion where
  before : List Token
  comment : Token
  newline : Token
  after : List Token
  finish : Position
  comment_kind : comment.kind.isComment = true
  newline_kind : newline.kind = .newline

namespace Insertion

/-- The text without the comment. -/
def plain (I : Insertion) : TokenStream :=
  ⟨I.before ++ I.newline :: I.after, I.finish⟩

/-- The text with the comment. -/
def commented (I : Insertion) : TokenStream :=
  ⟨I.before ++ I.comment :: I.newline :: I.after, I.finish⟩

/-- The comment as a node. -/
def remark (I : Insertion) : Ast.Comment :=
  { text := wording I.comment.lexeme I.comment.text, multiline := I.comment.kind == .blockComment
    position := I.comment.position }

/-- The cursor at the line break. -/
def atNewline (I : Insertion) : Cursor :=
  ⟨I.newline :: I.after, I.finish⟩

/-- The cursor at the comment. -/
def atComment (I : Insertion) : Cursor :=
  ⟨I.comment :: I.newline :: I.after, I.finish⟩

/-- Cursors with the same tokens to read, but for the comment. -/
inductive Beside (I : Insertion) : Cursor → Cursor → Prop
  /-- The comment is still to be read. -/
  | front (own : List Token) (hown : own <:+ I.before) :
      Beside I ⟨own ++ I.newline :: I.after, I.finish⟩ ⟨own ++ I.comment :: I.newline :: I.after, I.finish⟩
  /-- The comment has been read. -/
  | behind (c : Cursor) : Beside I c c

/-- Cursors beside each other that show the token `t`. -/
structure At (I : Insertion) (t : Token) (c c' : Cursor) : Prop where
  beside : I.Beside c c'
  left : c.current = t
  right : c'.current = t

/-- Cursors beside each other that show the tokens `t` and `u`, one after the other. -/
def AtBoth (I : Insertion) (t u : Token) (c c' : Cursor) : Prop :=
  I.At t c c' ∧ I.At u c.advance c'.advance

/-- Cursors beside each other where the line ends, in front of the comment. -/
def Break (I : Insertion) (c c' : Cursor) : Prop :=
  c = I.atNewline ∧ c' = I.atComment

variable {I : Insertion} {c c' : Cursor} {t : Token}

/-! ## Cursors -/

/-- The whole texts are beside each other. -/
theorem beside_ofStream (I : Insertion) : I.Beside (.ofStream I.plain) (.ofStream I.commented) :=
  .front _ (List.suffix_refl _)

theorem lexeme_newline (I : Insertion) : I.newline.lexeme = .newline := by
  have hkind := I.newline_kind
  unfold Token.kind at hkind
  cases hlexeme : I.newline.lexeme <;> simp_all [Lexeme.kind]

theorem lexeme_comment (I : Insertion) :
    ∃ body, I.comment.lexeme = .comment body ∨ I.comment.lexeme = .blockComment body := by
  have hcomment := I.comment_kind
  unfold Token.kind at hcomment
  cases hlexeme : I.comment.lexeme <;> simp_all [Lexeme.kind, Kind.isComment]

theorem kind_comment (I : Insertion) : I.comment.kind = .comment ∨ I.comment.kind = .blockComment := by
  obtain ⟨body, hlexeme | hlexeme⟩ := I.lexeme_comment <;> simp [Token.kind, hlexeme, Lexeme.kind]

/-- The comment is of a kind that no production asks for. -/
theorem kind_comment_ne (I : Insertion) {kind : Kind} (h : isTrivia kind = false) : I.comment.kind ≠ kind := by
  rintro rfl
  simp [isTrivia, I.comment_kind] at h

/-- The line break is of a kind that no production asks for. -/
theorem kind_newline_ne (I : Insertion) {kind : Kind} (h : isTrivia kind = false) : I.newline.kind ≠ kind := by
  rintro rfl
  simp [isTrivia, I.newline_kind] at h

/-- A test that comes out the same for line breaks and comments of either form. -/
theorem skip_eq (I : Insertion) {skip : Kind → Bool} (hcomment : skip .newline = skip .comment)
    (hblock : skip .newline = skip .blockComment) : skip I.newline.kind = skip I.comment.kind := by
  obtain hkind | hkind := I.kind_comment <;> rw [I.newline_kind, hkind]
  · exact hcomment
  · exact hblock

theorem Break.beside (h : I.Break c c') : I.Beside c c' := by
  obtain ⟨rfl, rfl⟩ := h
  exact .front [] List.nil_suffix

/-- Cursors beside each other show the same token, or the line break and the comment. -/
theorem Beside.split (h : I.Beside c c') : (∃ t, I.At t c c') ∨ I.Break c c' := by
  cases h with
  | behind c => exact .inl ⟨c.current, .behind c, rfl, rfl⟩
  | front own hown =>
    cases own with
    | nil => exact .inr ⟨rfl, rfl⟩
    | cons t own => exact .inl ⟨t, .front (t :: own) hown, rfl, rfl⟩

/-- Behind a token that both show the cursors are beside each other. -/
theorem At.advance (h : I.At t c c') : I.Beside c.advance c'.advance := by
  obtain ⟨hbeside, hleft, hright⟩ := h
  cases hbeside with
  | behind c => exact .behind _
  | front own hown =>
    cases own with
    | cons u own => exact .front own ((List.suffix_cons u own).trans hown)
    | nil =>
      have heq : I.newline = I.comment := hleft.trans hright.symm
      have hcomment := I.comment_kind
      rw [← heq, I.newline_kind] at hcomment
      cases hcomment

/-- Behind tokens that are skipped both cursors show the same token, unless all tokens in front of the comment are
skipped. -/
theorem Beside.skip_split (skip : Kind → Bool) (h : I.Beside c c') :
    (∃ t, I.At t (c.skipWhile skip) (c'.skipWhile skip)) ∨
      ∃ own, (∀ t ∈ own, skip t.kind = true) ∧ c = ⟨own ++ I.newline :: I.after, I.finish⟩ ∧
        c' = ⟨own ++ I.comment :: I.newline :: I.after, I.finish⟩ := by
  cases h with
  | behind c => exact .inl ⟨_, .behind _, rfl, rfl⟩
  | front own hown =>
    by_cases hall : ∀ t ∈ own, skip t.kind = true
    · exact .inr ⟨own, hall, rfl, rfl⟩
    have hne : own.dropWhile (fun t => skip t.kind) ≠ [] := by simpa using hall
    have hdrop : ∀ ts, (own ++ ts).dropWhile (fun t => skip t.kind) = own.dropWhile (fun t => skip t.kind) ++ ts := by
      intro ts
      rw [List.dropWhile_append, if_neg (by simpa using hall)]
    obtain ⟨t, ts, hts⟩ := List.exists_cons_of_ne_nil hne
    have hsuffix : t :: ts <:+ I.before := hts ▸ (List.dropWhile_suffix _).trans hown
    simp only [Cursor.skipWhile, hdrop, hts]
    exact .inl ⟨t, .front (t :: ts) hsuffix, rfl, rfl⟩

/-- Skipping that passes over the line break and the comment, or over neither, leaves cursors beside each other. -/
theorem Beside.skipWhile {skip : Kind → Bool} (hskip : skip I.newline.kind = skip I.comment.kind)
    (h : I.Beside c c') : I.Beside (c.skipWhile skip) (c'.skipWhile skip) := by
  obtain ⟨t, hat⟩ | ⟨own, hown, rfl, rfl⟩ := h.skip_split skip
  · exact hat.beside
  simp only [Cursor.skipWhile, List.dropWhile_append_of_pos hown, List.dropWhile_cons]
  rw [hskip]
  split
  · exact .behind _
  · exact .front [] List.nil_suffix

/-- Behind bodies that are skipped cursors are beside each other. -/
theorem exists_afterBraces {own rest : List Token} {depth : Nat} (hown : own <:+ I.before)
    (h : afterBraces depth (own ++ I.newline :: I.after) = some rest) :
    ∃ rest', afterBraces depth (own ++ I.comment :: I.newline :: I.after) = some rest' ∧
      I.Beside ⟨rest, I.finish⟩ ⟨rest', I.finish⟩ := by
  induction own generalizing depth with
  | nil =>
    cases depth with
    | zero =>
      obtain rfl : I.newline :: I.after = rest := by simpa [afterBraces] using h
      exact ⟨I.comment :: I.newline :: I.after, rfl, .front [] hown⟩
    | succ depth =>
      -- The comment is no brace, so the count of open braces is the same behind it.
      have hpass : afterBraces (depth + 1) (I.comment :: I.newline :: I.after) =
          afterBraces (depth + 1) (I.newline :: I.after) := by
        rw [afterBraces.eq_3]
        split
        · next hkind => exact absurd hkind (I.kind_comment_ne rfl)
        · next hkind => exact absurd hkind (I.kind_comment_ne rfl)
        · rfl
      exact ⟨rest, hpass.trans h, .behind _⟩
  | cons t own ih =>
    have htail : own <:+ I.before := (List.suffix_cons t own).trans hown
    cases depth with
    | zero =>
      obtain rfl : t :: own ++ I.newline :: I.after = rest := by simpa [afterBraces] using h
      exact ⟨t :: own ++ I.comment :: I.newline :: I.after, rfl, .front (t :: own) hown⟩
    | succ depth =>
      rw [List.cons_append, afterBraces] at h ⊢
      split at h <;> exact ih htail h

end Insertion

/-! ## Sequences -/

/-- From cursors related by `K`, what `p` gives `q` gives too: the results are related by `R` and the cursors behind
them by `E`. -/
def Simulates (K E : Cursor → Cursor → Prop) {α β : Type} (R : α → β → Prop) (p : Parser α) (q : Parser β) : Prop :=
  ∀ c c', K c c' → ∀ a d, p c = (.ok a, d) → ∃ b d', q c' = (.ok b, d') ∧ R a b ∧ E d d'

section Rules

variable {K D E : Cursor → Cursor → Prop} {α β γ δ : Type} {R : α → β → Prop} {S : γ → δ → Prop} {p : Parser α}
  {q : Parser β} {f : α → Parser γ} {g : β → Parser δ}

/-- A result that is at hand. -/
theorem Simulates.pure {a : α} {b : β} (h : R a b) : Simulates K K R (Pure.pure a) (Pure.pure b) := by
  rintro c c' hK _ _ ⟨⟩
  exact ⟨b, c', rfl, h, hK⟩

/-- A sequence. -/
theorem Simulates.bind (hp : Simulates K D R p q) (hf : ∀ a b, R a b → Simulates D E S (f a) (g b)) :
    Simulates K E S (p >>= f) (q >>= g) := by
  intro c c' hK a e hrun
  obtain ⟨a', d, hpc, hfd⟩ := run_bind_ok.1 hrun
  obtain ⟨b', d', hqc, hR, hD⟩ := hp c c' hK a' d hpc
  obtain ⟨b, e', hgd, hS, hE⟩ := hf a' b' hR d d' hD a e hfd
  exact ⟨b, e', run_bind_ok.2 ⟨b', d', hqc, hgd⟩, hS, hE⟩

/-- A sequence whose first part gives the same in both runs. -/
theorem Simulates.next {p : Parser α} {g : α → Parser δ} (hp : Simulates K D Eq p p)
    (hf : ∀ a, Simulates D E S (f a) (g a)) : Simulates K E S (p >>= f) (p >>= g) := by
  apply hp.bind
  rintro a _ rfl
  exact hf a

/-- Results that are rewritten. -/
theorem Simulates.map {f : α → γ} {g : β → δ} (hp : Simulates K E R p q) (hf : ∀ a b, R a b → S (f a) (g b)) :
    Simulates K E S (f <$> p) (g <$> q) :=
  hp.bind fun a b hR => .pure (hf a b hR)

/-- A result that is the same in both runs is rewritten. -/
theorem Simulates.result {p : Parser α} {f : α → γ} {g : α → δ} (hp : Simulates K E Eq p p)
    (hf : ∀ a, S (f a) (g a)) : Simulates K E S (p >>= fun a => Pure.pure (f a)) (p >>= fun a => Pure.pure (g a)) :=
  hp.next fun a => .pure (hf a)

/-- A result that is the same in both runs is rewritten in the same way. -/
theorem Simulates.same {p : Parser α} {f : α → γ} (hp : Simulates K E Eq p p) :
    Simulates K E Eq (p >>= fun a => Pure.pure (f a)) (p >>= fun a => Pure.pure (f a)) :=
  hp.result fun _ => rfl

/-- Cursors that are related more closely. -/
theorem Simulates.of_imp (hp : Simulates D E R p q) (h : ∀ c c', K c c' → D c c') : Simulates K E R p q :=
  fun c c' hK => hp c c' (h c c' hK)

/-- Cursors that are left less closely related. -/
theorem Simulates.imp (hp : Simulates K D R p q) (h : ∀ c c', D c c' → E c c') : Simulates K E R p q := by
  intro c c' hK a d hrun
  obtain ⟨b, d', hq, hR, hD⟩ := hp c c' hK a d hrun
  exact ⟨b, d', hq, hR, h d d' hD⟩

/-- Results that are left less closely related. -/
theorem Simulates.imp_result {R' : α → β → Prop} (hp : Simulates K E R p q) (h : ∀ a b, R a b → R' a b) :
    Simulates K E R' p q := by
  intro c c' hK a d hrun
  obtain ⟨b, d', hq, hR, hE⟩ := hp c c' hK a d hrun
  exact ⟨b, d', hq, h a b hR, hE⟩

/-- Cursors that show the same token are beside each other. -/
theorem Simulates.at {I : Insertion} (hp : Simulates I.Beside E R p q) (t : Token) : Simulates (I.At t) E R p q :=
  hp.of_imp fun _ _ hat => hat.beside

/-- Nothing is claimed about a run that fails. -/
theorem Simulates.of_fails (h : ∀ c c', K c c' → ∀ a d, p c ≠ (.ok a, d)) : Simulates K E R p q :=
  fun c c' hK a d hrun => absurd hrun (h c c' hK a d)

theorem simulates_unexpected (expected : String) : Simulates K E R (unexpected expected) q :=
  .of_fails fun _ _ _ _ _ h => nomatch h

/-- A choice by a test that comes out the same. -/
theorem Simulates.ite {b : Bool} {p' : Parser α} {q' : Parser β} (htrue : b = true → Simulates K E R p q)
    (hfalse : b = false → Simulates K E R p' q') :
    Simulates K E R (if b then p else p') (if b then q else q') := by
  cases b with
  | true => exact htrue rfl
  | false => exact hfalse rfl

end Rules

namespace Insertion

/-- Productions that keep cursors beside each other. -/
abbrev Alike (I : Insertion) {α β : Type} (R : α → β → Prop) (p : Parser α) (q : Parser β) : Prop :=
  Simulates I.Beside I.Beside R p q

/-- Productions that keep cursors beside each other, from cursors on that show the same token. -/
abbrev AlikeAt (I : Insertion) (t : Token) {α β : Type} (R : α → β → Prop) (p : Parser α) (q : Parser β) : Prop :=
  Simulates (I.At t) I.Beside R p q

variable {I : Insertion} {t : Token}

section Look

variable {α β : Type} {R : α → β → Prop} {p : Parser α} {q : Parser β} {f : Token → Parser α} {g : Token → Parser β}
  {E : Cursor → Cursor → Prop}

/-- Cursors beside each other show the same token, or are where the line ends. -/
theorem simulates_split (hat : ∀ t, Simulates (I.At t) E R p q) (hbreak : Simulates I.Break E R p q) :
    Simulates I.Beside E R p q := by
  intro c c' h
  obtain ⟨t, ht⟩ | h := h.split
  · exact hat t c c' ht
  · exact hbreak c c' h

/-- A look at the token that both cursors show. -/
theorem simulates_current (h : Simulates (I.At t) E R (f t) (g t)) :
    Simulates (I.At t) E R (current >>= f) (current >>= g) := by
  intro c c' hat a d hrun
  rw [run_current_bind, hat.left] at hrun
  obtain ⟨b, d', hq, hR, hE⟩ := h c c' hat a d hrun
  exact ⟨b, d', by rw [run_current_bind, hat.right]; exact hq, hR, hE⟩

/-- A look at the tokens where the line ends. -/
theorem simulates_current_break (h : Simulates I.Break E R (f I.newline) (g I.comment)) :
    Simulates I.Break E R (current >>= f) (current >>= g) := by
  rintro _ _ ⟨rfl, rfl⟩ a d hrun
  exact h _ _ ⟨rfl, rfl⟩ a d hrun

/-- A production that looks at the token at the cursor. -/
theorem simulates_look (hat : ∀ t, Simulates (I.At t) E R (f t) (g t))
    (hbreak : Simulates I.Break E R (f I.newline) (g I.comment)) :
    Simulates I.Beside E R (current >>= f) (current >>= g) :=
  simulates_split (fun t => simulates_current (hat t)) (simulates_current_break hbreak)

/-- A look at the tokens after the ones that both cursors show. -/
theorem simulates_next (hboth : ∀ u, Simulates (I.AtBoth t u) E R (f u) (g u))
    (hbreak : Simulates (I.At t) E R (f I.newline) (g I.comment)) :
    Simulates (I.At t) E R (Parser.next >>= f) (Parser.next >>= g) := by
  have hpeek : ∀ c : Cursor, c.peek 1 = c.advance.current := by
    intro c
    simp [Cursor.peek, Cursor.current, Cursor.advance, List.getElem?_tail]
  intro c c' hat
  show ∀ a d, f (c.peek 1) c = (.ok a, d) → ∃ b d', g (c'.peek 1) c' = (.ok b, d') ∧ R a b ∧ E d d'
  rw [hpeek, hpeek]
  obtain ⟨u, hu⟩ | ⟨hleft, hright⟩ := hat.advance.split
  · rw [hu.left, hu.right]
    exact hboth u c c' ⟨hat, hu⟩
  · rw [hleft, hright]
    exact hbreak c c' hat

/-- A look at the tokens after the ones where the line ends. -/
theorem simulates_next_break (h : ∀ u, Simulates I.Break E R (f u) (g I.newline)) :
    Simulates I.Break E R (Parser.next >>= f) (Parser.next >>= g) := by
  rintro _ _ ⟨rfl, rfl⟩ a d hrun
  exact h (I.atNewline.peek 1) _ _ ⟨rfl, rfl⟩ a d hrun

end Look

/-! ## Tests and tokens -/

section Tests

variable {α β : Type} {R : α → β → Prop} {E : Cursor → Cursor → Prop} {kind : Kind} {f : Bool → Parser α}
  {g : Bool → Parser β}

/-- A test is a look at the token at the cursor. -/
theorem seesAny_bind (kinds : List Kind) (f : Bool → Parser α) :
    seesAny kinds >>= f = current >>= fun t => f (kinds.contains t.kind) := rfl

/-- A test of the token that both cursors show for several kinds. -/
theorem simulates_seesAny {kinds : List Kind}
    (h : Simulates (I.At t) E R (f (kinds.contains t.kind)) (g (kinds.contains t.kind))) :
    Simulates (I.At t) E R (seesAny kinds >>= f) (seesAny kinds >>= g) := by
  rw [seesAny_bind, seesAny_bind]
  exact simulates_current h

/-- A test of the token that both cursors show. -/
theorem simulates_sees (h : Simulates (I.At t) E R (f (t.kind == kind)) (g (t.kind == kind))) :
    Simulates (I.At t) E R (sees kind >>= f) (sees kind >>= g) := by
  apply simulates_seesAny
  rw [List.contains_cons, List.contains_nil, Bool.or_false]
  exact h

/-- Where the line ends, no test for another kind succeeds. -/
theorem simulates_sees_break (hkind : isTrivia kind = false) (h : Simulates I.Break E R (f false) (g false)) :
    Simulates I.Break E R (sees kind >>= f) (sees kind >>= g) := by
  unfold sees
  rw [seesAny_bind, seesAny_bind]
  apply simulates_current_break
  simpa [I.kind_newline_ne hkind, I.kind_comment_ne hkind] using h

/-- The token that both cursors show is read. -/
theorem alike_advance (t : Token) : I.AlikeAt t (fun u u' => u = t ∧ u' = t) advance advance := by
  rintro c c' hat _ _ ⟨⟩
  exact ⟨c'.current, c'.advance, rfl, ⟨hat.left, hat.right⟩, hat.advance⟩

/-- A token that both cursors show is read, and what follows is alike. -/
theorem alike_read {f : Token → Parser α} {g : Token → Parser β} (h : I.Alike R (f t) (g t)) :
    I.AlikeAt t R (advance >>= f) (advance >>= g) := by
  apply (alike_advance t).bind
  rintro _ _ ⟨rfl, rfl⟩
  exact h

/-- The first of two tokens that both cursors show is read. -/
theorem simulates_read {u : Token} {f : Token → Parser α} {g : Token → Parser β}
    (h : Simulates (I.At u) E R (f t) (g t)) : Simulates (I.AtBoth t u) E R (advance >>= f) (advance >>= g) := by
  rintro c c' ⟨⟨-, rfl, hright⟩, hat⟩
  show ∀ a d, f c.current c.advance = (.ok a, d) → ∃ b d', g c'.current c'.advance = (.ok b, d') ∧ R a b ∧ E d d'
  rw [hright]
  exact h _ _ hat

/-- Where the line ends, no token of another kind is read. -/
theorem simulates_accept_break (hkind : isTrivia kind = false) (h : Simulates I.Break E R (f false) (g false)) :
    Simulates I.Break E R (accept kind >>= f) (accept kind >>= g) := by
  have haccept : Simulates I.Break I.Break (fun b b' => b = false ∧ b' = false) (accept kind) (accept kind) :=
    simulates_sees_break hkind (.pure ⟨rfl, rfl⟩)
  apply haccept.bind
  rintro _ _ ⟨rfl, rfl⟩
  exact h

/-- A token of the kind is read, if it is there. -/
theorem alike_accept (hkind : isTrivia kind = false) : I.Alike Eq (accept kind) (accept kind) := by
  refine simulates_split (fun t => simulates_sees ?_) (simulates_sees_break hkind ?_)
  · exact .ite (fun _ => alike_read (.pure rfl)) (fun _ => Simulates.at (.pure rfl) t)
  · exact (Simulates.pure rfl).imp fun _ _ => Break.beside

theorem simulates_notThere {q : Parser β} {D : Cursor → Cursor → Prop} (expected : String) :
    Simulates D E R (notThere kind expected) q := by
  apply Simulates.of_fails
  intro c _ _ a d hrun
  obtain ⟨_, _, -, hfail⟩ := run_bind_ok.1 hrun
  split at hfail <;> cases hfail

/-- A token that is asked for. -/
theorem alike_expectAs (hkind : isTrivia kind = false) (expected : String) :
    I.Alike Eq (expectAs kind expected) (expectAs kind expected) := by
  refine simulates_split (fun t => simulates_sees ?_) (simulates_sees_break hkind (simulates_notThere expected))
  refine .ite (fun _ => ?_) (fun _ => simulates_notThere expected)
  exact (alike_advance t).imp_result fun _ _ h => h.1.trans h.2.symm

theorem alike_mark (m : Mark) : I.Alike Eq (mark m) (mark m) :=
  alike_expectAs rfl _

/-- Where the line ends, no mark is read. -/
theorem simulates_mark_break {R : Token → Token → Prop} (m : Mark) : Simulates I.Break E R (mark m) (mark m) :=
  simulates_sees_break rfl (simulates_notThere _)

theorem alike_keyword (w : Keyword) : I.Alike Eq (keyword w) (keyword w) :=
  alike_expectAs rfl _

end Tests

/-! ## Names, literals and annotations -/

theorem alike_string (expected : String) : I.Alike Eq (string expected) (string expected) := by
  apply simulates_look
  · intro t
    split
    · exact alike_read (.pure rfl)
    · exact simulates_unexpected expected
  · rw [I.lexeme_newline]
    exact simulates_unexpected expected

theorem alike_number (expected : String) : I.Alike Eq (number expected) (number expected) := by
  apply simulates_look
  · intro t
    split
    · exact alike_read (.pure rfl)
    · exact simulates_unexpected expected
  · rw [I.lexeme_newline]
    exact simulates_unexpected expected

theorem alike_name : I.Alike Eq name name := by
  apply simulates_look
  · intro t
    split
    · exact alike_read (.pure rfl)
    · exact simulates_unexpected _
  · rw [I.newline_kind]
    exact simulates_unexpected _

theorem alike_fieldName {α : Type} (table : List (String × α)) (kind : String) :
    I.Alike Eq (fieldName table kind) (fieldName table kind) := by
  apply simulates_look
  · intro t
    split
    · split
      · exact alike_read ((alike_mark _).same)
      · exact .of_fails fun _ _ _ _ _ h => nomatch h
    · exact simulates_unexpected _
  · rw [I.newline_kind]
    exact simulates_unexpected _

theorem alike_assignedText : I.Alike Eq assignedText assignedText :=
  (alike_accept rfl).next fun _ => .ite (fun _ => (alike_string _).same) (fun _ => .pure rfl)

theorem alike_tagValue : I.Alike Eq tagValue tagValue := by
  apply simulates_look
  · intro t
    split
    · exact alike_read (.pure rfl)
    · exact alike_assignedText.at t
  · have htext : I.Alike Eq assignedText assignedText := alike_assignedText
    obtain ⟨body, hlexeme | hlexeme⟩ := I.lexeme_comment <;> rw [I.lexeme_newline, hlexeme] <;>
      exact htext.of_imp fun _ _ => Break.beside

theorem alike_tag : I.Alike Eq tag tag := by
  apply simulates_look
  · intro t
    split
    · exact alike_read alike_tagValue.same
    · exact simulates_unexpected _
  · rw [I.lexeme_newline]
    exact simulates_unexpected _

theorem alike_tagComment : I.Alike Eq tagComment tagComment :=
  alike_tag.same

theorem alike_comment (t : Token) : I.AlikeAt t Eq Parser.comment Parser.comment :=
  alike_read (.pure rfl)

/-! ## Skipping -/

/-- Skipping that passes over line breaks and comments, or over neither. -/
theorem alike_skipWhile {skip : Kind → Bool} (hcomment : skip .newline = skip .comment)
    (hblock : skip .newline = skip .blockComment) : I.Alike Eq (skipWhile skip) (skipWhile skip) := by
  rintro c c' h _ _ ⟨⟩
  exact ⟨(), _, rfl, rfl, h.skipWhile (I.skip_eq hcomment hblock)⟩

theorem alike_skipSeparators : I.Alike Eq skipSeparators skipSeparators :=
  alike_skipWhile rfl rfl

theorem alike_skipTrivia : I.Alike Eq (skipWhile isTrivia) (skipWhile isTrivia) :=
  alike_skipWhile rfl rfl

/-- The rest of a body that is not read. -/
theorem alike_skipBody : I.Alike Eq skipBody skipBody := by
  rintro c c' h ⟨⟩ d hskip
  cases hafter : afterBraces 1 c.rest with
  | none =>
    rw [Pairing.run_skipBody_none hafter] at hskip
    cases hskip
  | some rest =>
    rw [Pairing.run_skipBody_some hafter] at hskip
    cases hskip
    cases h with
    | behind c => exact ⟨(), _, Pairing.run_skipBody_some hafter, rfl, .behind _⟩
    | front own hown =>
      obtain ⟨rest', hafter', hbeside⟩ := exists_afterBraces hown hafter
      exact ⟨(), _, Pairing.run_skipBody_some hafter', rfl, hbeside⟩

theorem alike_skipBraces : I.Alike Eq skipBraces skipBraces :=
  (alike_mark _).next fun _ => alike_skipBody

theorem alike_skipBracesIfAny : I.Alike Eq skipBracesIfAny skipBracesIfAny := by
  refine simulates_split (fun t => simulates_sees ?_) (simulates_sees_break rfl ?_)
  · exact .ite (fun _ => alike_skipBraces.at t) (fun _ => Simulates.at (.pure rfl) t)
  · exact (Simulates.pure rfl).imp fun _ _ => Break.beside

end Insertion

end MediaLanguage
