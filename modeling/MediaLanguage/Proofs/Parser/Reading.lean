import MediaLanguage.Proofs.Ast.Leaves
import MediaLanguage.Proofs.Parser.Braces
import MediaLanguage.Proofs.Parser.Steps

/-!
# What a production reads

`Reads P L R p c` says what a run of `p` at `c` does with the tokens there, if their leaves satisfy `P`. A success has
read tokens of the language `L` and gives a result that satisfies `R`; a failed conversion is due to a number that
satisfies `P`. Sequences read the tokens of their parts one after the other, so the fact is proved production by
production. Most productions read tokens whose braces are paired (`Matched`), and give nodes with leaves that satisfy
`P` (`Bears`).
-/

namespace MediaLanguage

namespace Cursor

/-- The tokens at the cursor carry leaves that satisfy `P`. -/
def Carries (P : Leaf → Prop) (c : Cursor) : Prop :=
  ∀ t ∈ c.rest, ∀ l, t.leaf? = some l → P l

variable {P : Leaf → Prop} {c : Cursor}

/-- Tokens further on carry leaves that satisfy `P` too. -/
theorem Carries.of_suffix {d : Cursor} (h : c.Carries P) (hd : d.rest <:+ c.rest) : d.Carries P :=
  fun t ht => h t (hd.subset ht)

/-- At a token other than the end, the tokens are that one and those behind it. -/
theorem rest_eq_cons (h : c.current.kind ≠ .endOfInput) : c.rest = c.current :: c.advance.rest := by
  obtain ⟨t, ts, hrest⟩ := List.exists_cons_of_ne_nil (rest_ne_nil_of_kind h)
  simp [current, peek, advance, hrest]

/-- The leaf of the token at the cursor satisfies `P`. -/
theorem Carries.leaf {l : Leaf} (h : c.Carries P) (hl : c.current.leaf? = some l) : P l := by
  have hne : c.current.kind ≠ .endOfInput := by
    intro hend
    unfold Token.kind at hend
    unfold Token.leaf? at hl
    cases hlexeme : c.current.lexeme <;> simp_all [Lexeme.kind]
  apply h c.current _ l hl
  rw [rest_eq_cons hne]
  exact List.mem_cons_self

end Cursor

namespace Parser

open Ast

/-- The leaves of a node satisfy `P`. -/
def Bears {α : Type} (P : Leaf → Prop) (leaves : α → List Leaf) (a : α) : Prop :=
  ∀ l ∈ leaves a, P l

/-- The tokens are paired, but for some opening braces in values that are passed over. -/
def Matched (loose : Bool) (ts : List Token) : Prop :=
  ∃ n, Paired loose n ts

/-- What a run from `c` on may end with. -/
inductive ReadOutcome {α : Type} (P : Leaf → Prop) (L : List Token → Prop) (R : α → Prop) (c : Cursor) :
    Except Failure α × Cursor → Prop
  | ok {a : α} {d : Cursor} {ts : List Token} (hrest : c.rest = ts ++ d.rest) (hread : L ts) (h : R a) :
    ReadOutcome P L R c (.ok a, d)
  | grammar {e : GrammarError} {d : Cursor} : ReadOutcome P L R c (.error (.grammar e), d)
  | conversion {e : ConversionError} {d : Cursor} {x : Number} (hx : P (.number x))
    (he : x.conversionError? = some e) : ReadOutcome P L R c (.error (.conversion e), d)

/-- At `c`, `p` reads tokens of `L` and gives a result that satisfies `R`, or it fails. -/
def Reads {α : Type} (P : Leaf → Prop) (L : List Token → Prop) (R : α → Prop) (p : Parser α) (c : Cursor) : Prop :=
  c.Carries P → ReadOutcome P L R c (p c)

namespace Matched

variable {loose : Bool} {ts us : List Token}

theorem nil : Matched loose [] :=
  ⟨0, .nil⟩

theorem token {t : Token} (h : t.kind.isBrace = false) : Matched loose [t] :=
  ⟨0, .token h⟩

theorem append (hts : Matched loose ts) (hus : Matched loose us) : Matched loose (ts ++ us) := by
  obtain ⟨m, hm⟩ := hts
  obtain ⟨n, hn⟩ := hus
  exact ⟨m + n, hm.append hn⟩

end Matched

/-! ## Sequences -/

namespace Reads

section Rules

variable {α β : Type} {P : Leaf → Prop} {K L M : List Token → Prop} {R : α → Prop} {S : β → Prop} {p : Parser α}
  {f : α → Parser β} {c : Cursor}

/-- A run that succeeds reads tokens. -/
theorem of_ok {a : α} {d : Cursor} (h : Reads P L R p c) (hc : c.Carries P) (hrun : p c = (.ok a, d)) :
    ∃ ts, c.rest = ts ++ d.rest ∧ L ts ∧ R a := by
  have houtcome := h hc
  rw [hrun] at houtcome
  cases houtcome with
  | ok hrest hread h => exact ⟨_, hrest, hread, h⟩

/-- A run whose result is at hand. -/
theorem pure {a : α} (hread : L []) (h : R a) : Reads P L R (pure a) c :=
  fun _ => .ok rfl hread h

/-- A sequence reads the tokens of its first part, and behind them those of the second. -/
theorem bind_append (happend : ∀ ts us, K ts → L us → M (ts ++ us)) (hp : Reads P K R p c)
    (hf : ∀ a d, R a → Reads P L S (f a) d) : Reads P M S (p >>= f) c := by
  intro hc
  show ReadOutcome P M S c (continueWith f (p c))
  have hfirst := hp hc
  have hforward := p.forward c
  rcases hrun : p c with ⟨_ | a, d⟩ <;> rw [hrun] at hfirst hforward
  · cases hfirst with
    | grammar => exact .grammar
    | conversion hx he => exact .conversion hx he
  · cases hfirst with
    | ok hrest hread h =>
      have hnext := hf a d h (hc.of_suffix hforward.rest)
      show ReadOutcome P M S c (f a d)
      rcases hrun' : f a d with ⟨_ | b, e⟩ <;> rw [hrun'] at hnext
      · cases hnext with
        | grammar => exact .grammar
        | conversion hx he => exact .conversion hx he
      · cases hnext with
        | ok hrest' hread' h' =>
          refine .ok ?_ (happend _ _ hread hread') h'
          rw [hrest, hrest', List.append_assoc]

/-- A result that is rewritten; nothing more is read. -/
theorem result {g : α → β} (hp : Reads P L R p c) (hg : ∀ a, R a → S (g a)) :
    Reads P L S (p >>= fun a => Pure.pure (g a)) c := by
  refine bind_append (L := fun ts => ts = []) ?_ hp fun a _ h => .pure rfl (hg a h)
  rintro ts _ hts rfl
  rwa [List.append_nil]

/-- A node that is wrapped. -/
theorem map {g : α → β} (hp : Reads P L R p c) (hg : ∀ a, R a → S (g a)) : Reads P L S (g <$> p) c :=
  hp.result hg

/-- What is read may be described less precisely. -/
theorem imp {R' : α → Prop} (h : Reads P K R p c) (hread : ∀ ts, K ts → L ts) (hresult : ∀ a, R a → R' a) :
    Reads P L R' p c := by
  intro hc
  have houtcome := h hc
  rcases hrun : p c with ⟨_ | a, d⟩ <;> rw [hrun] at houtcome
  · cases houtcome with
    | grammar => exact .grammar
    | conversion hx he => exact .conversion hx he
  · cases houtcome with
    | ok hrest hts h => exact .ok hrest (hread _ hts) (hresult _ h)

/-- A production that starts with a look at the cursor. -/
theorem look {f : Token → Parser β} (h : Reads P L S (f c.current) c) : Reads P L S (current >>= f) c :=
  h

/-- A production that starts with a test for a kind. -/
theorem test {f : Bool → Parser β} {kind : Kind} (h : Reads P L S (f (c.current.kind == kind)) c) :
    Reads P L S (sees kind >>= f) c := by
  have hrun : (sees kind >>= f) c = f (c.current.kind == kind) c := by
    show continueWith f (sees kind c) = _
    rw [run_sees]
    rfl
  intro hc
  rw [hrun]
  exact h hc

/-- A choice. -/
theorem ite {b : Bool} {p q : Parser α} (htrue : b = true → Reads P L R p c) (hfalse : b = false → Reads P L R q c) :
    Reads P L R (if b then p else q) c := by
  cases b with
  | true => exact htrue rfl
  | false => exact hfalse rfl

/-- A production may rely on what the token at the cursor carries. -/
theorem of_leaf {l : Leaf} (hl : c.current.leaf? = some l) (h : P l → Reads P L R p c) : Reads P L R p c :=
  fun hc => h (hc.leaf hl) hc

end Rules

section Matched

variable {α β : Type} {P : Leaf → Prop} {loose : Bool} {R : α → Prop} {S : β → Prop} {p : Parser α}
  {f : α → Parser β} {c : Cursor}

/-- A result that is at hand reads nothing. -/
theorem ret {a : α} (h : R a) : Reads P (Matched loose) R (Pure.pure a) c :=
  .pure .nil h

/-- A sequence of productions that read paired tokens. -/
theorem bind (hp : Reads P (Matched loose) R p c) (hf : ∀ a d, R a → Reads P (Matched loose) S (f a) d) :
    Reads P (Matched loose) S (p >>= f) c :=
  bind_append (fun _ _ => Matched.append) hp hf

end Matched

end Reads

/-! ## Tests and tokens -/

section Tokens

variable {P : Leaf → Prop} {loose : Bool} {c : Cursor}

/-- A test for kinds reads nothing. -/
theorem reads_seesAny (kinds : List Kind) : Reads P (Matched loose) (fun _ => True) (seesAny kinds) c :=
  fun _ => .ok rfl .nil trivial

/-- A test for a kind reads nothing. -/
theorem reads_sees (kind : Kind) : Reads P (Matched loose) (fun _ => True) (sees kind) c :=
  reads_seesAny [kind]

/-- A token that is no brace is read. -/
theorem reads_advance (h : c.current.kind.isBrace = false) :
    Reads P (Matched loose) (fun _ => True) advance c := by
  intro _
  show ReadOutcome P (Matched loose) _ c (.ok c.current, c.advance)
  by_cases hend : c.rest = []
  · have hrest : c.rest = [] ++ c.advance.rest := by simp [Cursor.advance, hend]
    exact .ok hrest .nil trivial
  · obtain ⟨t, ts, hrest⟩ := List.exists_cons_of_ne_nil hend
    have hcurrent : c.current = t := by simp [Cursor.current, Cursor.peek, hrest]
    have hown : c.rest = [t] ++ c.advance.rest := by simp [Cursor.advance, hrest]
    exact .ok hown (.token (hcurrent ▸ h)) trivial

/-- A token of a kind that is no brace is read if it is there. -/
theorem reads_accept {kind : Kind} (hkind : kind.isBrace = false) :
    Reads P (Matched loose) (fun _ => True) (accept kind) c := by
  refine .test (.ite (fun hsees => ?_) (fun _ => .ret trivial))
  refine (reads_advance ?_).bind fun _ _ _ => .ret trivial
  rw [beq_iff_eq.1 hsees]
  exact hkind

/-- Skipping tokens that are no braces. -/
theorem reads_skipWhile {skip : Kind → Bool} (hskip : ∀ k, skip k = true → k.isBrace = false) :
    Reads P (Matched loose) (fun _ => True) (skipWhile skip) c := by
  intro _
  have hrest : c.rest = (c.rest.takeWhile fun t => skip t.kind) ++ (c.skipWhile skip).rest :=
    List.takeWhile_append_dropWhile.symm
  refine .ok hrest ⟨0, .of_forall_not_isBrace fun t ht => ?_⟩ trivial
  exact hskip t.kind (List.mem_takeWhile_imp (p := fun t : Token => skip t.kind) ht)

/-- Line breaks are no braces. -/
theorem isBrace_of_isNewline (k : Kind) (h : isNewline k = true) : k.isBrace = false := by
  rw [beq_iff_eq.1 h]
  rfl

/-- Line breaks and comments are no braces. -/
theorem isBrace_of_isTrivia (k : Kind) (h : isTrivia k = true) : k.isBrace = false := by
  cases k <;> first | rfl | cases h

/-- Semicolons and commas are no braces. -/
theorem isBrace_of_isSeparator (k : Kind) (h : isSeparator k = true) : k.isBrace = false := by
  obtain rfl | rfl : k = .mark .semicolon ∨ k = .mark .comma := by simpa [isSeparator] using h
  · rfl
  · rfl

/-- Line breaks and semicolons are no braces. -/
theorem isBrace_of_isDivider (k : Kind) (h : isDivider k = true) : k.isBrace = false := by
  obtain rfl | rfl : k = .newline ∨ k = .mark .semicolon := by simpa [isDivider] using h
  · rfl
  · rfl

/-- Semicolons and commas are skipped. -/
theorem reads_skipSeparators : Reads P (Matched loose) (fun _ => True) skipSeparators c :=
  reads_skipWhile isBrace_of_isSeparator

/-- A failure reads nothing that counts. -/
theorem reads_unexpected {α : Type} {L : List Token → Prop} {R : α → Prop} (expected : String) :
    Reads P L R (unexpected expected) c :=
  fun _ => .grammar

/-- A failure for a token that is not there. -/
theorem reads_notThere {α : Type} {L : List Token → Prop} {R : α → Prop} (kind : Kind) (expected : String) :
    Reads P L R (notThere kind expected) c := by
  refine Reads.bind_append (K := fun ts => ts = []) (L := L) (R := fun _ => True) ?_ (fun _ => .ok rfl rfl trivial)
    fun b d _ => .ite (fun _ _ => .grammar) (fun _ => reads_unexpected expected)
  rintro _ us rfl hus
  exact hus

/-- A token that is asked for is the one token that is read. -/
theorem reads_expectAs {kind : Kind} (hkind : kind ≠ .endOfInput) (expected : String) :
    Reads P (fun ts => ∃ t, ts = [t] ∧ t.kind = kind) (fun _ => True) (expectAs kind expected) c := by
  refine .test (.ite (fun hsees _ => ?_) (fun _ => reads_notThere kind expected))
  have hcurrent := beq_iff_eq.1 hsees
  have hrest : c.rest = [c.current] ++ c.advance.rest := c.rest_eq_cons (by rwa [hcurrent])
  exact .ok hrest ⟨c.current, rfl, hcurrent⟩ trivial

/-- A mark is read. -/
theorem reads_mark (m : Mark) :
    Reads P (fun ts => ∃ t, ts = [t] ∧ t.kind = .mark m) (fun _ => True) (mark m) c :=
  reads_expectAs (by simp) _

/-- A token that is asked for, and is no brace. -/
theorem reads_expect {kind : Kind} (hkind : kind ≠ .endOfInput) (hbrace : kind.isBrace = false) (expected : String) :
    Reads P (Matched loose) (fun _ => True) (expectAs kind expected) c := by
  refine (reads_expectAs hkind expected).imp ?_ (fun _ h => h)
  rintro _ ⟨t, rfl, rfl⟩
  exact .token hbrace

/-- A mark that is no brace. -/
theorem reads_sign {m : Mark} (hbrace : Kind.isBrace (.mark m) = false) :
    Reads P (Matched loose) (fun _ => True) (mark m) c :=
  reads_expect (by simp) hbrace _

/-- A keyword. -/
theorem reads_keyword (w : Keyword) : Reads P (Matched loose) (fun _ => True) (keyword w) c :=
  reads_expect (by simp) rfl _

end Tokens

/-! ## Names and literals -/

section Names

variable {P : Leaf → Prop} {loose : Bool} {c : Cursor}

/-- A token with a lexeme that is no mark is no brace. -/
theorem isBrace_of_lexeme {t : Token} (h : ∀ m, t.lexeme ≠ .mark m) : t.kind.isBrace = false := by
  unfold Token.kind
  cases hlexeme : t.lexeme with
  | mark m => exact absurd hlexeme (h m)
  | _ => rfl

/-- A token that is read for its meaning. -/
theorem Reads.advance_of_lexeme {α : Type} {R : α → Prop} {a : α} (hlexeme : ∀ m, c.current.lexeme ≠ .mark m)
    (h : R a) : Reads P (Matched loose) R (do let _ ← advance; return a) c :=
  (reads_advance (isBrace_of_lexeme hlexeme)).bind fun _ _ _ => .ret h

/-- A string literal. -/
theorem reads_string (expected : String) : Reads P (Matched loose) (fun _ => True) (string expected) c := by
  refine .look ?_
  split
  · next value h => exact .advance_of_lexeme (by simp [h]) trivial
  · exact reads_unexpected expected

/-- A number. -/
theorem reads_number (expected : String) : Reads P (Matched loose) (fun x => P (.number x)) (number expected) c := by
  refine .look ?_
  split
  · next value h =>
    refine .of_leaf (l := .number value) (by simp [Token.leaf?, h]) fun hP => ?_
    exact .advance_of_lexeme (by simp [h]) hP
  · exact reads_unexpected expected

/-- The test for a word. -/
theorem lexeme_of_word {t : Token} (h : (t.kind == .identifier || t.kind.isKeyword) = true) :
    t.lexeme = .identifier ∨ ∃ w, t.lexeme = .keyword w := by
  unfold Token.kind at h
  cases hlexeme : t.lexeme with
  | identifier => exact .inl rfl
  | keyword w => exact .inr ⟨w, rfl⟩
  | _ => simp [hlexeme, Lexeme.kind, Kind.isKeyword] at h

/-- A word carries its text, and is no brace. -/
theorem leaf_of_word {t : Token} (h : (t.kind == .identifier || t.kind.isKeyword) = true) :
    t.leaf? = some (.name t.text) ∧ ∀ m, t.lexeme ≠ .mark m := by
  obtain hlexeme | ⟨w, hlexeme⟩ := lexeme_of_word h <;> simp [Token.leaf?, hlexeme]

/-- A name. -/
theorem reads_name : Reads P (Matched loose) (fun s => P (.name s)) name c := by
  refine .look (.ite (fun hword => ?_) (fun _ => reads_unexpected _))
  obtain ⟨hleaf, hmark⟩ := leaf_of_word hword
  exact .of_leaf hleaf fun hP => .advance_of_lexeme hmark hP

/-- A field and the sign after it. -/
theorem reads_fieldName {α : Type} (table : List (String × α)) (kind : String) :
    Reads P (Matched loose) (fun _ => True) (fieldName table kind) c := by
  refine .look (.ite (fun hword => ?_) (fun _ => reads_unexpected _))
  split
  · refine (reads_advance (isBrace_of_lexeme (leaf_of_word hword).2)).bind fun _ _ _ => ?_
    exact (reads_sign rfl).bind fun _ _ _ => .ret trivial
  · exact fun _ => .grammar

end Names

/-! ## Comments and annotations -/

section Comments

variable {P : Leaf → Prop} {loose : Bool} {c : Cursor}

/-- A comment is no brace. -/
theorem isBrace_of_isComment {k : Kind} (h : k.isComment = true) : k.isBrace = false := by
  cases k <;> first | rfl | cases h

/-- A comment, at a comment. -/
theorem reads_comment (h : c.current.kind.isComment = true) :
    Reads P (Matched loose) (fun _ => True) comment c :=
  (reads_advance (isBrace_of_isComment h)).bind fun _ _ _ => .ret trivial

/-- A sign and the text after it, if the sign is there. -/
theorem reads_assignedText : Reads P (Matched loose) (fun _ => True) assignedText c := by
  refine (reads_accept rfl).bind fun _ _ _ => .ite (fun _ => ?_) (fun _ => .ret trivial)
  exact (reads_string _).bind fun _ _ _ => .ret trivial

/-- An annotation. -/
theorem reads_tag : Reads P (Matched loose) (fun _ => True) tag c := by
  refine .look ?_
  split
  · next name h =>
    refine (reads_advance (isBrace_of_lexeme (by simp [h]))).bind fun _ d _ => ?_
    have hvalue : Reads P (Matched loose) (fun _ => True) tagValue d := by
      refine .look ?_
      split
      · next value h => exact .advance_of_lexeme (by simp [h]) trivial
      · exact reads_assignedText
    exact hvalue.bind fun _ _ _ => .ret trivial
  · exact reads_unexpected _

/-- An annotation that is passed over. -/
theorem reads_skipTag : Reads P (Matched loose) (fun _ => True) skipTag c :=
  reads_tag.bind fun _ _ _ => reads_skipSeparators

/-- An annotation that is kept as a comment. -/
theorem reads_tagComment : Reads P (Matched loose) (fun _ => True) tagComment c :=
  reads_tag.bind fun _ _ _ => .ret trivial

end Comments

/-! ## Loops -/

section Loops

variable {α : Type} {P : Leaf → Prop} {loose : Bool} {R : α → Prop} {c : Cursor}

/-- Outcomes of the rounds that follow, behind the tokens and the nodes of a round. -/
theorem ReadOutcome.append {d : Cursor} {nodes : List α} {ts : List Token} (hrest : c.rest = ts ++ d.rest)
    (hread : Matched loose ts) (hnodes : ∀ x ∈ nodes, R x) {r : Except Failure (List α) × Cursor}
    (h : ReadOutcome P (Matched loose) (fun xs => ∀ x ∈ xs, R x) d r) :
    ReadOutcome P (Matched loose) (fun xs => ∀ x ∈ xs, R x) c (r.1.map (nodes ++ ·), r.2) := by
  cases h with
  | ok hrest' hread' hnodes' =>
    refine .ok ?_ (hread.append hread') ?_
    · rw [hrest, hrest', List.append_assoc]
    · intro x hx
      obtain hx | hx := List.mem_append.1 hx
      · exact hnodes x hx
      · exact hnodes' x hx
  | grammar => exact .grammar
  | conversion hx he => exact .conversion hx he

/-- One round after another. -/
theorem reads_loop {round : Parser (List α × Bool)}
    (hround : ∀ d, Reads P (Matched loose) (fun r => ∀ x ∈ r.1, R x) round d) :
    Reads P (Matched loose) (fun xs => ∀ x ∈ xs, R x) (loop round) c := by
  induction hlen : c.rest.length using Nat.strong_induction_on generalizing c with
  | _ n ih =>
    subst hlen
    intro hc
    have hfirst := hround c hc
    have hforward := round.forward c
    rcases hrun : round c with ⟨e | ⟨nodes, more⟩, d⟩ <;> rw [hrun] at hfirst hforward
    · rw [Pairing.run_loop_error hrun]
      cases hfirst with
      | grammar => exact .grammar
      | conversion hx he => exact .conversion hx he
    · rw [Pairing.run_loop_ok hrun]
      cases hfirst with
      | ok hrest hread hnodes =>
        split
        · next hmore =>
          exact (ih d.rest.length hmore.2 rfl (hc.of_suffix hforward.rest)).append hrest hread hnodes
        · exact .ok hrest hread hnodes

/-- Items up to a closing mark. -/
theorem reads_itemsUntil {closing : Mark} {skip : Kind → Bool} {item : Parser (List α)}
    (hskip : ∀ k, skip k = true → k.isBrace = false)
    (hitem : ∀ d, Reads P (Matched loose) (fun xs => ∀ x ∈ xs, R x) item d) :
    Reads P (Matched loose) (fun xs => ∀ x ∈ xs, R x) (itemsUntil closing skip item) c := by
  refine reads_loop fun d => ?_
  refine (reads_skipWhile hskip).bind fun _ _ _ => ?_
  refine (reads_seesAny _).bind fun _ _ _ => .ite (fun _ => .ret (by simp)) (fun _ => ?_)
  exact (hitem _).bind fun _ _ hnodes => .ret hnodes

/-- The tokens stand in braces; those between the braces are paired. -/
def Enclosed (inner : Bool) (us : List Token) : Prop :=
  ∃ (first : Token) (ts : List Token) (last : Token), us = first :: ts ++ [last] ∧
    first.kind = .mark .openBrace ∧ last.kind = .mark .closeBrace ∧ Matched inner ts

/-- Items in braces, with the braces. -/
theorem reads_enclosed {inner : Bool} {skip : Kind → Bool} {item : Parser (List α)}
    (hskip : ∀ k, skip k = true → k.isBrace = false)
    (hitem : ∀ d, Reads P (Matched inner) (fun xs => ∀ x ∈ xs, R x) item d) :
    Reads P (Enclosed inner) (fun xs => ∀ x ∈ xs, R x) (braced skip item) c := by
  refine .bind_append
    (L := fun us => ∃ (ts : List Token) (last : Token),
      us = ts ++ [last] ∧ last.kind = .mark .closeBrace ∧ Matched inner ts)
    ?_ (reads_mark .openBrace) fun _ d _ => ?_
  · rintro _ _ ⟨first, rfl, hfirst⟩ ⟨ts, last, rfl, hlast, hts⟩
    exact ⟨first, ts, last, rfl, hfirst, hlast, hts⟩
  · refine .bind_append ?_ (reads_itemsUntil hskip hitem) fun xs d hxs => (reads_mark .closeBrace).result fun _ _ => hxs
    rintro ts _ hts ⟨last, rfl, hlast⟩
    exact ⟨ts, last, rfl, hlast, hts⟩

/-- Items in braces. -/
theorem reads_braced {skip : Kind → Bool} {item : Parser (List α)}
    (hskip : ∀ k, skip k = true → k.isBrace = false)
    (hitem : ∀ d, Reads P (Matched false) (fun xs => ∀ x ∈ xs, R x) item d) :
    Reads P (Matched loose) (fun xs => ∀ x ∈ xs, R x) (braced skip item) c := by
  refine (reads_enclosed hskip hitem).imp ?_ (fun _ h => h)
  rintro _ ⟨first, ts, last, rfl, hfirst, hlast, n, hts⟩
  exact ⟨n, .braces hfirst hlast hts⟩

/-- Items with commas between them. -/
theorem reads_commaList {closing : Mark} {item : Parser α} (hclosing : Kind.isBrace (.mark closing) = false)
    (hitem : ∀ d, Reads P (Matched loose) R item d) :
    Reads P (Matched loose) (fun xs => ∀ x ∈ xs, R x) (commaList closing item) c := by
  refine Reads.bind (R := fun xs => ∀ x ∈ xs, R x) (reads_loop fun d => ?_) fun xs _ hxs => ?_
  · refine (reads_skipWhile isBrace_of_isTrivia).bind fun _ _ _ => ?_
    refine (reads_seesAny _).bind fun _ _ _ => .ite (fun _ => .ret (by simp)) (fun _ => ?_)
    refine (hitem _).bind fun node _ hnode => ?_
    refine (reads_skipWhile isBrace_of_isTrivia).bind fun _ _ _ => ?_
    exact (reads_accept rfl).bind fun _ _ _ => .ret (by simpa using hnode)
  · refine (reads_skipWhile isBrace_of_isTrivia).bind fun _ _ _ => ?_
    exact (reads_sign hclosing).bind fun _ _ _ => .ret hxs

/-- One item. -/
theorem Reads.single {β : Type} {S : β → Prop} {p : Parser α} {f : α → β} (hp : Reads P (Matched loose) R p c)
    (hf : ∀ a, R a → S (f a)) : Reads P (Matched loose) (fun xs => ∀ x ∈ xs, S x) (do return [f (← p)]) c :=
  hp.bind fun a _ h => .ret (by simpa using hf a h)

/-- One item and the marks after it. -/
theorem Reads.separated {p : Parser α} (hp : Reads P (Matched loose) R p c) :
    Reads P (Matched loose) (fun xs => ∀ x ∈ xs, R x) (do let a ← p; skipSeparators; return [a]) c :=
  hp.bind fun _ _ h => reads_skipSeparators.bind fun _ _ _ => .ret (by simpa using h)

/-- An item of a block that may hold comments and annotations. -/
theorem reads_blockItem {onComment onTag onField : Parser α}
    (hcomment : c.current.kind.isComment = true → Reads P (Matched loose) R onComment c)
    (htag : Reads P (Matched loose) R onTag c) (hfield : Reads P (Matched loose) R onField c) :
    Reads P (Matched loose) R (blockItem onComment onTag onField) c := by
  refine .look (.ite hcomment (fun _ => ?_))
  refine .ite (fun _ => htag.bind fun _ _ h => ?_) (fun _ => hfield.bind fun _ _ h => ?_)
  · exact reads_skipSeparators.bind fun _ _ _ => .ret h
  · exact reads_skipSeparators.bind fun _ _ _ => .ret h

/-- An item of a block that keeps comments, and annotations as comments. -/
theorem reads_commentedItem {wrap : Comment → α} {field : Parser (List α)} (hwrap : ∀ a, R (wrap a))
    (hfield : Reads P (Matched loose) (fun xs => ∀ x ∈ xs, R x) field c) :
    Reads P (Matched loose) (fun xs => ∀ x ∈ xs, R x)
      (blockItem (do return [wrap (← comment)]) (do return [wrap (← tagComment)]) field) c :=
  reads_blockItem (fun h => (reads_comment h).single fun a _ => hwrap a) (reads_tagComment.single fun a _ => hwrap a)
    hfield

/-- An item of a block that drops comments and annotations. -/
theorem reads_plainItem {field : Parser α} (hfield : Reads P (Matched loose) R field c) :
    Reads P (Matched loose) (fun xs => ∀ x ∈ xs, R x) (plainItem field) c := by
  refine reads_blockItem (fun h => ?_) ?_ (hfield.single fun _ h => h)
  · exact (reads_advance (isBrace_of_isComment h)).bind fun _ _ _ => .ret (by simp)
  · exact reads_tag.bind fun _ _ _ => .ret (by simp)

end Loops

/-! ## Bodies that are not read -/

section Bodies

variable {P : Leaf → Prop} {loose : Bool} {c : Cursor}

/-- A body in braces that is skipped. -/
theorem reads_skipBraces : Reads P (Matched loose) (fun _ => True) skipBraces c := by
  refine .bind_append
    (L := fun us => ∃ (body : List Token) (last : Token),
      us = body ++ [last] ∧ Paired false 0 body ∧ last.kind = .mark .closeBrace)
    ?_ (reads_mark .openBrace) fun _ d _ _ => ?_
  · rintro _ _ ⟨first, rfl, hfirst⟩ ⟨body, last, rfl, hbody, hlast⟩
    exact ⟨0, .braces hfirst hlast hbody⟩
  · cases hafter : afterBraces 1 d.rest with
    | some rest =>
      rw [Pairing.run_skipBody_some hafter]
      obtain ⟨body, last, hbody, hlast, hrest⟩ := exists_paired_of_afterBraces hafter
      exact .ok hrest ⟨body, last, rfl, hbody, hlast⟩ trivial
    | none =>
      rw [Pairing.run_skipBody_none hafter]
      exact .grammar

/-- A body in braces that is skipped, if there is one. -/
theorem reads_skipBracesIfAny : Reads P (Matched loose) (fun _ => True) skipBracesIfAny c :=
  (reads_sees _).bind fun _ _ _ => .ite (fun _ => reads_skipBraces) (fun _ => .ret trivial)

end Bodies

end Parser

end MediaLanguage
