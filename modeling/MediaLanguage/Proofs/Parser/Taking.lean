import MediaLanguage.Proofs.Parser.Provenance
import MediaLanguage.Proofs.Parser.Rounds

/-!
# What productions make of the tokens they read

A production that reads the tokens of a text from one index to another makes a node of them. `Takes s S p c` says that
a success of `p` at `c` gives a result for which `S` holds at the index where it ends. There is one rule for each
way to put productions together; in a sequence, indices do not fall.

* `Takes.bind`: sequences.
* `takes_loop`: rounds, for a property of lists that holds of a list made of two parts when it holds of the parts
  (`Joins`); `takes_braced`, `takes_commaList`: bodies.
* `takes_keyword`, `takes_name`: tokens that are read, with their index.
-/

namespace MediaLanguage

open Ast

namespace TokenStream

/-- The index of the token at a cursor, in the tokens of the text with the end. -/
def index (s : TokenStream) (c : Cursor) : Nat :=
  s.tokens.length - c.rest.length

/-- The cursor at an index. -/
def cursorAt (s : TokenStream) (i : Nat) : Cursor :=
  ⟨s.tokens.drop i, s.finish⟩

/-- The cursor at an index has that index. -/
theorem index_cursorAt {s : TokenStream} {i : Nat} (h : i ≤ s.tokens.length) : s.index (s.cursorAt i) = i := by
  show s.tokens.length - (s.tokens.drop i).length = i
  rw [List.length_drop]
  omega

/-- The cursor is at the token with its index. -/
theorem getElem?_index {s : TokenStream} {c : Cursor} (h : (Cursor.ofStream s).Reaches c) :
    s.withEnd[s.index c]? = some c.current := by
  obtain ⟨front, hrest⟩ := h.rest
  replace hrest : front ++ c.rest = s.tokens := hrest
  have hfinish : c.finish = s.finish := h.finish
  have hindex : s.index c = front.length := by simp [index, ← hrest]
  rw [hindex, withEnd, ← hrest, List.append_assoc, List.getElem?_append_right (Nat.le_refl _), Nat.sub_self]
  cases hc : c.rest with
  | nil => simp [Cursor.current, Cursor.peek, hc, hfinish]
  | cons t ts => simp [Cursor.current, Cursor.peek, hc]

/-- Indices do not fall. -/
theorem index_le {s : TokenStream} {c d : Cursor} (h : c.Reaches d) : s.index c ≤ s.index d :=
  Nat.sub_le_sub_left h.length_le _

/-- No index exceeds that of the end. -/
theorem index_le_length (s : TokenStream) (c : Cursor) : s.index c ≤ s.tokens.length :=
  Nat.sub_le _ _

/-- A token that is read has the index in front of what follows it. -/
theorem index_advance {s : TokenStream} {c : Cursor} (hc : (Cursor.ofStream s).Reaches c) (h : c.rest ≠ []) :
    s.index c.advance = s.index c + 1 := by
  have hle : c.rest.length ≤ s.tokens.length := hc.length_le
  have hpos := List.length_pos_iff.2 h
  have htail : c.advance.rest.length = c.rest.length - 1 := List.length_tail
  unfold index
  omega

/-- A production that reads a token leaves the cursor at a greater index. -/
theorem index_lt {s : TokenStream} {c d : Cursor} (hc : (Cursor.ofStream s).Reaches c)
    (h : d.rest.length < c.rest.length) : s.index c < s.index d := by
  have hle : c.rest.length ≤ s.tokens.length := hc.length_le
  unfold index
  omega

end TokenStream

namespace Parser

variable {α β : Type} {s : TokenStream}

/-- A success of `p` at a cursor of the text gives a result for which `S` holds, at the index where `p` ends. -/
def Takes (s : TokenStream) (S : Nat → α → Prop) (p : Parser α) (c : Cursor) : Prop :=
  (Cursor.ofStream s).Reaches c → ∀ a d, p c = (.ok a, d) → S (s.index d) a

/-! ## Sequences and choices -/

namespace Takes

variable {R S : Nat → α → Prop} {T : Nat → β → Prop} {p : Parser α} {f : α → Parser β} {c : Cursor}

theorem bind (hp : Takes s R p c)
    (hf : ∀ a d, s.index c ≤ s.index d → R (s.index d) a → Takes s T (f a) d) : Takes s T (p >>= f) c := by
  intro hc b e hrun
  obtain ⟨a, d, hfirst, hnext⟩ := run_bind_ok.1 hrun
  have hreaches := reaches_of_run hfirst
  exact hf a d (TokenStream.index_le hreaches) (hp hc a d hfirst) (hc.trans hreaches) b e hnext

/-- A result without reading. -/
theorem ret {a : α} (h : S (s.index c) a) : Takes s S (pure a) c := by
  intro _ _ _ hrun
  cases hrun
  exact h

/-- The result of a production, changed. -/
theorem map {g : α → β} (hp : Takes s R p c) (h : ∀ j a, R j a → T j (g a)) : Takes s T (g <$> p) c :=
  hp.bind fun _ _ _ ha => .ret (h _ _ ha)

/-- A production followed by its result, changed. -/
theorem result {g : α → β} (hp : Takes s R p c) (h : ∀ j a, s.index c ≤ j → R j a → T j (g a)) :
    Takes s T (do let a ← p; return g a) c :=
  hp.bind fun a d hle ha => .ret (h (s.index d) a hle ha)

theorem mono (hp : Takes s R p c) (h : ∀ j a, R j a → S j a) : Takes s S p c :=
  fun hc a d hrun => h _ _ (hp hc a d hrun)

/-- A production of which nothing is known. -/
theorem any (p : Parser α) (c : Cursor) : Takes s (fun _ _ => True) p c :=
  fun _ _ _ _ => trivial

/-- A failure gives no result. -/
theorem fails (h : ∀ a d, p c ≠ (.ok a, d)) : Takes s S p c :=
  fun _ a d hrun => absurd hrun (h a d)

theorem ite {cond : Prop} [Decidable cond] {q : Parser α} (hp : cond → Takes s S p c) (hq : ¬cond → Takes s S q c) :
    Takes s S (if cond then p else q) c := by
  split
  · next h => exact hp h
  · next h => exact hq h

/-- A production that reads a token. -/
theorem of_consumes (h : Consumes p c) : Takes s (fun j _ => s.index c < j) p c :=
  fun hc a d hrun => TokenStream.index_lt hc (h a d hrun)

/-- A look at the token at the cursor, which has the index of the cursor. -/
theorem look {f : Token → Parser α} (h : s.withEnd[s.index c]? = some c.current → Takes s S (f c.current) c) :
    Takes s S (current >>= f) c :=
  fun hc a d hrun => h (TokenStream.getElem?_index hc) hc a d hrun

/-- A look at the token behind the one at the cursor. -/
theorem lookNext {f : Token → Parser α} (h : Takes s S (f (c.peek 1)) c) : Takes s S (next >>= f) c :=
  h

/-- A test for a kind. -/
theorem sees {kind : Kind} {f : Bool → Parser α} (h : Takes s S (f (c.current.kind == kind)) c) :
    Takes s S (Parser.sees kind >>= f) c := by
  intro hc a d hrun
  obtain ⟨b, e, hsees, hnext⟩ := run_bind_ok.1 hrun
  rw [run_sees] at hsees
  cases hsees
  exact h hc a d hnext

/-- A look at all tokens to read. -/
theorem lookAhead {f : Cursor → Parser α} (h : Takes s S (f c) c) : Takes s S (get >>= f) c :=
  h

/-- A token that is read, and what follows. -/
theorem step {f : Token → Parser α} (hkind : c.current.kind ≠ .endOfInput)
    (h : ∀ d, s.index d = s.index c + 1 → Takes s S (f c.current) d) : Takes s S (advance >>= f) c := by
  intro hc a d hrun
  exact h _ (TokenStream.index_advance hc (Cursor.rest_ne_nil_of_kind hkind)) (hc.trans c.reaches_advance) a d hrun

/-- Another try after a failure. -/
theorem recover {q : Failure → Parser α} (hp : Takes s S p c)
    (hq : ∀ e d, s.index c ≤ s.index d → Takes s S (q e) d) : Takes s S (tryCatch p q) c := by
  intro hc a d hrun
  replace hrun : recoverWith q (p c) = (.ok a, d) := hrun
  rcases hfirst : p c with ⟨e | b, f⟩
  · rw [hfirst] at hrun
    have hreaches := reaches_of_run hfirst
    exact hq e f (TokenStream.index_le hreaches) (hc.trans hreaches) a d hrun
  · rw [hfirst] at hrun
    cases hrun
    exact hp hc a d hfirst

/-- A production that is skipped over changes nothing that holds at later indices too. -/
theorem skip (h : ∀ d, s.index c ≤ s.index d → Takes s S p d) (q : Parser β) : Takes s S (do let _ ← q; p) c :=
  (any q c).bind fun _ d hle _ => h d hle

end Takes

/-! ## Tokens -/

section Tokens

variable {c : Cursor} {S : Nat → α → Prop}

/-- Something else was expected. -/
theorem takes_unexpected (expected : String) : Takes s S (unexpected expected) c :=
  .fails nofun

theorem takes_notThere (kind : Kind) (expected : String) : Takes s S (notThere kind expected) c :=
  (Takes.any _ c).bind fun _ _ _ _ => .ite (fun _ => .fails nofun) (fun _ => takes_unexpected expected)

/-- A token at which a production starts. -/
theorem takes_advance (hkind : c.current.kind ≠ .endOfInput) :
    Takes s (fun j t => j = s.index c + 1 ∧ s.withEnd[s.index c]? = some t) advance c := by
  intro hc t d hrun
  cases hrun
  exact ⟨TokenStream.index_advance hc (Cursor.rest_ne_nil_of_kind hkind), TokenStream.getElem?_index hc⟩

/-- A token that is asked for. -/
theorem takes_expectAs {kind : Kind} (hkind : kind ≠ .endOfInput) (expected : String) :
    Takes s (fun j t => j = s.index c + 1 ∧ s.withEnd[s.index c]? = some t) (expectAs kind expected) c := by
  refine .sees (.ite (fun hsees => takes_advance ?_) (fun _ => takes_notThere kind expected))
  rw [beq_iff_eq.1 hsees]
  exact hkind

theorem takes_keyword (w : Keyword) :
    Takes s (fun j t => j = s.index c + 1 ∧ s.withEnd[s.index c]? = some t) (keyword w) c :=
  takes_expectAs (by simp) _

theorem takes_mark (m : Mark) : Takes s (fun j _ => j = s.index c + 1) (mark m) c :=
  (takes_expectAs (by simp) _).mono fun _ _ h => h.1

/-- A name, which is the text of a token. -/
theorem takes_name :
    Takes s (fun j label => j = s.index c + 1 ∧ ∃ t, s.withEnd[s.index c]? = some t ∧
      (t.kind = .identifier ∨ t.kind.isKeyword) ∧ label = t.text) name c := by
  refine .look fun hat => .ite (fun hword => ?_) (fun _ => takes_unexpected _)
  have hkind : c.current.kind ≠ .endOfInput := by
    intro hend
    simp [hend, Kind.isKeyword] at hword
  exact .step hkind fun d hd => .ret ⟨hd, _, hat, by simpa using hword, rfl⟩

theorem takes_string (expected : String) : Takes s (fun j _ => j = s.index c + 1) (string expected) c := by
  refine .look fun _ => ?_
  split
  · next h => exact .step (by simp [Token.kind, h, Lexeme.kind]) fun _ hd => .ret hd
  · exact takes_unexpected _

theorem takes_number (expected : String) : Takes s (fun j _ => j = s.index c + 1) (number expected) c := by
  refine .look fun _ => ?_
  split
  · next h => exact .step (by simp [Token.kind, h, Lexeme.kind]) fun _ hd => .ret hd
  · exact takes_unexpected _

end Tokens

/-! ## Loops -/

/-- A property of lists that holds of two parts one behind the other when it holds of each. -/
structure Joins (C : Nat → Nat → List α → Prop) : Prop where
  nil : ∀ {i j : Nat}, i ≤ j → C i j []
  append : ∀ {i j k : Nat} {as bs : List α}, C i j as → C j k bs → C i k (as ++ bs)

namespace Joins

variable {C : Nat → Nat → List α → Prop} {i j k : Nat} {as : List α}

/-- What starts later starts earlier too. -/
theorem of_le_left (hC : Joins C) (hle : i ≤ j) (h : C j k as) : C i k as :=
  hC.append (hC.nil hle) h

/-- What ends earlier ends later too. -/
theorem of_le_right (hC : Joins C) (h : C i j as) (hle : j ≤ k) : C i k as :=
  List.append_nil as ▸ hC.append h (hC.nil hle)

end Joins

section Loops

variable {c : Cursor} {C : Nat → Nat → List α → Prop}

/-- Rounds join. The induction is on the tokens that are left. -/
theorem takes_loop (hC : Joins C) {round : Parser (List α × Bool)}
    (h : ∀ d, s.index c ≤ s.index d → Takes s (fun j r => C (s.index d) j r.1) round d) :
    Takes s (C (s.index c)) (loop round) c := by
  induction hlen : c.rest.length using Nat.strong_induction_on generalizing c with
  | _ n ih =>
    subst hlen
    intro hc as e hrun
    replace hrun : loopFrom round c = (.ok as, e) := hrun
    rw [loopFrom] at hrun
    rcases hround : round c with ⟨_ | ⟨nodes, more⟩, d⟩
    · rw [hround] at hrun
      cases hrun
    rw [hround] at hrun
    dsimp only at hrun
    have hreaches := reaches_of_run hround
    have hnodes := h c (Nat.le_refl _) hc _ d hround
    split at hrun
    · next hgo =>
      rcases hlater : loopFrom round d with ⟨_ | later, e'⟩
      · rw [hlater] at hrun
        cases hrun
      rw [hlater] at hrun
      cases hrun
      have hrest := ih d.rest.length hgo.2 (fun f hf => h f (Nat.le_trans (TokenStream.index_le hreaches) hf)) rfl
        (hc.trans hreaches) later _ hlater
      exact hC.append hnodes hrest
    · cases hrun
      exact hnodes

theorem takes_itemRound (hC : Joins C) {closing : Mark} {skip : Kind → Bool} {item : Parser (List α)}
    (h : ∀ d, s.index c ≤ s.index d → Takes s (C (s.index d)) item d) :
    Takes s (fun j r => C (s.index c) j r.1) (itemRound closing skip item) c := by
  intro hc r d hrun
  rcases run_closing hrun with ⟨rfl, -⟩ | hnext
  · exact hC.nil (TokenStream.index_le (reaches_of_run hrun))
  · have hskip := c.reaches_skipWhile skip
    have hle : s.index c ≤ s.index (c.skipWhile skip) := TokenStream.index_le hskip
    have hmap := (h _ hle).map (g := fun nodes => (nodes, true)) (T := fun j r => C (s.index c) j r.1)
      fun _ _ => hC.of_le_left hle
    exact hmap (hc.trans hskip) r d hnext

theorem takes_braced (hC : Joins C) {skip : Kind → Bool} {item : Parser (List α)}
    (h : ∀ d, s.index c < s.index d → Takes s (C (s.index d)) item d) :
    Takes s (fun j as => s.index c < j ∧ ∃ i, s.index c < i ∧ C i j as) (braced skip item) c := by
  rw [braced_eq]
  refine (takes_mark _).bind fun _ d _ hd => ?_
  have hlt : s.index c < s.index d := by omega
  have hloop : Takes s (C (s.index d)) (loop (itemRound .closeBrace skip item)) d :=
    takes_loop hC fun e he => takes_itemRound hC fun f hf => h f (by omega)
  refine hloop.bind fun as e he has => (takes_mark _).bind fun _ f _ hf => .ret ⟨by omega, _, hlt, ?_⟩
  exact hC.of_le_right has (by omega)

theorem takes_commaList (hC : Joins C) {closing : Mark} {item : Parser α}
    (h : ∀ d, s.index c ≤ s.index d → Takes s (fun j a => C (s.index d) j [a]) item d) :
    Takes s (C (s.index c)) (commaList closing item) c := by
  rw [commaList_eq]
  have hround : ∀ d, s.index c ≤ s.index d →
      Takes s (fun j r => C (s.index d) j r.1) (commaRound closing item) d := by
    intro d hd hc r e hrun
    rcases run_closing hrun with ⟨rfl, -⟩ | hnext
    · exact hC.nil (TokenStream.index_le (reaches_of_run hrun))
    · have hskip := d.reaches_skipWhile isTrivia
      have hle : s.index d ≤ s.index (d.skipWhile isTrivia) := TokenStream.index_le hskip
      refine Takes.bind (h _ (by omega)) (T := fun j r => C (s.index d) j r.1) (fun a f _ ha => ?_) (hc.trans hskip)
        r e hnext
      refine .skip (fun f' hf' => (Takes.any _ _).result fun j _ hj _ => ?_) _
      exact hC.of_le_left hle (hC.of_le_right ha (by omega))
  refine (takes_loop hC hround).bind fun as d hd has => .skip (fun e he => ?_) _
  exact .skip (fun f hf => .ret (hC.of_le_right has (by omega))) _

end Loops

/-! ## Items -/

section Items

variable {c : Cursor} {C : Nat → Nat → List α → Prop} {i : Nat}

theorem takes_single {p : Parser α} (h : Takes s (fun j a => C i j [a]) p c) : Takes s (C i) (do return [← p]) c :=
  h.result fun _ _ _ ha => ha

/-- A node, and separators behind it. -/
theorem takes_separated (hC : Joins C) {p : Parser α} {after : Parser β}
    (h : Takes s (fun j a => C i j [a]) p c) : Takes s (C i) (do let a ← p; let _ ← after; return [a]) c :=
  h.bind fun _ _ _ ha => .skip (fun _ hle => .ret (hC.of_le_right ha hle)) _

/-- An item of a block that may hold comments and annotations. -/
theorem takes_blockItem {S : Nat → α → Prop} (hS : ∀ {j k : Nat} {a : α}, S j a → j ≤ k → S k a)
    {onComment onTag onField : Parser α} (hcomment : c.current.kind.isComment = true → Takes s S onComment c)
    (htag : Takes s S onTag c) (hfield : Takes s S onField c) :
    Takes s S (blockItem onComment onTag onField) c := by
  have hnext : ∀ {p : Parser α}, Takes s S p c → Takes s S (do let a ← p; skipSeparators; return a) c := fun hp =>
    hp.bind fun _ _ _ ha => .skip (fun _ hle => .ret (hS ha hle)) _
  refine .look fun _ => .ite hcomment fun _ => .ite (fun _ => hnext htag) (fun _ => hnext hfield)

theorem takes_plainItem (hC : Joins C) {field : Parser α} (h : Takes s (fun j a => C (s.index c) j [a]) field c) :
    Takes s (C (s.index c)) (plainItem field) c :=
  takes_blockItem (S := C (s.index c)) hC.of_le_right (fun _ => .skip (fun _ hle => .ret (hC.nil hle)) _)
    (.skip (fun _ hle => .ret (hC.nil hle)) _) (takes_single h)

theorem takes_untaggedItem (hC : Joins C) {field : Parser α} {after : Parser Unit}
    (h : Takes s (fun j a => C (s.index c) j [a]) field c) :
    Takes s (C (s.index c)) (untaggedItem field after) c :=
  .sees (.ite (fun _ => .skip (fun _ hle => .ret (hC.nil hle)) _) fun _ => takes_separated hC h)

end Items

end Parser

end MediaLanguage
