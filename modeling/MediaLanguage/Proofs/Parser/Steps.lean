import MediaLanguage.Proofs.Parser.Pairing

/-!
# Steps side by side

The steps of the grammar do the same at cursors beside each other: tests for a kind, tokens, names and literals,
comments and annotations, loops, and bodies that are not read. Each is compared in the widest mode it allows: a step
that reads what it asks for in both, one that skips what it finds only within.
-/

open MediaLanguage.Ast MediaLanguage.Parser

namespace MediaLanguage.Pairing

variable {P : Pairing} {k : Mode} {c c' : Cursor}

/-! ## Tests and tokens -/

section Tokens

/-- A look at the token after the one at the cursor. -/
theorem sim_next (h : P.Beside c c') (hin : P.Inside c) :
    P.Sim k (fun t t' => t.kind.Near t'.kind) next next c c' :=
  fun _ => ⟨.ok (h.next_near hin), h⟩

/-- Inside, every test comes out the same. -/
theorem sim_seesAny (h : P.Beside c c') (hin : P.Inside c) (kinds : List Kind) :
    P.Sim k Eq (seesAny kinds) (seesAny kinds) c c' := by
  intro _
  refine ⟨.ok ?_, h⟩
  rw [(h.current hin).kind]

/-- A test for a kind that is not blank comes out the same. -/
theorem sim_sees (h : P.Beside c c') {kind : Kind} (hkind : kind.isBlank = false) :
    P.Sim k Eq (sees kind) (sees kind) c c' := by
  intro _
  rw [run_sees, run_sees]
  exact ⟨.ok (h.near.beq_eq hkind), h⟩

/-- Inside, a token is read. -/
theorem sim_advance (h : P.Beside c c') (hin : P.Inside c) : P.Sim k P.Alike advance advance c c' :=
  fun _ => ⟨.ok (h.current hin), h.advance hin⟩

/-- A kind that is not blank is not the end. -/
theorem ne_endOfInput {kind : Kind} (hkind : kind.isBlank = false) : kind ≠ .endOfInput := by
  rintro rfl
  cases hkind

/-- A token of a kind that is not blank is read if it is there. -/
theorem sim_accept (h : P.Beside c c') {kind : Kind} (hkind : kind.isBlank = false) :
    P.Sim k Eq (accept kind) (accept kind) c c' := by
  refine (sim_sees h hkind).bind_run fun b b' d d' hrun hb hbeside => ?_
  subst hb
  rw [run_sees] at hrun
  obtain ⟨hsees, rfl⟩ : (c.current.kind == kind) = b ∧ c = d := by simpa using hrun
  refine .ite (fun htrue => ?_) (fun _ => .pure hbeside rfl)
  have hne : c.current.kind ≠ .endOfInput := by
    rw [beq_iff_eq.1 (hsees.trans htrue)]
    exact ne_endOfInput hkind
  refine .of_inside (fun _ => .of_advance hne) fun hin => ?_
  exact (sim_advance hbeside hin).bind fun _ _ _ _ _ h => .pure h rfl

/-- Skipping tokens. -/
theorem sim_skipWhile (h : P.Beside c c') (skip : Kind → Bool) :
    P.Sim .within Eq (skipWhile skip) (skipWhile skip) c c' := by
  rintro (hin | ⟨hk, -⟩)
  · exact ⟨.ok rfl, h.skipWhile hin⟩
  · cases hk

end Tokens

/-! ## Failures and tokens that are asked for -/

section Errors

variable {α : Type} {R : α → α → Prop}

/-- Something else was expected. -/
theorem sim_unexpected (h : P.Beside c c') (expected : String) :
    P.Sim k R (unexpected expected) (unexpected expected) c c' := by
  refine .of_inside (fun _ => consumes_unexpected expected) fun hin _ => ⟨?_, h⟩
  have halike := h.current hin
  show P.Outcome R (.error (.grammar (unexpectedAt c expected))) (.error (.grammar (unexpectedAt c' expected)))
  by_cases hend : c.current.kind = .endOfInput
  · have hend' : c'.current.kind = .endOfInput := halike.kind ▸ hend
    unfold unexpectedAt
    simp only [hend, hend']
    exact .grammar rfl halike.place
  · have hend' : c'.current.kind ≠ .endOfInput := halike.kind ▸ hend
    have herror : ∀ d : Cursor, d.current.kind ≠ .endOfInput →
        unexpectedAt d expected = ⟨.unexpectedToken d.current.text [expected], d.current.position⟩ := by
      intro d hd
      unfold unexpectedAt
      dsimp only
      split
      · contradiction
      · rfl
    rw [herror c hend, herror c' hend']
    exact .grammar (halike.unexpected _) halike.place

/-- A closing mark is missing. -/
theorem sim_missing (h : P.Beside c c') (delimiter : String) :
    P.Sim k R (missing delimiter) (missing delimiter) c c' := by
  refine .of_inside (fun _ => fun _ _ hrun => nomatch hrun) fun hin _ => ⟨?_, h⟩
  exact .grammar rfl (h.current hin).place

/-- The token that is asked for is not there. -/
theorem sim_notThere (h : P.Beside c c') (kind : Kind) (expected : String) :
    P.Sim k R (notThere kind expected) (notThere kind expected) c c' := by
  refine .of_inside (fun _ => consumes_notThere kind expected) fun hin => ?_
  refine (sim_seesAny h hin [.endOfInput]).bind fun b b' d d' hb h => ?_
  subst hb
  exact .ite (fun _ => sim_missing h _) (fun _ => sim_unexpected h _)

/-- A token that is asked for. -/
theorem sim_expectAs (h : P.Beside c c') {kind : Kind} (hkind : kind.isBlank = false) (expected : String) :
    P.Sim k P.Alike (expectAs kind expected) (expectAs kind expected) c c' := by
  refine .of_inside (fun _ => consumes_expectAs (ne_endOfInput hkind) expected) fun hin => ?_
  refine (sim_seesAny h hin [kind]).bind_run fun b b' d d' hrun hb hbeside => ?_
  subst hb
  cases hrun
  exact .ite (fun _ => sim_advance hbeside hin) (fun _ => sim_notThere hbeside kind expected)

/-- A mark that is asked for. -/
theorem sim_mark (h : P.Beside c c') (m : Mark) : P.Sim k P.Alike (mark m) (mark m) c c' :=
  sim_expectAs h rfl _

/-- A keyword that is asked for. -/
theorem sim_keyword (h : P.Beside c c') (w : Keyword) : P.Sim k P.Alike (keyword w) (keyword w) c c' :=
  sim_expectAs h rfl _

end Errors

/-! ## Names and literals -/

section Names

/-- A string literal. -/
theorem sim_string (h : P.Beside c c') (expected : String) :
    P.Sim k Eq (string expected) (string expected) c c' := by
  refine .look h (fun _ => consumes_string expected) fun hin halike => ?_
  rw [← halike.lexeme]
  split
  · exact (sim_advance h hin).bind fun _ _ _ _ _ h => .pure h rfl
  · exact sim_unexpected h expected

/-- A number. -/
theorem sim_number (h : P.Beside c c') (expected : String) :
    P.Sim k Eq (number expected) (number expected) c c' := by
  refine .look h (fun _ => consumes_number expected) fun hin halike => ?_
  rw [← halike.lexeme]
  split
  · exact (sim_advance h hin).bind fun _ _ _ _ _ h => .pure h rfl
  · exact sim_unexpected h expected

/-- A test for a word says of what kinds the tokens are. -/
theorem word_of_test {t : Token} (h : (t.kind == .identifier || t.kind.isKeyword) = true) :
    t.kind = .identifier ∨ t.kind.isKeyword := by
  simpa using h

/-- A name. -/
theorem sim_name (h : P.Beside c c') : P.Sim k P.SameName name name c c' := by
  refine .look h (fun _ => consumes_name) fun hin halike => ?_
  rw [← halike.kind]
  refine .ite (fun hword => ?_) (fun _ => sim_unexpected h _)
  exact (sim_advance h hin).bind fun _ _ _ _ _ h => .pure h (halike.word (word_of_test hword)).1

/-- A field and the sign after it. -/
theorem sim_fieldName {α : Type} (h : P.Beside c c') (table : List (String × α)) (kind : String) :
    P.Sim .within Eq (fieldName table kind) (fieldName table kind) c c' := by
  refine .look_within h fun hin halike => ?_
  rw [← halike.kind]
  refine .ite (fun hword => ?_) (fun _ => sim_unexpected h _)
  rw [← (halike.word (word_of_test hword)).2]
  split
  · refine (sim_advance h hin).bind fun _ _ _ _ _ h => ?_
    exact (sim_mark h _).bind fun _ _ _ _ _ h => .pure h rfl
  · exact fun _ => ⟨.grammar (halike.unknown kind) halike.place, h⟩

end Names

/-! ## Comments and annotations -/

section Comments

/-- A comment, at a comment. -/
theorem sim_comment (h : P.Beside c c') (hcomment : c.current.kind.isComment = true) :
    P.Sim k (P.Same Comment.view) comment comment c c' := by
  have hne : c.current.kind ≠ .endOfInput := by
    intro hend
    rw [hend] at hcomment
    cases hcomment
  refine .of_inside (fun _ => .of_advance hne) fun hin => ?_
  refine (sim_advance h hin).bind_run fun t t' d d' hrun halike h => .pure h ?_
  cases hrun
  have hwording : wording c.current.lexeme c.current.text = wording t'.lexeme t'.text := by
    rw [← halike.lexeme]
    unfold Token.kind at hcomment
    cases hlexeme : c.current.lexeme <;> rw [hlexeme] at hcomment <;> first | rfl | cases hcomment
  simp only [Same, Comment.view, hwording, halike.kind, halike.place]

/-- A sign and the text after it, if the sign is there. -/
theorem sim_assignedText (h : P.Beside c c') : P.Sim k Eq assignedText assignedText c c' := by
  refine (sim_accept h rfl).bind fun b b' _ _ hb h => ?_
  subst hb
  refine .ite (fun _ => ?_) (fun _ => .pure h rfl)
  exact (sim_string h _).bind fun _ _ _ _ hvalue h => .pure h (congrArg some hvalue)

/-- At a blank token there is no literal that could be the text of an annotation. -/
theorem run_tagValue_of_blank (hblank : c.current.kind.isBlank) : tagValue c = assignedText c := by
  unfold Token.kind at hblank
  rw [tagValue, run_current_bind]
  cases hlexeme : c.current.lexeme with
  | string value => rw [hlexeme] at hblank; cases hblank
  | _ => rfl

/-- The text of an annotation, if there is one. It may be missing where the first text ends. -/
theorem sim_tagValue (h : P.Beside c c') : P.Sim k Eq tagValue tagValue c c' := by
  intro hcovers
  have hcases : P.Inside c ∨ c.rest = [] := by
    obtain hin | ⟨-, hafter, -⟩ := hcovers
    · exact .inl (hin.of_reaches (tagValue.forward c))
    · by_cases hrest : c.rest = []
      · exact .inr hrest
      · exact .inl (.of_lt hafter (List.length_pos_iff.2 hrest))
  obtain hin | hrest := hcases
  · refine Sim.look_inside h hin (fun halike => ?_) hcovers
    rw [← halike.lexeme]
    split
    · exact (sim_advance h hin).bind fun _ _ _ _ _ h => .pure h rfl
    · exact sim_assignedText h
  · obtain ⟨hblank, hblank'⟩ := h.blank hrest
    rw [run_tagValue_of_blank hblank] at hcovers
    rw [run_tagValue_of_blank hblank, run_tagValue_of_blank hblank']
    exact sim_assignedText h hcovers

/-- An annotation. -/
theorem sim_tag (h : P.Beside c c') : P.Sim k (P.Same Tag.view) tag tag c c' := by
  refine .look h (fun _ => consumes_tag) fun hin halike => ?_
  rw [← halike.lexeme]
  split
  · refine (sim_advance h hin).bind fun _ _ _ _ _ h => ?_
    refine (sim_tagValue h).bind fun value value' _ _ hvalue h => .pure h ?_
    simp only [Same, Tag.view, hvalue, halike.place]
  · exact sim_unexpected h _

/-- An annotation that is passed over. -/
theorem sim_skipTag (h : P.Beside c c') : P.Sim .within Eq skipTag skipTag c c' :=
  (sim_tag h).bind fun _ _ _ _ _ h => sim_skipWhile h _

/-- An annotation that is kept as a comment. -/
theorem sim_tagComment (h : P.Beside c c') : P.Sim k (P.Same Comment.view) tagComment tagComment c c' := by
  refine (sim_tag h).bind fun t t' _ _ ht h => .pure h ?_
  simp only [Same, Tag.view, Tag.mk.injEq] at ht
  simp only [Same, Comment.view, ht]

end Comments

/-! ## Loops -/

section Loops

variable {α β : Type} {R : α → β → Prop}

/-- A loop whose round fails. -/
theorem run_loop_error {round : Parser (List α × Bool)} {d : Cursor} {e : Failure} (h : round c = (.error e, d)) :
    loop round c = (.error e, d) := by
  show loopFrom round c = _
  rw [loopFrom, h]

/-- A loop whose round succeeds: it goes on if the round says so and has read a token. -/
theorem run_loop_ok {round : Parser (List α × Bool)} {d : Cursor} {nodes : List α} {more : Bool}
    (h : round c = (.ok (nodes, more), d)) :
    loop round c =
      if more ∧ d.rest.length < c.rest.length then ((loop round d).1.map (nodes ++ ·), (loop round d).2)
      else (.ok nodes, d) := by
  show loopFrom round c = _
  rw [loopFrom, h]
  rfl

/-- Nodes in front of outcomes that are related. -/
theorem Outcome.append {nodes : List α} {nodes' : List β} (hnodes : List.Forall₂ R nodes nodes')
    {r : Except Failure (List α)} {r' : Except Failure (List β)} (h : P.Outcome (List.Forall₂ R) r r') :
    P.Outcome (List.Forall₂ R) (r.map (nodes ++ ·)) (r'.map (nodes' ++ ·)) := by
  cases h with
  | ok h => exact .ok (List.rel_append hnodes h)
  | grammar hcause hplace => exact .grammar hcause hplace
  | conversion e => exact .conversion e

/-- One round after another. The rounds are at cursors that have no more tokens to read than the first. -/
theorem sim_loop {round : Parser (List α × Bool)} {round' : Parser (List β × Bool)} (h : P.Beside c c')
    (hround : ∀ d d', d.rest.length ≤ c.rest.length → P.Beside d d' →
      P.Sim .within (fun r r' => List.Forall₂ R r.1 r'.1 ∧ r.2 = r'.2) round round' d d') :
    P.Sim .within (List.Forall₂ R) (loop round) (loop round') c c' := by
  induction hlen : c.rest.length using Nat.strong_induction_on generalizing c c' with
  | _ n ih =>
    subst hlen
    rintro (hin | ⟨hk, -⟩)
    case inr => cases hk
    have hfirst := hround c c' (Nat.le_refl _) h
    unfold Sim at hfirst
    rcases hrun : round c with ⟨e | ⟨nodes, more⟩, d⟩
    · rw [run_loop_error hrun] at hin ⊢
      rw [hrun] at hfirst
      obtain ⟨houtcome, hbeside⟩ := hfirst (.inl hin)
      rcases hrun' : round' c' with ⟨r', d'⟩
      rw [hrun'] at houtcome hbeside
      obtain ⟨e', rfl, hfail⟩ := houtcome.of_error
      rw [run_loop_error hrun']
      exact ⟨hfail _, hbeside⟩
    · rw [run_loop_ok hrun] at hin ⊢
      rw [hrun] at hfirst
      have hind : P.Inside d := by
        split at hin
        · exact hin.of_reaches ((loop round).forward d)
        · exact hin
      obtain ⟨houtcome, hbeside⟩ := hfirst (.inl hind)
      rcases hrun' : round' c' with ⟨r', d'⟩
      rw [hrun'] at houtcome hbeside
      obtain ⟨⟨nodes', more'⟩, rfl, hnodes, hmore⟩ := houtcome.of_ok
      obtain rfl : more = more' := hmore
      rw [run_loop_ok hrun']
      have hlength := h.length
      replace hbeside : P.Beside d d' := hbeside
      have hlength' := hbeside.length
      by_cases hmore : more = true ∧ d.rest.length < c.rest.length
      · have hmore' : more = true ∧ d'.rest.length < c'.rest.length := ⟨hmore.1, by omega⟩
        rw [if_pos hmore] at hin ⊢
        rw [if_pos hmore']
        obtain ⟨hrest, hend⟩ := ih d.rest.length hmore.2 hbeside
          (fun e e' hle => hround e e' (by omega)) rfl (.inl hin)
        exact ⟨hrest.append hnodes, hend⟩
      · have hmore' : ¬(more = true ∧ d'.rest.length < c'.rest.length) := by
          rintro ⟨htrue, hlt⟩
          exact hmore ⟨htrue, by omega⟩
        rw [if_neg hmore, if_neg hmore']
        exact ⟨.ok hnodes, hbeside⟩

/-- Where a run stops has no more tokens to read than where it starts. -/
theorem length_le_of_run {p : Parser α} {d : Cursor} {r : Except Failure α} (h : p c = (r, d)) :
    d.rest.length ≤ c.rest.length := by
  have := (p.forward c).length_le
  rwa [h] at this

/-- Items up to a closing mark. -/
theorem sim_itemsUntil {closing : Mark} {skip : Kind → Bool} {item : Parser (List α)} {item' : Parser (List β)}
    (h : P.Beside c c')
    (hitem : ∀ d d', d.rest.length ≤ c.rest.length → P.Beside d d' →
      P.Sim .within (List.Forall₂ R) item item' d d') :
    P.Sim .within (List.Forall₂ R) (itemsUntil closing skip item) (itemsUntil closing skip item') c c' := by
  refine sim_loop h fun d d' hle h => ?_
  refine (sim_skipWhile h skip).bind_run fun _ _ e e' hskip _ h => ?_
  have hle' := length_le_of_run hskip
  refine .of_inside nofun fun hin => ?_
  refine (sim_seesAny h hin _).bind_run fun b b' _ _ hrun hb h => ?_
  subst hb
  cases hrun
  refine .ite (fun _ => .pure h ⟨.nil, rfl⟩) (fun _ => ?_)
  exact (hitem _ _ (by omega) h).bind fun _ _ _ _ hnodes h => .pure h ⟨hnodes, rfl⟩

/-- Items in braces; they stand behind the opening brace. -/
theorem sim_braced {skip : Kind → Bool} {item : Parser (List α)} {item' : Parser (List β)} (h : P.Beside c c')
    (hitem : ∀ d d', d.rest.length < c.rest.length → P.Beside d d' →
      P.Sim .within (List.Forall₂ R) item item' d d') :
    P.Sim k (List.Forall₂ R) (braced skip item) (braced skip item') c c' := by
  refine (sim_mark h .openBrace).bind_run fun _ _ d d' hrun _ h => ?_
  have hlt := consumes_mark _ _ _ hrun
  have hitems : P.Sim .within (List.Forall₂ R) (itemsUntil .closeBrace skip item)
      (itemsUntil .closeBrace skip item') d d' :=
    sim_itemsUntil h fun e e' hle => hitem e e' (Nat.lt_of_le_of_lt hle hlt)
  refine hitems.bind_of_consumes (fun _ _ => (consumes_mark _).bind) fun _ _ _ _ hnodes h => ?_
  exact (sim_mark h .closeBrace).bind fun _ _ _ _ _ h => .pure h hnodes

/-- Items with commas between them. -/
theorem sim_commaList {closing : Mark} {item : Parser α} {item' : Parser β} (h : P.Beside c c')
    (hitem : ∀ d d', P.Beside d d' → P.Sim .within R item item' d d') :
    P.Sim .within (List.Forall₂ R) (commaList closing item) (commaList closing item') c c' := by
  refine Sim.bind (R := List.Forall₂ R) (sim_loop h fun d d' _ h => ?_) fun _ _ _ _ hnodes h => ?_
  · refine (sim_skipWhile h _).bind fun _ _ _ _ _ h => ?_
    refine .of_inside nofun fun hin => ?_
    refine (sim_seesAny h hin _).bind fun b b' _ _ hb h => ?_
    subst hb
    refine .ite (fun _ => .pure h ⟨.nil, rfl⟩) (fun _ => ?_)
    refine (hitem _ _ h).bind fun _ _ _ _ hnode h => ?_
    refine (sim_skipWhile h _).bind fun _ _ _ _ _ h => ?_
    exact (sim_accept h rfl).bind fun _ _ _ _ hmore h => .pure h ⟨.cons hnode .nil, hmore⟩
  · refine (sim_skipWhile h _).bind fun _ _ _ _ _ h => ?_
    exact (sim_mark h closing).bind fun _ _ _ _ _ h => .pure h hnodes

/-- One item. -/
theorem Sim.single {p : Parser α} {q : Parser β} {γ δ : Type} {S : γ → δ → Prop} {f : α → γ} {g : β → δ}
    (hp : P.Sim k R p q c c') (hf : ∀ a b, R a b → S (f a) (g b)) :
    P.Sim k (List.Forall₂ S) (do return [f (← p)]) (do return [g (← q)]) c c' :=
  hp.bind fun a b _ _ hR h => .pure h (.cons (hf a b hR) .nil)

/-- One item and the marks after it. -/
theorem Sim.separated {p : Parser α} {q : Parser β} (hp : P.Sim .within R p q c c') :
    P.Sim .within (List.Forall₂ R) (do let a ← p; skipSeparators; return [a])
      (do let b ← q; skipSeparators; return [b]) c c' := by
  refine hp.bind fun _ _ _ _ hnode h => ?_
  exact (sim_skipWhile h _).bind fun _ _ _ _ _ h => .pure h (.cons hnode .nil)

/-- An item of a block that may hold comments and annotations. -/
theorem sim_blockItem {onComment onTag onField : Parser α} {onComment' onTag' onField' : Parser β}
    (h : P.Beside c c')
    (hcomment : c.current.kind.isComment = true → P.Sim .within R onComment onComment' c c')
    (htag : P.Sim .within R onTag onTag' c c') (hfield : P.Sim .within R onField onField' c c') :
    P.Sim .within R (blockItem onComment onTag onField) (blockItem onComment' onTag' onField') c c' := by
  refine .look_within h fun _ halike => ?_
  rw [← halike.kind]
  refine .ite hcomment (fun _ => ?_)
  refine .ite (fun _ => htag.bind fun _ _ _ _ hnode h => ?_) (fun _ => hfield.bind fun _ _ _ _ hnode h => ?_)
  · exact (sim_skipWhile h _).bind fun _ _ _ _ _ h => .pure h hnode
  · exact (sim_skipWhile h _).bind fun _ _ _ _ _ h => .pure h hnode

/-- An item of a block that keeps comments, and annotations as comments. -/
theorem sim_commentedItem {wrap : Comment → α} {wrap' : Comment → β} {field : Parser (List α)}
    {field' : Parser (List β)} (h : P.Beside c c') (hwrap : ∀ a b, P.Same Comment.view a b → R (wrap a) (wrap' b))
    (hfield : P.Sim .within (List.Forall₂ R) field field' c c') :
    P.Sim .within (List.Forall₂ R)
      (blockItem (do return [wrap (← comment)]) (do return [wrap (← tagComment)]) field)
      (blockItem (do return [wrap' (← comment)]) (do return [wrap' (← tagComment)]) field') c c' :=
  sim_blockItem h (fun hcomment => (sim_comment h hcomment).single hwrap) ((sim_tagComment h).single hwrap) hfield

/-- An item of a block that drops comments and annotations. -/
theorem sim_plainItem {field : Parser α} {field' : Parser β} (h : P.Beside c c')
    (hfield : P.Sim .within R field field' c c') :
    P.Sim .within (List.Forall₂ R) (plainItem field) (plainItem field') c c' := by
  refine sim_blockItem h (fun _ => ?_) ?_ (hfield.single fun _ _ hR => hR)
  · refine .of_inside nofun fun hin => ?_
    exact (sim_advance h hin).bind fun _ _ _ _ _ h => .pure h .nil
  · exact (sim_tag h).bind fun _ _ _ _ _ h => .pure h .nil

end Loops

/-! ## Bodies that are not read -/

section Bodies

/-- The end of a body that ends inside. -/
theorem afterBraces_alike {depth : Nat} {own own' rest : List Token} (halike : List.Forall₂ P.Alike own own')
    (hrun : afterBraces depth (own ++ P.after.rest) = some rest) (hin : P.Inside ⟨rest, P.after.finish⟩) :
    ∃ left left', List.Forall₂ P.Alike left left' ∧ rest = left ++ P.after.rest ∧
      afterBraces depth (own' ++ P.after'.rest) = some (left' ++ P.after'.rest) := by
  induction halike generalizing depth with
  | nil =>
    cases depth with
    | zero =>
      rw [List.nil_append, afterBraces] at hrun
      cases hrun
      exact ⟨[], [], .nil, rfl, by rw [List.nil_append, afterBraces]⟩
    | succ depth =>
      obtain hwhole | hlt := hin
      · rw [hwhole.1] at hrun
        cases hrun
      · have := (suffix_of_afterBraces hrun).length_le
        exact absurd hlt (Nat.not_lt.2 this)
  | @cons t t' own own' ht hrest ih =>
    cases depth with
    | zero =>
      cases hrun
      exact ⟨t :: own, t' :: own', .cons ht hrest, rfl, rfl⟩
    | succ depth =>
      rw [List.cons_append, afterBraces] at hrun ⊢
      rw [← ht.kind]
      split at hrun <;> exact ih hrun

/-- A body of a whole text that does not end. -/
theorem afterBraces_none {depth : Nat} {own own' : List Token} (halike : List.Forall₂ P.Alike own own')
    (hrun : afterBraces depth own = none) : afterBraces depth own' = none := by
  induction halike generalizing depth with
  | nil => exact hrun
  | @cons t t' own own' ht hrest ih =>
    cases depth with
    | zero => cases hrun
    | succ depth =>
      rw [afterBraces] at hrun ⊢
      rw [← ht.kind]
      split at hrun <;> exact ih hrun

/-- A body that ends is passed over. -/
theorem run_skipBody_some {rest : List Token} (h : afterBraces 1 c.rest = some rest) :
    skipBody c = (.ok (), ⟨rest, c.finish⟩) := by
  simp only [skipBody, closeBraces, h, Option.getD_some]

/-- A body that does not end fails at the end of the text. -/
theorem run_skipBody_none (h : afterBraces 1 c.rest = none) :
    skipBody c = (.error (.grammar (missingAt ⟨[], c.finish⟩ "\x7d")), ⟨[], c.finish⟩) := by
  simp only [skipBody, closeBraces, h, Option.getD_none]

/-- The rest of a body in braces. -/
theorem sim_skipBody (h : P.Beside c c') : P.Sim .within Eq skipBody skipBody c c' := by
  obtain ⟨own, own', halike, rfl, rfl⟩ := h
  rintro (hin | ⟨hk, -⟩)
  case inr => cases hk
  cases hrun : afterBraces 1 (own ++ P.after.rest) with
  | some rest =>
    rw [run_skipBody_some hrun] at hin ⊢
    obtain ⟨left, left', hleft, rfl, hrun'⟩ := afterBraces_alike halike hrun hin
    rw [run_skipBody_some hrun']
    exact ⟨.ok rfl, left, left', hleft, rfl, rfl⟩
  | none =>
    rw [run_skipBody_none hrun] at hin ⊢
    obtain hwhole | hlt := hin
    · obtain ⟨hafter, hafter', hfinish⟩ := hwhole
      have hrun' : afterBraces 1 (own' ++ P.after'.rest) = none := by
        rw [hafter, List.append_nil] at hrun
        rw [hafter', List.append_nil]
        exact afterBraces_none halike hrun
      rw [run_skipBody_none hrun']
      exact ⟨.grammar rfl hfinish, [], [], .nil, by rw [hafter]; rfl, by rw [hafter']; rfl⟩
    · cases hlt

/-- A body in braces. -/
theorem sim_skipBraces (h : P.Beside c c') : P.Sim .within Eq skipBraces skipBraces c c' :=
  (sim_mark h _).bind fun _ _ _ _ _ h => sim_skipBody h

/-- A body in braces, if there is one. -/
theorem sim_skipBracesIfAny (h : P.Beside c c') : P.Sim .within Eq skipBracesIfAny skipBracesIfAny c c' := by
  refine (sim_sees h rfl).bind fun b b' _ _ hb h => ?_
  subst hb
  exact .ite (fun _ => sim_skipBraces h) (fun _ => .pure h rfl)

end Bodies

end MediaLanguage.Pairing
