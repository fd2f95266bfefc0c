import MediaLanguage.Proofs.Parser.Calls

/-!
# Where failures point

An error has the place of the token at which its production stops, whatever has been read in front of it, and a number
that stops a run is the length of a text. Both are shown production by production: `Located p` says so of every
failure of `p`, and there is one rule for each way to put productions together.

* `located_statement`: the failures of statements.
* `Located.bind`, `located_loop`: sequences and rounds.
* `located_fieldType`: the one production that a number stops.
-/

open MediaLanguage.Ast

namespace MediaLanguage

/-- The tokens write the number as the length of a text. -/
def WritesLength (ts : List Token) (x : Number) : Prop :=
  ∃ word opening figure, [word, opening, figure] <:+: ts ∧ word.kind = .keyword .text ∧
    opening.kind = .mark .openParen ∧ figure.lexeme = .number x

/-- What the last of the tokens write, all of them do. -/
theorem WritesLength.of_suffix {ts us : List Token} {x : Number} (h : WritesLength us x) (hsuffix : us <:+ ts) :
    WritesLength ts x := by
  obtain ⟨word, opening, figure, hrow, hwords⟩ := h
  exact ⟨word, opening, figure, hrow.trans hsuffix.isInfix, hwords⟩

/-- The length of a text is the number of a token. -/
theorem WritesLength.exists_mem {ts : List Token} {x : Number} (h : WritesLength ts x) :
    ∃ t ∈ ts, t.lexeme = .number x := by
  obtain ⟨word, opening, figure, hrow, -, -, hfigure⟩ := h
  exact ⟨figure, hrow.subset (by simp), hfigure⟩

namespace Parser

/-- What a failure of a run from `c` says that stops at `d`: an error is about the token there, and a number that has
no integer part is the length of a text behind `c`. -/
inductive Points (c d : Cursor) : Failure → Prop
  | grammar {e : GrammarError} (h : e.position = d.current.position) : Points c d (.grammar e)
  | conversion {e : ConversionError} {x : Number} (h : WritesLength c.rest x) (he : x.conversionError? = some e) :
    Points c d (.conversion e)

/-- Every failure of `p` points at where `p` stops. -/
def Located {α : Type} (p : Parser α) : Prop :=
  ∀ c e d, p c = (.error e, d) → Points c d e

/-- A failure points at the same from further in front. -/
theorem Points.of_reaches {c d f : Cursor} {e : Failure} (h : Points d f e) (hreach : c.Reaches d) : Points c f e := by
  cases h with
  | grammar h => exact .grammar h
  | conversion h he => exact .conversion (h.of_suffix hreach.rest) he

/-! ## Sequences and choices -/

section Rules

variable {α β : Type} {p q : Parser α} {f : α → Parser β}

/-- A result that is at hand. -/
theorem Located.ret (a : α) : Located (pure a) := by
  intro c e d hrun
  cases hrun

/-- A sequence fails where one of its parts does. -/
theorem Located.bind (hp : Located p) (hf : ∀ a, Located (f a)) : Located (p >>= f) := by
  intro c e d hrun
  obtain hfirst | ⟨a, d', hfirst, hnext⟩ := run_bind_error.1 hrun
  · exact hp c e d hfirst
  · exact (hf a d' e d hnext).of_reaches (reaches_of_run hfirst)

/-- A production followed by its result, changed. -/
theorem Located.result {g : α → β} (hp : Located p) : Located (p >>= fun a => pure (g a)) :=
  hp.bind fun _ => .ret _

/-- The result of a production, changed. -/
theorem Located.map {g : α → β} (hp : Located p) : Located (g <$> p) :=
  hp.result

theorem Located.ite {b : Prop} [Decidable b] (hp : Located p) (hq : Located q) : Located (if b then p else q) := by
  split
  · exact hp
  · exact hq

/-- Rounds fail where one of them does. The induction is on the tokens that are left. -/
theorem located_loop {round : Parser (List α × Bool)} (h : Located round) : Located (loop round) := by
  intro c e d hrun
  induction hlen : c.rest.length using Nat.strong_induction_on generalizing c with
  | _ n ih =>
    subst hlen
    rcases hround : round c with ⟨e' | ⟨nodes, more⟩, d'⟩
    · rw [Pairing.run_loop_error hround] at hrun
      cases hrun
      exact h c e d hround
    rw [Pairing.run_loop_ok hround] at hrun
    split at hrun
    · next hgo =>
      rcases hlater : loop round d' with ⟨e' | later, f⟩ <;> rw [hlater] at hrun <;> cases hrun
      exact (ih d'.rest.length hgo.2 d' hlater rfl).of_reaches (reaches_of_run hround)
    · cases hrun

end Rules

/-! ## Steps -/

section Steps

variable {α : Type}

theorem located_get : Located (get : Parser Cursor) := by
  intro c e d hrun
  cases hrun

theorem located_current : Located current := by
  intro c e d hrun
  cases hrun

theorem located_next : Located next := by
  intro c e d hrun
  cases hrun

theorem located_advance : Located advance := by
  intro c e d hrun
  cases hrun

theorem located_skipWhile (skip : Kind → Bool) : Located (skipWhile skip) := by
  intro c e d hrun
  cases hrun

theorem located_seesAny (kinds : List Kind) : Located (seesAny kinds) := by
  intro c e d hrun
  cases hrun

theorem located_sees (kind : Kind) : Located (sees kind) :=
  located_seesAny _

theorem located_accept (kind : Kind) : Located (accept kind) :=
  (located_seesAny _).bind fun _ => .ite (located_advance.result) (.ret _)

/-- Something else was expected of the token at the cursor. -/
theorem located_unexpected (expected : String) : Located (unexpected expected : Parser α) := by
  intro c e d hrun
  cases hrun
  refine .grammar ?_
  unfold unexpectedAt
  dsimp only
  split <;> rfl

/-- A closing mark is missing where the token at the cursor stands. -/
theorem located_missing (delimiter : String) : Located (missing delimiter : Parser α) := by
  intro c e d hrun
  cases hrun
  exact .grammar rfl

theorem located_expectAs (kind : Kind) (expected : String) : Located (expectAs kind expected) := by
  refine (located_sees kind).bind fun _ => .ite located_advance ?_
  exact (located_sees _).bind fun _ => .ite (located_missing _) (located_unexpected expected)

theorem located_mark (m : Mark) : Located (mark m) :=
  located_expectAs _ _

theorem located_keyword (w : Keyword) : Located (keyword w) :=
  located_expectAs _ _

theorem located_string (expected : String) : Located (string expected) := by
  refine located_current.bind fun t => ?_
  split
  · exact located_advance.result
  · exact located_unexpected expected

theorem located_number (expected : String) : Located (number expected) := by
  refine located_current.bind fun t => ?_
  split
  · exact located_advance.result
  · exact located_unexpected expected

theorem located_name : Located name :=
  located_current.bind fun _ => .ite (located_advance.result) (located_unexpected _)

/-- A word that names no field is at the cursor still. -/
theorem located_fieldName (table : List (String × α)) (kind : String) : Located (fieldName table kind) := by
  intro c e d hrun
  rw [fieldName, run_current_bind] at hrun
  split at hrun
  · split at hrun
    · exact (located_advance.bind fun _ => (located_mark _).result) c e d hrun
    · cases hrun
      exact .grammar rfl
  · exact located_unexpected _ c e d hrun

theorem located_comment : Located comment :=
  located_advance.result

theorem located_tag : Located tag := by
  refine located_current.bind fun t => ?_
  split
  · refine located_advance.bind fun _ => Located.result (located_current.bind fun u => ?_)
    split
    · exact located_advance.result
    · exact (located_accept _).bind fun _ => .ite ((located_string _).result) (.ret _)
  · exact located_unexpected _

theorem located_tagComment : Located tagComment :=
  located_tag.result

end Steps

/-! ## Bodies -/

section Bodies

variable {α : Type}

theorem located_skipSeparators : Located skipSeparators :=
  located_skipWhile _

theorem located_braced {skip : Kind → Bool} {item : Parser (List α)} (h : Located item) :
    Located (braced skip item) := by
  refine (located_mark _).bind fun _ => Located.bind (located_loop ?_) fun _ => (located_mark _).result
  exact (located_skipWhile _).bind fun _ => (located_seesAny _).bind fun _ => .ite (.ret _) (h.result)

theorem located_commaList {closing : Mark} {item : Parser α} (h : Located item) : Located (commaList closing item) := by
  have hround : Located (commaRound closing item) := by
    refine (located_skipWhile _).bind fun _ => (located_seesAny _).bind fun _ => .ite (.ret _) ?_
    exact h.bind fun _ => (located_skipWhile _).bind fun _ => (located_accept _).result
  refine (located_loop hround).bind fun _ => (located_skipWhile _).bind fun _ => ?_
  exact (located_mark _).result

theorem located_blockItem {onComment onTag onField : Parser α} (hcomment : Located onComment) (htag : Located onTag)
    (hfield : Located onField) : Located (blockItem onComment onTag onField) := by
  have hthen : ∀ {p : Parser α}, Located p → Located (do let a ← p; skipSeparators; return a) := fun hp =>
    hp.bind fun _ => located_skipSeparators.result
  exact located_current.bind fun _ => .ite hcomment (.ite (hthen htag) (hthen hfield))

theorem located_plainItem {field : Parser α} (h : Located field) : Located (plainItem field) :=
  located_blockItem (located_advance.result) (located_tag.result) (h.result)

/-- An item of a block that keeps comments, and annotations as comments. -/
theorem located_commentedItem {field : Parser (List α)} {keep : Comment → α} (h : Located field) :
    Located (blockItem (do return [keep (← comment)]) (do return [keep (← tagComment)]) field) :=
  located_blockItem (located_comment.result) (located_tagComment.result) h

/-- An item of a block that keeps comments and annotations apart. -/
theorem located_taggedItem {field : Parser (List α)} {keep : Comment → α} {keepTag : Tag → α} (h : Located field) :
    Located (blockItem (do return [keep (← comment)]) (do return [keepTag (← tag)]) field) :=
  located_blockItem (located_comment.result) (located_tag.result) h

/-- An item of a block that is read as changes. -/
theorem located_changes {field : Parser α} {keep : Comment → α} {keepTag : Tag → α} (h : Located field) :
    Located (blockItem (do let c ← comment; return keep c) (do let t ← tag; return keepTag t) field) :=
  located_blockItem (located_comment.result) (located_tag.result) h

theorem located_untaggedItem {field : Parser α} {after : Parser Unit} (h : Located field) (hafter : Located after) :
    Located (untaggedItem field after) := by
  refine (located_sees _).bind fun _ => .ite ?_ (h.bind fun _ => hafter.result)
  exact Located.result (located_tag.bind fun _ => located_skipSeparators)

/-- A node with separators behind it. -/
theorem located_separated {p : Parser α} (h : Located p) : Located (do let a ← p; skipSeparators; return [a]) :=
  h.bind fun _ => located_skipSeparators.result

/-- A body that is not closed breaks off at the end. -/
theorem located_skipBraces : Located skipBraces := by
  refine (located_mark _).bind fun _ c e d hrun => ?_
  cases hafter : afterBraces 1 c.rest with
  | some rest =>
    rw [Pairing.run_skipBody_some hafter] at hrun
    cases hrun
  | none =>
    rw [Pairing.run_skipBody_none hafter] at hrun
    cases hrun
    exact .grammar rfl

theorem located_skipBracesIfAny : Located skipBracesIfAny :=
  (located_sees _).bind fun _ => .ite located_skipBraces (.ret _)

end Bodies

/-! ## Expressions -/

theorem located_date : Located date := by
  refine located_current.bind fun t => ?_
  split
  · exact located_advance.result
  · exact located_advance.result
  · exact located_unexpected _

theorem located_periodEnd : Located periodEnd :=
  (located_accept _).bind fun _ => .ite located_date.map (.ret _)

theorem located_dateRange : Located dateRange :=
  located_date.bind fun _ => located_periodEnd.result

theorem located_member {value : Parser Expr} (h : Located value) : Located (member value) := by
  refine located_current.bind fun _ => located_name.bind fun _ => (located_mark _).bind fun _ => ?_
  refine located_current.bind fun t => located_next.bind fun u => ?_
  split
  · exact located_advance.bind fun _ => located_advance.bind fun _ => located_date.result
  · exact h.result

theorem located_objectOf {value : Parser Expr} (h : Located value) : Located (objectOf value) :=
  located_current.bind fun _ => (located_braced (located_separated (located_member h))).result

/-- An expression of bounded depth, by induction on the bound. -/
theorem located_expressionWithin (depth : Nat) : Located (expressionWithin depth) := by
  induction depth with
  | zero => exact located_unexpected _
  | succ depth ih =>
    refine located_current.bind fun t => ?_
    split
    · exact located_advance.bind fun _ => located_name.result
    · exact located_advance.result
    · exact located_advance.result
    · exact located_advance.result
    · exact (located_objectOf ih).result
    · exact located_unexpected _

theorem located_expression : Located expression :=
  located_get.bind fun _ => located_expressionWithin _

theorem located_object : Located object :=
  located_get.bind fun _ => located_objectOf (located_expressionWithin _)

theorem located_assignment : Located assignment :=
  located_current.bind fun _ => located_name.bind fun _ => (located_mark _).bind fun _ =>
    located_expression.result

theorem located_assignments : Located assignments :=
  located_braced (located_separated located_assignment)

theorem located_keptField : Located keptField :=
  located_commentedItem (located_assignment.result)

/-! ## Imports, variables, units and vocabularies -/

theorem located_importFile : Located importFile :=
  (located_keyword _).bind fun _ => (located_string _).bind fun _ => (located_accept _).result

theorem located_letVariable : Located letVariable :=
  (located_keyword _).bind fun _ => located_name.bind fun _ => (located_mark _).bind fun _ =>
    located_expression.bind fun _ => (located_accept _).result

/-- A length that cannot be read is not there, or is a number that has no integer part. -/
theorem run_textLength_error {c d : Cursor} {e : Failure} (hrun : textLength c = (.error e, d)) :
    number "text length" c = (.error e, d) ∨
      ∃ x e', c.current.lexeme = .number x ∧ x.conversionError? = some e' ∧ e = .conversion e' := by
  rcases run_bind_error.1 hrun with hnumber | ⟨x, d', hnumber, hlength⟩
  · exact .inl hnumber
  have hlexeme : c.current.lexeme = .number x := by
    rw [number, run_current_bind] at hnumber
    split at hnumber <;> cases hnumber
    assumption
  unfold Number.truncate at hlength
  cases hx : x.conversionError? with
  | none =>
    simp only [hx] at hlength
    cases hlength
  | some e' =>
    simp only [hx] at hlength
    cases hlength
    exact .inr ⟨x, e', hlexeme, hx, rfl⟩

/-- A length that is read behind `TEXT` and an opening parenthesis. -/
theorem points_textLength {c d : Cursor} {e : Failure} (hword : c.current.kind = .keyword .text)
    (hopening : c.advance.current.kind = .mark .openParen) (hrun : textLength c.advance.advance = (.error e, d)) :
    Points c d e := by
  rcases run_textLength_error hrun with hnumber | ⟨x, e', hlexeme, hx, rfl⟩
  · exact (located_number _ _ _ _ hnumber).of_reaches (c.reaches_advance.trans c.advance.reaches_advance)
  refine .conversion ⟨_, _, _, List.IsPrefix.isInfix ⟨c.advance.advance.advance.rest, ?_⟩, hword, hopening, hlexeme⟩ hx
  rw [Cursor.rest_eq_cons (c := c) (by simp [hword]), Cursor.rest_eq_cons (c := c.advance) (by simp [hopening]),
    Cursor.rest_eq_cons (c := c.advance.advance) (by simp [Token.kind, hlexeme, Lexeme.kind])]
  rfl

/-- A type; the length of a text is what a number stops. -/
theorem located_fieldType : Located fieldType := by
  intro c e d hrun
  rw [fieldType, run_current_bind] at hrun
  split at hrun
  · exact (located_advance.result) c e d hrun
  · next hword =>
    rcases run_bind_error.1 hrun with hnone | ⟨_, _, ⟨⟩, hnext⟩
    · cases hnone
    rw [run_accept_bind] at hnext
    split at hnext
    · next hopening =>
      rcases run_bind_error.1 hnext with hlength | ⟨_, d', hlength, hclosing⟩
      · exact points_textLength hword (beq_iff_eq.1 hopening) hlength
      · have hpoints := ((located_mark _).result) d' e d hclosing
        exact hpoints.of_reaches ((c.reaches_advance.trans c.advance.reaches_advance).trans (reaches_of_run hlength))
    · cases hnext
  · exact (located_advance.result) c e d hrun
  · exact (located_advance.result) c e d hrun
  · refine (located_advance.bind fun _ => (located_mark _).bind fun _ => ?_) c e d hrun
    exact (located_commaList (located_string _)).result
  · exact located_unexpected _ c e d hrun

theorem located_primaryKey : Located primaryKey :=
  located_current.bind fun _ => located_next.bind fun _ =>
    .ite (located_advance.bind fun _ => located_advance.result) (.ret _)

theorem located_unitField : Located unitField :=
  located_current.bind fun _ => located_name.bind fun _ => (located_mark _).bind fun _ =>
    located_fieldType.bind fun _ => located_primaryKey.result

theorem located_unitDeclaration : Located unitDeclaration := by
  refine (located_keyword _).bind fun _ => located_name.bind fun _ => Located.result (located_braced ?_)
  exact located_untaggedItem located_unitField ((located_sees _).bind fun _ => .ite (located_skipWhile _) (.ret _))

theorem located_vocabularyEntry : Located vocabularyEntry := by
  refine located_current.bind fun _ => Located.bind (located_current.bind fun t => ?_) fun _ =>
    (located_mark _).bind fun _ => (located_string _).result
  split
  · exact located_advance.result
  · exact located_advance.result
  · exact located_unexpected _

theorem located_skipComma : Located skipComma :=
  (located_accept _).result

theorem located_vocabularyBody : Located vocabularyBody :=
  located_current.bind fun _ => located_name.bind fun _ =>
    (located_braced (located_untaggedItem located_vocabularyEntry located_skipComma)).result

theorem located_vocabulary : Located vocabulary :=
  (located_keyword _).bind fun _ => located_name.bind fun _ =>
    (located_braced (located_untaggedItem located_vocabularyBody located_skipComma)).result

theorem located_bareVocabulary : Located bareVocabulary :=
  located_vocabularyBody.result

/-! ## Blocks -/

theorem located_identityField : Located identityField := by
  refine located_current.bind fun _ => located_name.bind fun _ => (located_mark _).bind fun _ =>
    (located_accept _).bind fun _ => .ite ?_ (located_expression.result)
  exact (located_commaList located_object).result

theorem located_identityBlock : Located identityBlock :=
  (located_keyword _).bind fun _ =>
    (located_braced (located_commentedItem (located_identityField.result))).result

theorem located_lifecycleAttribute : Located lifecycleAttribute := by
  have hthen : ∀ {p : Parser Field}, Located p → Located (do let field ← p; skipSeparators; return field) := fun hp =>
    hp.bind fun _ => located_skipSeparators.result
  exact located_current.bind fun _ =>
    .ite (hthen located_comment.map) (.ite (hthen located_tagComment.map) (hthen located_assignment.map))

theorem located_lifecycleEntry : Located lifecycleEntry := by
  refine (located_keyword _).bind fun _ => (located_string _).bind fun _ => (located_keyword _).bind fun _ => ?_
  refine located_date.bind fun _ => located_periodEnd.bind fun _ => Located.result (located_braced ?_)
  exact located_lifecycleAttribute.result

theorem located_lifecycleBlock : Located lifecycleBlock :=
  (located_keyword _).bind fun _ =>
    (located_braced (located_untaggedItem located_lifecycleEntry located_skipSeparators)).result

/-- A value that cannot be read is passed over, and only a number stops the reading of a characteristic there. -/
theorem located_characteristicValue : Located characteristicValue := by
  refine located_current.bind fun t => ?_
  split
  · exact located_advance.bind fun _ => located_skipBracesIfAny.result
  · exact located_skipBraces.result
  · intro c e d hrun
    have hexpression : Located (some <$> expression) := located_expression.map
    replace hrun : recoverWith passOver ((some <$> expression) c) = (.error e, d) := hrun
    rcases hvalue : (some <$> expression) c with ⟨(e' | e') | value, d'⟩ <;> rw [hvalue] at hrun <;> cases hrun
    exact hexpression c _ _ hvalue

theorem located_characteristic : Located characteristic :=
  located_current.bind fun _ => located_name.bind fun _ => (located_mark _).bind fun _ =>
    located_characteristicValue.result

theorem located_characteristicsBlock : Located characteristicsBlock :=
  (located_keyword _).bind fun _ =>
    (located_braced (located_commentedItem (located_characteristic.result))).result

theorem located_metadataBlock : Located metadataBlock :=
  (located_keyword _).bind fun _ => (located_braced located_keptField).result

theorem located_outletBlock : Located outletBlock := by
  refine located_current.bind fun t => ?_
  split
  · exact located_comment.map
  · exact located_comment.map
  · exact located_tagComment.map
  · exact located_identityBlock.map
  · exact located_lifecycleBlock.map
  · exact located_characteristicsBlock.map
  · exact located_metadataBlock.map
  · exact located_next.bind fun _ => .ite (located_identityField.result) (located_unexpected _)

/-! ## Market data -/

theorem located_aggregation : Located aggregation := by
  refine (located_keyword _).bind fun _ => (located_accept _).bind fun _ => Located.result (located_braced ?_)
  exact located_plainItem (located_assignment.result)

theorem located_metric : Located metric :=
  located_current.bind fun _ => located_name.bind fun _ => (located_mark _).bind fun _ =>
    (located_braced (located_plainItem located_assignment)).result

theorem located_metrics : Located metrics :=
  (located_keyword _).bind fun _ => (located_braced (located_plainItem located_metric)).result

theorem located_yearField : Located yearField := by
  refine located_current.bind fun _ => .ite located_metrics.map (.ite ?_ (located_unexpected _))
  exact located_advance.bind fun _ => (located_mark _).bind fun _ => (located_string _).result

theorem located_year : Located year := by
  refine (located_keyword _).bind fun _ => (located_number _).bind fun _ => Located.result (located_braced ?_)
  exact located_commentedItem (located_yearField.result)

theorem located_dataField : Located dataField := by
  refine located_current.bind fun t => ?_
  split
  · exact located_aggregation.map
  · exact located_year.map
  · exact located_unexpected _

theorem located_data : Located data := by
  refine (located_keyword _).bind fun _ => (located_keyword _).bind fun _ => (located_number _).bind fun _ => ?_
  exact (located_braced (located_taggedItem (located_dataField.result))).result

/-! ## Links -/

theorem located_linkName : Located linkName := by
  refine located_current.bind fun t => ?_
  split
  · exact located_advance.result
  · exact located_name

theorem located_diachronicField : Located diachronicField := by
  refine (located_fieldName _ _).bind fun field => ?_
  cases field with
  | predecessor => exact (located_number _).result
  | successor => exact (located_number _).result
  | relationshipType => exact (located_string _).result
  | eventDate => exact located_dateRange.result
  | triggeredBy => exact located_name.result

theorem located_diachronicLink : Located diachronicLink := by
  refine (located_keyword _).bind fun _ => located_linkName.bind fun _ => Located.bind (located_braced ?_) fun _ =>
    (located_accept _).result
  exact (located_changes located_diachronicField).result

theorem located_specField : Located specField := by
  refine (located_fieldName _ _).bind fun field => ?_
  cases field with
  | id => exact (located_number _).result
  | role => exact (located_string _).result

theorem located_outletSpec : Located outletSpec :=
  located_current.bind fun _ => (located_braced (located_plainItem located_specField)).result

theorem located_synchronousField : Located synchronousField := by
  refine (located_fieldName _ _).bind fun field => ?_
  cases field with
  | first => exact located_outletSpec.result
  | second => exact located_outletSpec.result
  | relationshipType => exact (located_string _).result
  | periodStart => exact located_date.result
  | periodEnd => exact located_date.result
  | period => exact located_dateRange.result
  | details => exact (located_string _).result
  | createdBy => exact located_name.result

theorem located_synchronousLink : Located synchronousLink := by
  refine located_advance.bind fun _ => located_linkName.bind fun _ => Located.bind (located_braced ?_) fun _ =>
    (located_accept _).result
  exact (located_changes located_synchronousField).result

/-! ## Events and catalogs -/

theorem located_entityField : Located entityField := by
  refine (located_fieldName _ _).bind fun field => ?_
  cases field with
  | id => exact (located_number _).result
  | role => exact (located_string _).result
  | stakeBefore => exact (located_number _).result
  | stakeAfter => exact (located_number _).result

theorem located_eventEntity : Located eventEntity :=
  located_current.bind fun _ => located_name.bind fun _ => (located_mark _).bind fun _ =>
    (located_braced (located_separated located_entityField)).result

theorem located_eventField : Located eventField := by
  refine (located_fieldName _ _).bind fun field => ?_
  cases field with
  | type => exact (located_string _).result
  | date => exact located_date.result
  | status => exact (located_string _).result
  | entities => exact Located.result (located_braced (located_separated located_eventEntity))
  | impact => exact located_assignments.result
  | metadata => exact located_assignments.result

theorem located_event : Located event := by
  refine (located_keyword _).bind fun _ => located_name.bind fun _ => Located.bind (located_braced ?_) fun _ =>
    (located_accept _).result
  exact (located_changes located_eventField).result

theorem located_sourceField : Located sourceField := by
  refine located_current.bind fun _ => located_name.bind fun _ => (located_sees _).bind fun _ => .ite ?_ ?_
  · exact Located.map ((located_braced located_keptField).result)
  · exact (located_expectAs _ _).bind fun _ => located_expression.result

theorem located_source : Located source := by
  refine (located_keyword _).bind fun _ => (located_string _).bind fun _ => Located.result (located_braced ?_)
  exact located_taggedItem (located_sourceField.result)

theorem located_catalog : Located catalog := by
  refine (located_keyword _).bind fun _ => located_name.bind fun _ => Located.bind (located_braced ?_) fun _ =>
    (located_accept _).result
  exact (located_sees _).bind fun _ => .ite (located_separated located_source) (located_unexpected _)

/-! ## Outlets, templates and families -/

theorem located_outletBody : Located outletBody :=
  located_braced (located_outletBlock.result)

theorem located_template : Located template := by
  refine (located_keyword _).bind fun _ => Located.bind (located_current.bind fun t => ?_) fun _ =>
    (located_string _).bind fun _ => located_outletBody.result
  split
  · exact located_advance.result
  · exact .ret _

theorem located_inheritance : Located inheritance := by
  refine located_current.bind fun _ => (located_accept _).bind fun _ => .ite ?_ ?_
  · exact (located_keyword _).bind fun _ => (located_string _).result
  · exact (located_accept _).bind fun _ => .ite ((located_number _).result) (.ret _)

theorem located_outlet : Located outlet :=
  (located_keyword _).bind fun _ => (located_string _).bind fun _ => located_inheritance.bind fun _ =>
    located_outletBody.result

theorem located_outletLabel : Located outletLabel := by
  refine (located_accept _).bind fun _ => .ite ?_ (located_string _)
  exact (located_string _).bind fun _ => (located_mark _).result

theorem located_outletReference : Located outletReference := by
  refine (located_keyword _).bind fun _ => (located_number _).bind fun _ => located_outletLabel.bind fun _ => ?_
  exact (located_skipWhile _).bind fun _ => located_skipBracesIfAny.result

theorem located_familyMember : Located familyMember := by
  refine located_current.bind fun t => ?_
  split
  · exact located_outlet.map
  · exact located_outletReference.map
  · exact located_data.map
  · exact located_diachronicLink.map
  · exact located_synchronousLink.map
  · exact located_synchronousLink.map
  · exact located_comment.map
  · exact located_comment.map
  · exact located_tagComment.map
  · exact located_unexpected _

theorem located_family : Located family :=
  located_advance.bind fun _ => (located_string _).bind fun _ =>
    (located_braced (located_familyMember.result)).result

/-! ## Statements -/

/-- Every failure of a statement points at where the statement stops. -/
theorem located_statement : Located statement := by
  refine located_current.bind fun t => ?_
  split
  · exact located_importFile.map
  · exact located_letVariable.map
  · exact located_unitDeclaration.map
  · exact located_vocabulary.map
  · exact located_family.map
  · exact located_template.map
  · exact located_data.map
  · exact located_event.map
  · exact located_catalog.map
  · exact located_diachronicLink.map
  · exact located_synchronousLink.map
  · exact located_synchronousLink.map
  · exact located_comment.map
  · exact located_comment.map
  · exact located_tagComment.map
  · refine located_next.bind fun _ => .ite located_family.map (.ite located_bareVocabulary.map ?_)
    exact located_unexpected _
  · exact located_unexpected _

end Parser

end MediaLanguage
