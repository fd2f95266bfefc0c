import MediaLanguage.Proofs.Parser.Bodies

/-!
# Productions that keep no comments

A comment in front of a line break changes nothing about nodes that hold no comments: the runs without and with it
give the same node. Most productions keep cursors beside each other wherever they start (`Insertion.Alike`). One that
takes its place from the token at the cursor needs both cursors at the same token (`Insertion.AlikeAt`), where it is
an item of a body or follows a keyword.

* `alike_expression`: expressions, compared under one bound on their depth (`simulates_of_depth`).
* `run_attempt`: the value of a characteristic that cannot be read is passed over, up to the same mark in both runs.
-/

open MediaLanguage.Ast MediaLanguage.Parser

namespace MediaLanguage.Insertion

variable {I : Insertion} {t : Token}

/-! ## Expressions and dates -/

theorem alike_date : I.Alike Eq date date := by
  apply simulates_look
  · intro t
    split
    · exact alike_read (.pure rfl)
    · exact alike_read (.pure rfl)
    · exact simulates_unexpected _
  · rw [I.lexeme_newline]
    exact simulates_unexpected _

theorem alike_periodEnd : I.Alike Eq periodEnd periodEnd :=
  (alike_accept rfl).next fun _ => .ite (fun _ => alike_date.same) (fun _ => .pure rfl)

theorem alike_dateRange : I.Alike Eq dateRange dateRange :=
  alike_date.next fun _ => alike_periodEnd.same

theorem alike_member {value : Parser Expr} (hvalue : I.Alike Eq value value) :
    I.AlikeAt t Eq (member value) (member value) := by
  apply simulates_current
  refine (alike_name.at t).next fun label => (alike_mark _).next fun _ => ?_
  refine simulates_split (fun u => simulates_current (simulates_next (fun v => ?_) ?_)) ?_
  · split
    · exact simulates_read (alike_read alike_date.same)
    · exact hvalue.same.of_imp fun _ _ hboth => hboth.1.beside
  · split
    · next h => exact absurd h (I.kind_newline_ne rfl)
    split
    · next h => exact absurd h (I.kind_comment_ne rfl)
    exact hvalue.same.at u
  · refine simulates_current_break (simulates_next_break fun u => ?_)
    obtain ⟨body, hlexeme | hlexeme⟩ := I.lexeme_comment <;> rw [I.lexeme_newline, hlexeme] <;>
      exact hvalue.same.of_imp fun _ _ => Break.beside

theorem alike_objectOf {value : Parser Expr} (hvalue : I.Alike Eq value value) :
    I.AlikeAt t Eq (objectOf value) (objectOf value) := by
  apply simulates_current
  have hmembers := alike_braced (I := I) composes_eq (fun _ => consumes_named.bind) fun t =>
    alike_separated (t := t) (alike_member hvalue)
  exact hmembers.same.at t

/-- Bounds above the number of tokens read the same, so productions may be compared under one bound. -/
theorem simulates_of_depth {α : Type} {K E : Cursor → Cursor → Prop} {R : α → α → Prop} {bounded : Nat → Parser α}
    {p : Parser α} (hdepth : ∀ {n c}, c.rest.length < n → bounded n c = p c)
    (h : ∀ n, Simulates K E R (bounded n) (bounded n)) : Simulates K E R p p := by
  intro c c' hK a d hrun
  have hc : c.rest.length < c.rest.length + c'.rest.length + 1 := by omega
  have hc' : c'.rest.length < c.rest.length + c'.rest.length + 1 := by omega
  obtain ⟨b, d', hrun', hR, hE⟩ := h _ c c' hK a d ((hdepth hc).trans hrun)
  exact ⟨b, d', (hdepth hc').symm.trans hrun', hR, hE⟩

theorem alike_expressionWithin (depth : Nat) : I.Alike Eq (expressionWithin depth) (expressionWithin depth) := by
  induction depth with
  | zero => exact simulates_unexpected _
  | succ depth ih =>
    rw [expressionWithin]
    apply simulates_look
    · intro t
      split
      · exact alike_read alike_name.same
      · exact alike_read (.pure rfl)
      · exact alike_read (.pure rfl)
      · exact alike_read (.pure rfl)
      · exact (alike_objectOf ih).same
      · exact simulates_unexpected _
    · rw [I.lexeme_newline]
      exact simulates_unexpected _

theorem alike_expression : I.Alike Eq expression expression :=
  simulates_of_depth run_expressionWithin alike_expressionWithin

theorem alike_object (t : Token) : I.AlikeAt t Eq object object := by
  have hdepth : ∀ {n : Nat} {c : Cursor}, c.rest.length < n → objectOf (expressionWithin n) c = object c := by
    intro n c hn
    rw [Pairing.run_object]
    exact objectOf_congr fun d hd => expressionWithin_congr (by omega) (by omega)
  exact simulates_of_depth hdepth fun n => alike_objectOf (alike_expressionWithin n)

theorem alike_assignment (t : Token) : I.AlikeAt t Eq assignment assignment := by
  apply simulates_current
  exact (alike_name.at t).next fun _ => (alike_mark _).next fun _ => alike_expression.same

theorem alike_assignments : I.Alike Eq assignments assignments :=
  alike_braced composes_eq GrammarBody.assignments.consumes fun t => alike_separated (alike_assignment t)

/-! ## Imports, variables, units and vocabularies -/

theorem alike_importFile : I.Alike Eq importFile importFile :=
  (alike_keyword _).next fun _ => (alike_string _).next fun _ => (alike_accept rfl).same

theorem alike_letVariable : I.Alike Eq letVariable letVariable :=
  (alike_keyword _).next fun _ => alike_name.next fun _ => (alike_mark _).next fun _ => alike_expression.next fun _ =>
    (alike_accept rfl).same

theorem alike_textLength : I.Alike Eq textLength textLength := by
  refine (alike_number _).next fun value => ?_
  split
  · exact .pure rfl
  · exact .of_fails fun _ _ _ _ _ h => nomatch h

theorem alike_fieldType : I.Alike Eq fieldType fieldType := by
  apply simulates_look
  · intro t
    split
    · exact alike_read (.pure rfl)
    · refine alike_read ((alike_accept rfl).next fun _ => .ite (fun _ => ?_) (fun _ => .pure rfl))
      exact alike_textLength.next fun _ => (alike_mark _).same
    · exact alike_read (.pure rfl)
    · exact alike_read (.pure rfl)
    · have hvalues : I.Alike Eq (commaList .closeParen (string "category value")) _ :=
        alike_commaList .category fun t => (alike_string _).at t
      exact alike_read ((alike_mark _).next fun _ => hvalues.same)
    · exact simulates_unexpected _
  · rw [I.newline_kind]
    exact simulates_unexpected _

theorem alike_primaryKey : I.Alike Eq primaryKey primaryKey := by
  refine simulates_split (fun t => simulates_current (simulates_next (fun u => ?_) ?_)) ?_
  · refine .ite (fun _ => simulates_read (alike_read (.pure rfl))) (fun _ => ?_)
    exact Simulates.of_imp (.pure rfl) fun _ _ hboth => hboth.1.beside
  · rw [beq_false_of_ne (I.kind_newline_ne rfl), beq_false_of_ne (I.kind_comment_ne rfl), Bool.and_false]
    exact Simulates.at (.pure rfl) t
  · refine simulates_current_break (simulates_next_break fun u => ?_)
    rw [beq_false_of_ne (I.kind_newline_ne rfl), beq_false_of_ne (I.kind_comment_ne rfl)]
    exact Simulates.of_imp (.pure rfl) fun _ _ => Break.beside

theorem alike_unitField (t : Token) : I.AlikeAt t Eq unitField unitField := by
  apply simulates_current
  refine (alike_name.at t).next fun _ => (alike_mark _).next fun _ => alike_fieldType.next fun _ => ?_
  exact alike_primaryKey.same

theorem alike_skipCommas : I.Alike Eq skipCommas skipCommas := by
  refine simulates_split (fun t => simulates_sees ?_) (simulates_sees_break rfl ?_)
  · exact .ite (fun _ => (alike_skipWhile rfl rfl).at t) (fun _ => Simulates.at (.pure rfl) t)
  · exact Simulates.of_imp (.pure rfl) fun _ _ => Break.beside

theorem alike_skipComma : I.Alike Eq skipComma skipComma :=
  (alike_accept rfl).same

/-- A body of fields that skips comments and drops annotations. -/
theorem alike_untaggedBody {α : Type} {field : Parser α} {after : Parser Unit}
    (hconsumes : ∀ c, Consumes (untaggedItem field after) c) (hfield : ∀ t, I.AlikeAt t Eq field field)
    (hafter : I.Alike Eq after after) :
    I.Alike Eq (braced isTrivia (untaggedItem field after)) (braced isTrivia (untaggedItem field after)) :=
  alike_braced composes_eq hconsumes fun t =>
    alike_untaggedItem composes_eq (fun _ _ h => congrArg ([·]) h) (hfield t) hafter

theorem alike_unitDeclaration : I.Alike Eq unitDeclaration unitDeclaration :=
  (alike_keyword _).next fun _ => alike_name.next fun _ =>
    (alike_untaggedBody GrammarBody.unitDeclaration.consumes alike_unitField alike_skipCommas).same

theorem alike_vocabularyEntry (t : Token) : I.AlikeAt t Eq vocabularyEntry vocabularyEntry := by
  apply simulates_current
  refine Simulates.next (D := I.Beside) (simulates_current ?_) fun _ => (alike_mark _).next fun _ =>
    (alike_string _).same
  split
  · exact alike_read (.pure rfl)
  · exact alike_read (.pure rfl)
  · exact simulates_unexpected _

theorem alike_vocabularyBody (t : Token) : I.AlikeAt t Eq vocabularyBody vocabularyBody := by
  apply simulates_current
  refine (alike_name.at t).next fun _ => ?_
  exact (alike_untaggedBody GrammarBody.vocabularyBody.consumes alike_vocabularyEntry alike_skipComma).same

theorem alike_vocabulary : I.Alike Eq vocabulary vocabulary :=
  (alike_keyword _).next fun _ => alike_name.next fun _ =>
    (alike_untaggedBody GrammarBody.vocabulary.consumes alike_vocabularyBody alike_skipComma).same

/-! ## Identity and characteristics -/

theorem alike_identityField (t : Token) : I.AlikeAt t Eq identityField identityField := by
  apply simulates_current
  refine (alike_name.at t).next fun _ => (alike_mark _).next fun _ => (alike_accept rfl).next fun _ => ?_
  refine .ite (fun _ => ?_) (fun _ => alike_expression.same)
  exact (alike_commaList .identityArray alike_object).same

/-- Passes over a value that cannot be read. -/
def passed : Parser (Option Expr) := do
  skipWhile fun k => !endsCharacteristic k
  return none

/-- The value of a characteristic that is neither a string nor an object: it is read, or passed over. -/
def attempt : Parser (Option Expr) := do
  let token ← current
  match token.lexeme with
  | .mark .dollar =>
    let _ ← advance
    let label ← current
    if label.kind == .identifier || label.kind.isKeyword then
      let _ ← advance
      return some (.reference label.text token.position)
    else passed
  | .number value =>
    let _ ← advance
    return some (.number value token.position)
  | .boolean value =>
    let _ ← advance
    return some (.boolean value token.position)
  | _ => passed

/-- Lexemes that start a string or an object. -/
def startsText : Lexeme → Bool
  | .string _ | .mark .openBrace => true
  | _ => false

/-- What is tried and passed over is the attempt. -/
theorem run_attempt {c : Cursor} (h : startsText c.current.lexeme = false) :
    tryCatch (some <$> expression) passOver c = attempt c := by
  show recoverWith passOver (continueWith (fun e => pure (some e)) (expressionWithin (c.rest.length + 1) c)) =
    (current >>= _ : Parser (Option Expr)) c
  rw [expressionWithin, run_current_bind, run_current_bind]
  cases hlexeme : c.current.lexeme with
  | string value => simp [startsText, hlexeme] at h
  | mark m =>
    cases m with
    | openBrace => simp [startsText, hlexeme] at h
    | dollar =>
      show recoverWith passOver (continueWith (fun e => pure (some e))
          (continueWith (fun label => pure (.reference label c.current.position)) (name c.advance))) =
        (if c.advance.current.kind == .identifier || c.advance.current.kind.isKeyword then do
          let _ ← advance
          return some (.reference c.advance.current.text c.current.position)
        else passed : Parser (Option Expr)) c.advance
      rw [name, run_current_bind]
      split <;> rfl
    | _ => rfl
  | _ => rfl

theorem alike_passed : I.Alike Eq passed passed :=
  (alike_skipWhile rfl rfl).same

theorem alike_attempt : I.Alike Eq attempt attempt := by
  have hbreak : Simulates I.Break I.Beside Eq passed passed := alike_passed.of_imp fun _ _ => Break.beside
  apply simulates_look
  · intro t
    split
    · refine alike_read (simulates_look (fun u => ?_) ?_)
      · split
        · exact alike_read (.pure rfl)
        · exact alike_passed.at u
      · obtain hkind | hkind := I.kind_comment <;> rw [I.newline_kind, hkind] <;> exact hbreak
    · exact alike_read (.pure rfl)
    · exact alike_read (.pure rfl)
    · exact alike_passed.at t
  · obtain ⟨body, hlexeme | hlexeme⟩ := I.lexeme_comment <;> rw [I.lexeme_newline, hlexeme] <;> exact hbreak

/-- A value that is tried, at cursors that show neither strings nor objects. -/
theorem simulates_tried {K : Cursor → Cursor → Prop} (hbeside : ∀ c c', K c c' → I.Beside c c')
    (hleft : ∀ c c', K c c' → startsText c.current.lexeme = false)
    (hright : ∀ c c', K c c' → startsText c'.current.lexeme = false) :
    Simulates K I.Beside Eq (tryCatch (some <$> expression) passOver) (tryCatch (some <$> expression) passOver) := by
  intro c c' hK
  rw [run_attempt (hleft c c' hK), run_attempt (hright c c' hK)]
  exact alike_attempt c c' (hbeside c c' hK)

theorem alike_characteristicValue : I.Alike Eq characteristicValue characteristicValue := by
  apply simulates_look
  · intro t
    split
    · exact alike_read alike_skipBracesIfAny.same
    · exact alike_skipBraces.same.at t
    · next hstring hbrace =>
      have hstarts : startsText t.lexeme = false := by
        unfold startsText
        split <;> simp_all
      exact simulates_tried (fun _ _ hat => hat.beside) (fun _ _ hat => hat.left ▸ hstarts)
        (fun _ _ hat => hat.right ▸ hstarts)
  · obtain ⟨body, hlexeme⟩ := I.lexeme_comment
    have htried : Simulates I.Break I.Beside Eq (tryCatch (some <$> expression) passOver)
        (tryCatch (some <$> expression) passOver) := by
      refine simulates_tried (fun _ _ => Break.beside) ?_ ?_
      · rintro _ _ ⟨rfl, -⟩
        show startsText I.newline.lexeme = false
        rw [I.lexeme_newline]
        rfl
      · rintro _ _ ⟨-, rfl⟩
        show startsText I.comment.lexeme = false
        obtain hlexeme | hlexeme := hlexeme <;> rw [hlexeme] <;> rfl
    obtain hlexeme | hlexeme := hlexeme <;> rw [I.lexeme_newline, hlexeme] <;> exact htried

theorem alike_characteristic (t : Token) : I.AlikeAt t Eq characteristic characteristic := by
  apply simulates_current
  refine (alike_name.at t).next fun _ => (alike_mark _).next fun _ => ?_
  exact alike_characteristicValue.same

/-! ## Figures -/

theorem alike_aggregation : I.Alike Eq aggregation aggregation := by
  refine (alike_keyword _).next fun _ => (alike_accept rfl).next fun _ => ?_
  exact (alike_plainBody GrammarBody.aggregation.consumes fun t => (alike_assignment t).same).same

theorem alike_metric (t : Token) : I.AlikeAt t Eq metric metric := by
  apply simulates_current
  refine (alike_name.at t).next fun _ => (alike_mark _).next fun _ => ?_
  exact (alike_plainBody GrammarBody.metric.consumes alike_assignment).same

theorem alike_metrics : I.Alike Eq metrics metrics :=
  (alike_keyword _).next fun _ => (alike_plainBody GrammarBody.metrics.consumes alike_metric).same

theorem alike_yearField (t : Token) : I.AlikeAt t Eq yearField yearField := by
  apply simulates_current
  refine .ite (fun _ => alike_metrics.same.at t) (fun _ => .ite (fun _ => ?_) (fun _ => simulates_unexpected _))
  exact alike_read ((alike_mark _).next fun _ => (alike_string _).same)

/-! ## Parts of links, events and outlets -/

theorem alike_linkName : I.Alike Eq linkName linkName := by
  have hname : I.Alike Eq name name := alike_name
  apply simulates_look
  · intro t
    split
    · exact alike_read (.pure rfl)
    · exact alike_name.at t
  · obtain ⟨body, hlexeme | hlexeme⟩ := I.lexeme_comment <;> rw [I.lexeme_newline, hlexeme] <;>
      exact hname.of_imp fun _ _ => Break.beside

theorem alike_specField : I.Alike Eq specField specField := by
  refine (alike_fieldName _ _).next fun field => ?_
  cases field with
  | id => exact (alike_number _).same
  | role => exact (alike_string _).same

theorem alike_outletSpec : I.Alike Eq outletSpec outletSpec := by
  have hfields : I.Alike Eq (braced isNewline (plainItem specField)) _ :=
    alike_plainBody GrammarBody.outletSpec.consumes fun t => alike_specField.at t
  apply simulates_look
  · exact fun t => hfields.same.at t
  · -- The places differ where the line ends, but no body starts there.
    have hmark : Simulates I.Break I.Beside (fun _ _ => False) (mark .openBrace) (mark .openBrace) :=
      simulates_mark_break _
    exact Simulates.bind (D := I.Beside) (hmark.bind fun _ _ => False.elim) fun _ _ => False.elim

theorem alike_entityField : I.Alike Eq entityField entityField := by
  refine (alike_fieldName _ _).next fun field => ?_
  cases field with
  | id => exact (alike_number _).same
  | role => exact (alike_string _).same
  | stakeBefore => exact (alike_number _).same
  | stakeAfter => exact (alike_number _).same

theorem alike_eventEntity (t : Token) : I.AlikeAt t Eq eventEntity eventEntity := by
  apply simulates_current
  refine (alike_name.at t).next fun _ => (alike_mark _).next fun _ => ?_
  exact (alike_braced composes_eq GrammarBody.eventEntity.consumes fun t =>
    alike_separated (alike_entityField.at t)).same

theorem alike_eventEntities : I.Alike Eq eventEntities eventEntities :=
  alike_braced composes_eq GrammarBody.eventEntities.consumes fun t => alike_separated (alike_eventEntity t)

theorem alike_templateType : I.Alike Eq templateType templateType := by
  apply simulates_look
  · intro t
    split
    · exact alike_read (.pure rfl)
    · exact Simulates.at (.pure rfl) t
  · obtain hkind | hkind := I.kind_comment <;> rw [I.newline_kind, hkind] <;>
      exact Simulates.of_imp (.pure rfl) fun _ _ => Break.beside

theorem alike_inheritance : I.Alike Eq inheritance inheritance := by
  apply simulates_look
  · intro t
    refine ((alike_accept rfl).at t).next fun _ => .ite (fun _ => ?_) (fun _ => ?_)
    · exact (alike_keyword _).next fun _ => (alike_string _).same
    · exact (alike_accept rfl).next fun _ => .ite (fun _ => (alike_number _).same) (fun _ => .pure rfl)
  · refine simulates_accept_break rfl (simulates_accept_break rfl ?_)
    exact Simulates.of_imp (.pure rfl) fun _ _ => Break.beside

theorem alike_outletLabel : I.Alike Eq outletLabel outletLabel := by
  refine (alike_accept rfl).next fun _ => .ite (fun _ => ?_) (fun _ => alike_string _)
  exact (alike_string _).next fun _ => (alike_mark _).same

end MediaLanguage.Insertion
