import MediaLanguage.Proofs.Parser.Concat
import MediaLanguage.Proofs.Parser.Reading

/-!
# Where the parts of a tree come from

Every production reads paired tokens and takes the leaves of its node from them. The one production that may leave an
opening brace without a partner is that of a characteristic (`reads_characteristic`): where its value cannot be read,
what stands there is passed over.

* `reads_statement`: a statement reads paired tokens, and its leaves are leaves of tokens.
* `Parse.sound_fromCursor`: so do the statements of a whole run, and a number stops a run only if a token carries it.
* `exists_token_of_parse` and `exists_token_of_conversion`: the leaves of a program, and the number that stops the
  reading of a text, are those of tokens of the text.
-/

namespace MediaLanguage

/-- The token behind the one at the cursor is at the cursor after a step. -/
theorem Cursor.peek_one (c : Cursor) : c.peek 1 = c.advance.current := by
  simp [peek, current, advance, List.getElem?_tail]

namespace Parser

open Ast

variable {P : Leaf → Prop} {loose : Bool} {c : Cursor}

namespace Reads

variable {β : Type} {S : β → Prop} {f : Token → Parser β}

/-- A token that is no brace is read, and the production goes on behind it. -/
theorem step (h : c.current.kind.isBrace = false) (hf : Reads P (Matched loose) S (f c.current) c.advance) :
    Reads P (Matched loose) S (advance >>= f) c := by
  intro hc
  have hfirst : Reads P (Matched loose) (fun _ => True) advance c := reads_advance h
  obtain ⟨ts, hrest, hread, -⟩ := hfirst.of_ok hc rfl
  have hnext := hf (hc.of_suffix c.reaches_advance.rest)
  show ReadOutcome P (Matched loose) S c (f c.current c.advance)
  rcases hrun : f c.current c.advance with ⟨_ | b, d⟩ <;> rw [hrun] at hnext
  · cases hnext with
    | grammar => exact .grammar
    | conversion hx he => exact .conversion hx he
  · cases hnext with
    | ok hrest' hread' h' =>
      refine .ok ?_ (hread.append hread') h'
      rw [hrest, hrest', List.append_assoc]

/-- A production that starts with a look at all tokens to read. -/
theorem lookAhead {f : Cursor → Parser β} (h : Reads P (Matched loose) S (f c) c) :
    Reads P (Matched loose) S (get >>= f) c :=
  h

/-- A production that looks at the token behind the one at the cursor. -/
theorem lookNext (h : Reads P (Matched loose) S (f (c.peek 1)) c) : Reads P (Matched loose) S (next >>= f) c :=
  h

end Reads

/-! ## Dates and expressions -/

section Expr

/-- A date. -/
theorem reads_date : Reads P (Matched loose) (fun _ => True) date c := by
  refine .look ?_
  split
  · next h => exact .advance_of_lexeme (by simp [h]) trivial
  · next h => exact .advance_of_lexeme (by simp [h]) trivial
  · exact reads_unexpected _

/-- The end of a period, if there is one. -/
theorem reads_periodEnd : Reads P (Matched loose) (fun _ => True) periodEnd c :=
  (reads_accept rfl).bind fun _ _ _ => .ite (fun _ => reads_date.map fun _ _ => trivial) (fun _ => .ret trivial)

/-- A date and perhaps the end of a period. -/
theorem reads_dateRange : Reads P (Matched loose) (fun _ => True) dateRange c :=
  reads_date.bind fun _ _ _ => reads_periodEnd.bind fun _ _ _ => .ret trivial

/-- A member of an object, if its value takes its leaves from tokens. -/
theorem reads_member {value : Parser Expr} (hvalue : ∀ d, Reads P (Matched loose) (Bears P Expr.leaves) value d) :
    Reads P (Matched loose) (Bears P Member.leaves) (member value) c := by
  refine .look (reads_name.bind fun label _ hlabel => ?_)
  refine (reads_sign rfl).bind fun _ d _ => .look (.lookNext ?_)
  split
  · next text hlexeme hkind =>
    refine .step (isBrace_of_lexeme (by simp [hlexeme])) (.step ?_ ?_)
    · rw [← d.peek_one, hkind]
      rfl
    · exact reads_date.bind fun _ _ _ => .ret (List.forall_mem_singleton.2 hlabel)
  · exact (hvalue d).bind fun _ _ hexpr => .ret (List.forall_mem_cons.2 ⟨hlabel, hexpr⟩)

/-- An object, if the values in it take their leaves from tokens. -/
theorem reads_objectOf {value : Parser Expr} (hvalue : ∀ d, Reads P (Matched false) (Bears P Expr.leaves) value d) :
    Reads P (Matched loose) (Bears P ObjectLiteral.leaves) (objectOf value) c := by
  refine .look ((reads_braced isBrace_of_isTrivia fun _ => (reads_member hvalue).separated).bind fun members _ h => ?_)
  exact .ret (List.forall_mem_flatMap.2 h)

/-- An expression of bounded depth, by induction on the bound. -/
theorem reads_expressionWithin (depth : Nat) :
    Reads P (Matched loose) (Bears P Expr.leaves) (expressionWithin depth) c := by
  induction depth generalizing loose c with
  | zero => exact reads_unexpected _
  | succ depth ih =>
    refine .look ?_
    split
    · next h =>
      refine (reads_advance ?_).bind fun _ _ _ => reads_name.bind fun label _ hlabel => ?_
      · simp [Token.kind, h, Lexeme.kind, Kind.isBrace]
      · exact .ret (List.forall_mem_singleton.2 hlabel)
    · next h => exact .advance_of_lexeme (by simp [h]) (List.forall_mem_nil _)
    · next value h =>
      refine .of_leaf (l := .number value) (by simp [Token.leaf?, h]) fun hP => ?_
      exact .advance_of_lexeme (by simp [h]) (List.forall_mem_singleton.2 hP)
    · next h => exact .advance_of_lexeme (by simp [h]) (List.forall_mem_nil _)
    · refine (reads_objectOf fun _ => ih).bind fun o _ h => .ret ?_
      rwa [Bears, ObjectLiteral.leaves_toExpr]
    · exact reads_unexpected _

/-- An expression. -/
theorem reads_expression : Reads P (Matched loose) (Bears P Expr.leaves) expression c :=
  .lookAhead (reads_expressionWithin _)

/-- An object. -/
theorem reads_object : Reads P (Matched loose) (Bears P ObjectLiteral.leaves) object c :=
  .lookAhead (reads_objectOf fun _ => reads_expressionWithin _)

/-- A name, a sign and a value. -/
theorem reads_assignment : Reads P (Matched loose) (Bears P Assignment.leaves) assignment c := by
  refine .look (reads_name.bind fun label _ hlabel => (reads_sign rfl).bind fun _ _ _ => ?_)
  exact reads_expression.bind fun value _ hvalue => .ret (List.forall_mem_cons.2 ⟨hlabel, hvalue⟩)

/-- Assignments in braces. -/
theorem reads_assignments :
    Reads P (Matched loose) (fun as => ∀ a ∈ as, Bears P Assignment.leaves a) assignments c :=
  reads_braced isBrace_of_isTrivia fun _ => reads_assignment.separated

/-- A field of a block that keeps comments. -/
theorem reads_keptField : Reads P (Matched loose) (fun fs => ∀ f ∈ fs, Bears P Field.leaves f) keptField c :=
  reads_commentedItem (fun _ => List.forall_mem_nil _) (reads_assignment.single fun _ h => h)

end Expr

/-! ## Imports, variables, units and vocabularies -/

section Declaration

/-- An import. -/
theorem reads_importFile : Reads P (Matched loose) (fun _ => True) importFile c := by
  refine (reads_keyword _).bind fun _ _ _ => (reads_string _).bind fun _ _ _ => ?_
  exact (reads_accept rfl).bind fun _ _ _ => .ret trivial

/-- A variable. -/
theorem reads_letVariable : Reads P (Matched loose) (Bears P Variable.leaves) letVariable c := by
  refine (reads_keyword _).bind fun _ _ _ => reads_name.bind fun _ _ hlabel => ?_
  refine (reads_sign rfl).bind fun _ _ _ => reads_expression.bind fun _ _ hvalue => ?_
  exact (reads_accept rfl).bind fun _ _ _ => .ret (List.forall_mem_cons.2 ⟨hlabel, hvalue⟩)

/-- The length of a text; a number that has no integer part is that of a token. -/
theorem reads_textLength : Reads P (Matched loose) (fun _ => True) textLength c := by
  refine (reads_number _).bind fun x _ hx => ?_
  split
  · exact .ret trivial
  · next e htruncate =>
    refine fun _ => .conversion hx ?_
    unfold Number.truncate at htruncate
    split at htruncate
    · cases htruncate
    · next h =>
      cases htruncate
      exact h

/-- A type. -/
theorem reads_fieldType : Reads P (Matched loose) (fun _ => True) fieldType c := by
  refine .look ?_
  split
  · next h => exact .step (by rw [h]; rfl) (.ret trivial)
  · next h =>
    refine .step (by rw [h]; rfl) ((reads_accept rfl).bind fun _ _ _ => .ite (fun _ => ?_) (fun _ => .ret trivial))
    exact reads_textLength.bind fun _ _ _ => (reads_sign rfl).bind fun _ _ _ => .ret trivial
  · next h => exact .step (by rw [h]; rfl) (.ret trivial)
  · next h => exact .step (by rw [h]; rfl) (.ret trivial)
  · next h =>
    refine .step (by rw [h]; rfl) ((reads_sign rfl).bind fun _ _ _ => ?_)
    exact (reads_commaList rfl fun _ => reads_string _).bind fun _ _ _ => .ret trivial
  · exact reads_unexpected _

/-- The words that make a column the key, if they are there. -/
theorem reads_primaryKey : Reads P (Matched loose) (fun _ => True) primaryKey c := by
  refine .look (.lookNext (.ite (fun hwords => ?_) (fun _ => .ret trivial)))
  obtain ⟨hprimary, hkey⟩ : c.current.kind = .keyword .primary ∧ (c.peek 1).kind = .keyword .key := by
    simpa using hwords
  refine .step (by rw [hprimary]; rfl) (.step ?_ (.ret trivial))
  rw [← c.peek_one, hkey]
  rfl

/-- A column. -/
theorem reads_unitField : Reads P (Matched loose) (fun f => P (.name f.name)) unitField c := by
  refine .look (reads_name.bind fun _ _ hlabel => (reads_sign rfl).bind fun _ _ _ => ?_)
  exact reads_fieldType.bind fun _ _ _ => reads_primaryKey.bind fun _ _ _ => .ret hlabel

/-- Commas, line breaks and comments are skipped. -/
theorem reads_skipCommas : Reads P (Matched loose) (fun _ => True) skipCommas c := by
  refine (reads_sees _).bind fun _ _ _ => .ite (fun _ => reads_skipWhile fun k hk => ?_) (fun _ => .ret trivial)
  obtain hcomma | htrivia := Bool.or_eq_true_iff.1 hk
  · rw [beq_iff_eq.1 hcomma]
    rfl
  · exact isBrace_of_isTrivia k htrivia

/-- An item of a block that drops annotations. -/
theorem reads_untaggedItem {α : Type} {R : α → Prop} {field : Parser α} {after : Parser Unit}
    (hfield : ∀ d, Reads P (Matched loose) R field d) (hafter : ∀ d, Reads P (Matched loose) (fun _ => True) after d) :
    Reads P (Matched loose) (fun xs => ∀ x ∈ xs, R x) (untaggedItem field after) c := by
  refine (reads_sees _).bind fun _ d _ => .ite (fun _ => ?_) (fun _ => ?_)
  · exact reads_skipTag.bind fun _ _ _ => .ret (List.forall_mem_nil _)
  · exact (hfield d).bind fun _ d h => (hafter d).bind fun _ _ _ => .ret (List.forall_mem_singleton.2 h)

/-- A unit. -/
theorem reads_unitDeclaration : Reads P (Matched loose) (Bears P UnitDeclaration.leaves) unitDeclaration c := by
  refine (reads_keyword _).bind fun _ _ _ => reads_name.bind fun _ _ hlabel => ?_
  refine (reads_braced (R := fun f => P (.name f.name)) isBrace_of_isTrivia fun _ => ?_).bind fun _ _ hfields => ?_
  · exact reads_untaggedItem (fun _ => reads_unitField) fun _ => reads_skipCommas
  · exact .ret (List.forall_mem_cons.2 ⟨hlabel, List.forall_mem_map.2 hfields⟩)

/-- One comma is skipped. -/
theorem reads_skipComma : Reads P (Matched loose) (fun _ => True) skipComma c :=
  (reads_accept rfl).bind fun _ _ _ => .ret trivial

/-- The key of an entry. -/
theorem reads_vocabularyKey : Reads P (Matched loose) (Bears P keyLeaves) vocabularyKey c := by
  refine .look ?_
  split
  · next value h =>
    refine .of_leaf (l := .number value) (by simp [Token.leaf?, h]) fun hP => ?_
    exact .advance_of_lexeme (by simp [h]) (List.forall_mem_singleton.2 hP)
  · next h => exact .advance_of_lexeme (by simp [h]) (List.forall_mem_nil _)
  · exact reads_unexpected _

/-- An entry. -/
theorem reads_vocabularyEntry :
    Reads P (Matched loose) (fun e => Bears P keyLeaves e.key) vocabularyEntry c := by
  refine .look (reads_vocabularyKey.bind fun _ _ hkey => (reads_sign rfl).bind fun _ _ _ => ?_)
  exact (reads_string _).bind fun _ _ _ => .ret hkey

/-- A body of entries. -/
theorem reads_vocabularyBody : Reads P (Matched loose) (Bears P VocabularyBody.leaves) vocabularyBody c := by
  refine .look (reads_name.bind fun _ _ hlabel => ?_)
  refine (reads_braced (R := fun e => Bears P keyLeaves e.key) isBrace_of_isTrivia fun _ => ?_).bind
    fun _ _ hentries => ?_
  · exact reads_untaggedItem (fun _ => reads_vocabularyEntry) fun _ => reads_skipComma
  · exact .ret (List.forall_mem_cons.2 ⟨hlabel, List.forall_mem_flatMap.2 hentries⟩)

/-- A vocabulary. -/
theorem reads_vocabulary : Reads P (Matched loose) (Bears P Vocabulary.leaves) vocabulary c := by
  refine (reads_keyword _).bind fun _ _ _ => reads_name.bind fun _ _ hlabel => ?_
  refine (reads_braced (R := Bears P VocabularyBody.leaves) isBrace_of_isTrivia fun _ => ?_).bind
    fun _ _ hbodies => ?_
  · exact reads_untaggedItem (fun _ => reads_vocabularyBody) fun _ => reads_skipComma
  · exact .ret (List.forall_mem_cons.2 ⟨hlabel, List.forall_mem_flatMap.2 hbodies⟩)

/-- A vocabulary that is one body. -/
theorem reads_bareVocabulary : Reads P (Matched loose) (Bears P Vocabulary.leaves) bareVocabulary c := by
  refine reads_vocabularyBody.bind fun body _ hbody => .ret ?_
  refine List.forall_mem_cons.2 ⟨hbody _ List.mem_cons_self, ?_⟩
  exact List.forall_mem_flatMap.2 (List.forall_mem_singleton.2 hbody)

end Declaration

/-! ## Blocks -/

section Block

/-- A field of an identity block. -/
theorem reads_identityField : Reads P (Matched loose) (Bears P IdentityField.leaves) identityField c := by
  refine .look (reads_name.bind fun _ _ hlabel => (reads_sign rfl).bind fun _ _ _ => ?_)
  refine (reads_accept rfl).bind fun _ _ _ => .ite (fun _ => ?_) (fun _ => ?_)
  · refine (reads_commaList rfl fun _ => reads_object).bind fun _ _ hvalues => ?_
    exact .ret (List.forall_mem_cons.2 ⟨hlabel, List.forall_mem_flatMap.2 hvalues⟩)
  · exact reads_expression.bind fun _ _ hvalue => .ret (List.forall_mem_cons.2 ⟨hlabel, hvalue⟩)

/-- An identity block. -/
theorem reads_identityBlock :
    Reads P (Matched loose) (fun b => ∀ f ∈ b.fields, Bears P IdentityField.leaves f) identityBlock c := by
  refine (reads_keyword _).bind fun _ _ _ => ?_
  refine (reads_braced isBrace_of_isNewline fun _ => ?_).bind fun _ _ hfields => .ret hfields
  exact reads_commentedItem (fun _ => List.forall_mem_nil _) (reads_identityField.single fun _ h => h)

/-- An attribute of a status. -/
theorem reads_lifecycleAttribute : Reads P (Matched loose) (Bears P Field.leaves) lifecycleAttribute c := by
  have hthen : ∀ {p : Parser Field}, Reads P (Matched loose) (Bears P Field.leaves) p c →
      Reads P (Matched loose) (Bears P Field.leaves) (do let field ← p; skipSeparators; return field) c :=
    fun hp => hp.bind fun _ _ h => reads_skipSeparators.bind fun _ _ _ => .ret h
  refine .look (.ite (fun hcomment => ?_) (fun _ => .ite (fun _ => ?_) (fun _ => ?_)))
  · exact hthen ((reads_comment hcomment).map fun _ _ => List.forall_mem_nil _)
  · exact hthen (reads_tagComment.map fun _ _ => List.forall_mem_nil _)
  · exact hthen (reads_assignment.map fun _ h => h)

/-- A status. -/
theorem reads_lifecycleEntry : Reads P (Matched loose) (Bears P LifecycleEntry.leaves) lifecycleEntry c := by
  refine (reads_keyword _).bind fun _ _ _ => (reads_string _).bind fun _ _ _ => ?_
  refine (reads_keyword _).bind fun _ _ _ => reads_date.bind fun _ _ _ => reads_periodEnd.bind fun _ _ _ => ?_
  refine (reads_braced isBrace_of_isNewline fun _ => ?_).bind fun _ _ h => .ret (List.forall_mem_flatMap.2 h)
  exact reads_lifecycleAttribute.single fun _ h => h

/-- A lifecycle block. -/
theorem reads_lifecycleBlock :
    Reads P (Matched loose) (fun b => ∀ e ∈ b.entries, Bears P LifecycleEntry.leaves e) lifecycleBlock c := by
  refine (reads_keyword _).bind fun _ _ _ => ?_
  refine (reads_braced isBrace_of_isTrivia fun _ => ?_).bind fun _ _ hentries => .ret hentries
  exact reads_untaggedItem (fun _ => reads_lifecycleEntry) fun _ => reads_skipSeparators

/-- What stands for the value of a characteristic: paired tokens, or tokens that are passed over. -/
def ValueTokens (ts : List Token) : Prop :=
  Matched true ts ∨ startsValue ts = false ∧ ∀ t ∈ ts, endsCharacteristic t.kind = false

/-- What begins with no value goes on with none. -/
theorem startsValue_of_append {ts us : List Token} (h : startsValue (ts ++ us) = false) : startsValue ts = false := by
  match ts, h with
  | [], _ => rfl
  | [t], h =>
    unfold startsValue at h ⊢
    dsimp only [List.cons_append] at h
    split at h <;> simp_all
  | t :: u :: ts, h => exact h

/-- A name that is not there: no word is at the cursor, which stays. -/
theorem run_name_error {e : Failure} {d : Cursor} (hrun : name c = (.error e, d)) :
    d = c ∧ (c.current.kind == .identifier || c.current.kind.isKeyword) = false := by
  change (if c.current.kind == .identifier || c.current.kind.isKeyword
    then (do let _ ← advance; return c.current.text : Parser String) else unexpected "identifier") c = _ at hrun
  split at hrun
  · cases hrun
  · next h =>
    cases hrun
    exact ⟨rfl, by simpa using h⟩

/-- Where an expression fails no value starts, and at most the sign of a variable has been read. -/
theorem run_expression_error {e : Failure} {d : Cursor} (hbrace : c.current.lexeme ≠ .mark .openBrace)
    (hrun : expression c = (.error e, d)) :
    startsValue c.rest = false ∧ (d = c ∨ c.current.kind = .mark .dollar ∧ d = c.advance) := by
  change expressionWithin (c.rest.length + 1) c = _ at hrun
  rw [expressionWithin, run_current_bind] at hrun
  split at hrun
  · next hlexeme =>
    have hkind : c.current.kind = .mark .dollar := by rw [Token.kind, hlexeme, Lexeme.kind]
    change continueWith _ (name c.advance) = _ at hrun
    rcases hname : name c.advance with ⟨e' | label, d'⟩ <;> rw [hname] at hrun <;> cases hrun
    obtain ⟨rfl, hword⟩ := run_name_error hname
    refine ⟨?_, .inr ⟨hkind, rfl⟩⟩
    rw [c.rest_eq_cons (by simp [hkind])]
    simp only [startsValue, hkind]
    cases hrest : c.advance.rest with
    | nil => rfl
    | cons t ts => simpa [Cursor.current, Cursor.peek, hrest] using hword
  · cases hrun
  · cases hrun
  · cases hrun
  · contradiction
  · next hdollar hstring hnumber hboolean _ =>
    cases hrun
    refine ⟨?_, .inl rfl⟩
    cases hrest : c.rest with
    | nil => rfl
    | cons t ts =>
      have hcurrent : c.current = t := by simp [Cursor.current, Cursor.peek, hrest]
      rw [hcurrent] at hdollar hstring hnumber hboolean hbrace
      unfold startsValue Token.kind
      cases hlexeme : t.lexeme with
      | mark m => cases m <;> simp_all [Lexeme.kind]
      | _ => simp_all [Lexeme.kind]

/-- What is passed over starts with no value, and ends where a characteristic ends. -/
theorem reads_passedOver (hbrace : c.current.lexeme ≠ .mark .openBrace) :
    Reads P ValueTokens (fun value => ∀ v ∈ value, Bears P Expr.leaves v)
      (tryCatch (some <$> expression) passOver) c := by
  intro hc
  have hexpression : ReadOutcome P (Matched true) _ c (expression c) := reads_expression hc
  show ReadOutcome P ValueTokens _ c (recoverWith passOver (continueWith _ (expression c)))
  rcases hrun : expression c with ⟨(e | e) | value, d⟩ <;> rw [hrun] at hexpression
  · obtain ⟨hvalue, hd⟩ := run_expression_error hbrace hrun
    show ReadOutcome P ValueTokens _ c (.ok none, d.skipWhile fun k => !endsCharacteristic k)
    let own := d.rest.takeWhile fun t => !endsCharacteristic t.kind
    have hown : d.rest = own ++ (d.skipWhile fun k => !endsCharacteristic k).rest :=
      List.takeWhile_append_dropWhile.symm
    have hends : ∀ t ∈ own, endsCharacteristic t.kind = false := by
      intro t ht
      simpa using List.mem_takeWhile_imp (p := fun t : Token => !endsCharacteristic t.kind) ht
    obtain rfl | ⟨hdollar, rfl⟩ := hd
    · refine .ok hown (.inr ⟨startsValue_of_append (hown ▸ hvalue), hends⟩) (by simp)
    · have hrest : c.rest = c.current :: own ++ (c.advance.skipWhile fun k => !endsCharacteristic k).rest := by
        rw [c.rest_eq_cons (by simp [hdollar]), hown]
        rfl
      refine .ok hrest (.inr ⟨startsValue_of_append (hrest ▸ hvalue), ?_⟩) (by simp)
      refine List.forall_mem_cons.2 ⟨?_, hends⟩
      rw [hdollar]
      rfl
  · cases hexpression with
    | conversion hx he => exact .conversion hx he
  · cases hexpression with
    | ok hrest hread h => exact .ok hrest (.inl hread) (by simpa using h)

/-- The value of a characteristic, or what is passed over in its place. -/
theorem reads_characteristicValue :
    Reads P ValueTokens (fun value => ∀ v ∈ value, Bears P Expr.leaves v) characteristicValue c := by
  refine .look ?_
  split
  · next value h =>
    refine Reads.imp ?_ (fun _ => Or.inl) (fun _ h => h)
    refine (reads_advance (isBrace_of_lexeme (by simp [h]))).bind fun _ _ _ => ?_
    exact reads_skipBracesIfAny.bind fun _ _ _ => .ret (by simp [Bears, Expr.leaves])
  · refine Reads.imp ?_ (fun _ => Or.inl) (fun _ h => h)
    exact reads_skipBraces.bind fun _ _ _ => .ret (by simp [Bears, Expr.leaves])
  · next hbrace => exact reads_passedOver hbrace

/-- A characteristic, among characteristics. -/
theorem reads_characteristic :
    Reads P (Matched true) (fun value => ∀ a ∈ value, Bears P Assignment.leaves a) characteristic c := by
  refine .look (reads_name.bind fun label _ hlabel => ?_)
  refine .bind_append ?_ (reads_mark .assign) fun _ _ _ => reads_characteristicValue.result fun value hvalue => ?_
  · rintro _ ts ⟨sign, rfl, hsign⟩ (⟨n, hts⟩ | ⟨hvalue, hends⟩)
    · exact ⟨n, .cons (by rw [hsign]; rfl) hts⟩
    · exact ⟨opens ts, .passedOver hsign hvalue hends⟩
  · cases value with
    | none => simp
    | some v => simpa [Bears, Assignment.leaves, hlabel] using hvalue

/-- A block of characteristics. -/
theorem reads_characteristicsBlock :
    Reads P (Matched loose) (fun b => ∀ f ∈ b.fields, Bears P Field.leaves f) characteristicsBlock c := by
  refine .bind_append (L := Enclosed true) ?_ (reads_expectAs (by simp) _) fun _ _ _ =>
    (reads_enclosed (R := Bears P Field.leaves) isBrace_of_isNewline fun _ => ?_).result fun _ hfields => hfields
  · rintro _ _ ⟨word, rfl, hword⟩ ⟨first, ts, last, rfl, hfirst, hlast, n, hts⟩
    exact ⟨n, .characteristics hword hfirst hlast hts⟩
  · refine reads_commentedItem (fun _ => List.forall_mem_nil _) (reads_characteristic.result fun a h => ?_)
    intro f hf
    obtain ⟨a', ha', rfl⟩ := List.mem_map.1 hf
    exact h a' (Option.mem_toList.1 ha')

/-- A block of metadata. -/
theorem reads_metadataBlock :
    Reads P (Matched loose) (fun b => ∀ f ∈ b.fields, Bears P Field.leaves f) metadataBlock c :=
  (reads_keyword _).bind fun _ _ _ =>
    (reads_braced isBrace_of_isNewline fun _ => reads_keptField).bind fun _ _ hfields => .ret hfields

/-- A block of an outlet or template. -/
theorem reads_outletBlock : Reads P (Matched loose) (Bears P Block.leaves) outletBlock c := by
  refine .look ?_
  split
  · next h => exact (reads_comment (by rw [h]; rfl)).map fun _ _ => List.forall_mem_nil _
  · next h => exact (reads_comment (by rw [h]; rfl)).map fun _ _ => List.forall_mem_nil _
  · exact reads_tagComment.map fun _ _ => List.forall_mem_nil _
  · exact reads_identityBlock.map fun _ h => List.forall_mem_flatMap.2 h
  · exact reads_lifecycleBlock.map fun _ h => List.forall_mem_flatMap.2 h
  · exact reads_characteristicsBlock.map fun _ h => List.forall_mem_flatMap.2 h
  · exact reads_metadataBlock.map fun _ h => List.forall_mem_flatMap.2 h
  · refine .lookNext (.ite (fun _ => ?_) (fun _ => reads_unexpected _))
    refine reads_identityField.bind fun _ _ h => .ret ?_
    exact List.forall_mem_flatMap.2 (List.forall_mem_singleton.2 h)

end Block

/-! ## Market data -/

section Market

/-- A level. -/
theorem reads_aggregationField : Reads P (Matched loose) (fun f => P (.name f.name)) aggregationField c :=
  reads_assignment.result fun _ h => h _ List.mem_cons_self

/-- A block of levels. -/
theorem reads_aggregation : Reads P (Matched loose) (Bears P Aggregation.leaves) aggregation c := by
  refine (reads_keyword _).bind fun _ _ _ => (reads_accept rfl).bind fun _ _ _ => ?_
  refine (reads_braced (R := fun f => P (.name f.name)) isBrace_of_isNewline fun _ => ?_).result fun _ h => ?_
  · exact reads_plainItem reads_aggregationField
  · exact List.forall_mem_map.2 h

/-- A figure. -/
theorem reads_metric : Reads P (Matched loose) (Bears P Metric.leaves) metric c := by
  refine .look (reads_name.bind fun _ _ hlabel => (reads_sign rfl).bind fun _ _ _ => ?_)
  refine (reads_braced (R := Bears P Assignment.leaves) isBrace_of_isNewline fun _ => ?_).result fun _ h => ?_
  · exact reads_plainItem reads_assignment
  · exact List.forall_mem_cons.2 ⟨hlabel, List.forall_mem_flatMap.2 h⟩

/-- A block of figures. -/
theorem reads_metrics : Reads P (Matched loose) (Bears P Metrics.leaves) metrics c := by
  refine (reads_keyword _).bind fun _ _ _ => ?_
  refine (reads_braced (R := Bears P Metric.leaves) isBrace_of_isNewline fun _ => ?_).result fun _ h => ?_
  · exact reads_plainItem reads_metric
  · exact List.forall_mem_flatMap.2 h

/-- What a year holds. -/
theorem reads_yearField : Reads P (Matched loose) (Bears P YearBlock.leaves) yearField c := by
  refine .look (.ite (fun _ => reads_metrics.map fun _ h => h) (fun _ => .ite (fun hword => ?_) (fun _ => ?_)))
  · have hkind : c.current.kind = .identifier := by simpa using (Bool.and_eq_true_iff.1 hword).1
    refine (reads_advance (by rw [hkind]; rfl)).bind fun _ _ _ => (reads_sign rfl).bind fun _ _ _ => ?_
    exact (reads_string _).bind fun _ _ _ => .ret (List.forall_mem_nil _)
  · exact reads_unexpected _

/-- A year. -/
theorem reads_year : Reads P (Matched loose) (Bears P Year.leaves) year c := by
  refine (reads_keyword _).bind fun _ _ _ => (reads_number _).bind fun _ _ hfigure => ?_
  refine (reads_braced (R := Bears P YearBlock.leaves) isBrace_of_isNewline fun _ => ?_).result fun _ h => ?_
  · exact reads_commentedItem (fun _ => List.forall_mem_nil _) (reads_yearField.single fun _ h => h)
  · exact List.forall_mem_cons.2 ⟨hfigure, List.forall_mem_flatMap.2 h⟩

/-- What the data of an outlet hold. -/
theorem reads_dataField : Reads P (Matched loose) (Bears P DataBlock.leaves) dataField c := by
  refine .look ?_
  split
  · exact reads_aggregation.map fun _ h => h
  · exact reads_year.map fun _ h => h
  · exact reads_unexpected _

/-- The data of an outlet. -/
theorem reads_data : Reads P (Matched loose) (Bears P Data.leaves) data c := by
  refine (reads_keyword _).bind fun _ _ _ => (reads_keyword _).bind fun _ _ _ => ?_
  refine (reads_number _).bind fun _ _ htarget => ?_
  refine (reads_braced (R := Bears P DataBlock.leaves) isBrace_of_isNewline fun _ => ?_).result fun _ h => ?_
  · refine reads_blockItem (fun hcomment => ?_) ?_ (reads_dataField.single fun _ h => h)
    · exact (reads_comment hcomment).single fun _ _ => List.forall_mem_nil _
    · exact reads_tag.single fun _ _ => List.forall_mem_nil _
  · exact List.forall_mem_cons.2 ⟨htarget, List.forall_mem_flatMap.2 h⟩

end Market

/-! ## Links -/

section Link

variable {α : Type} {leaves : α → List Leaf}

/-- A change that brings no leaf that does not satisfy `P`. -/
def Keeps (P : Leaf → Prop) (leaves : α → List Leaf) (f : α → α) : Prop :=
  ∀ a, Bears P leaves a → Bears P leaves (f a)

/-- Changes made one after the other. -/
theorem bears_applyAll {fs : List (α → α)} {a : α} (hfs : ∀ f ∈ fs, Keeps P leaves f) (ha : Bears P leaves a) :
    Bears P leaves (applyAll fs a) := by
  induction fs generalizing a with
  | nil => exact ha
  | cons f fs ih =>
    obtain ⟨hf, hfs⟩ := List.forall_mem_cons.1 hfs
    exact ih hfs (hf a ha)

/-- The name of a link. -/
theorem reads_linkName : Reads P (Matched loose) (fun _ => True) linkName c := by
  refine .look ?_
  split
  · next h => exact .advance_of_lexeme (by simp [h]) trivial
  · exact reads_name.imp (fun _ h => h) fun _ _ => trivial

/-- A field of a diachronic link. -/
theorem reads_diachronicField : Reads P (Matched loose) (Keeps P DiachronicLink.leaves) diachronicField c := by
  refine (reads_fieldName _ _).bind fun field _ _ => ?_
  cases field with
  | predecessor =>
    refine (reads_number _).result fun _ hid l hl => ?_
    simp_all [Bears, DiachronicLink.leaves, numberLeaves, or_imp, forall_and]
  | successor =>
    refine (reads_number _).result fun _ hid l hl => ?_
    simp_all [Bears, DiachronicLink.leaves, numberLeaves, or_imp, forall_and]
  | relationshipType => exact (reads_string _).result fun _ _ _ hl => hl
  | eventDate => exact reads_dateRange.result fun _ _ _ hl => hl
  | triggeredBy =>
    refine reads_name.result fun _ hevent l hl => ?_
    simp_all [Bears, DiachronicLink.leaves, nameLeaves, or_imp, forall_and]

/-- A diachronic link. -/
theorem reads_diachronicLink : Reads P (Matched loose) (Bears P DiachronicLink.leaves) diachronicLink c := by
  refine (reads_keyword _).bind fun _ _ _ => reads_linkName.bind fun _ _ _ => ?_
  refine (reads_braced (R := Keeps P DiachronicLink.leaves) isBrace_of_isNewline fun _ => ?_).bind
    fun _ _ hchanges => (reads_accept rfl).bind fun _ _ _ => .ret (bears_applyAll hchanges (List.forall_mem_nil _))
  refine Reads.single (reads_blockItem (fun hcomment => ?_) ?_ reads_diachronicField) fun _ h => h
  · exact (reads_comment hcomment).result fun _ _ _ hl => hl
  · exact reads_tag.result fun _ _ _ hl => hl

/-- A field of one side of a synchronous link. -/
theorem reads_specField : Reads P (Matched loose) (Keeps P OutletSpec.leaves) specField c := by
  refine (reads_fieldName _ _).bind fun field _ _ => ?_
  cases field with
  | id =>
    refine (reads_number _).result fun x hx s hs => ?_
    simp only [Bears, OutletSpec.leaves]
    split
    · exact List.forall_mem_nil _
    · exact List.forall_mem_singleton.2 hx
  | role => exact (reads_string _).result fun _ _ _ hs => hs

/-- One side of a synchronous link. -/
theorem reads_outletSpec : Reads P (Matched loose) (Bears P OutletSpec.leaves) outletSpec c := by
  refine .look ((reads_braced (R := Keeps P OutletSpec.leaves) isBrace_of_isNewline fun _ => ?_).result
    fun _ hchanges => bears_applyAll hchanges (List.forall_mem_nil _))
  exact reads_plainItem reads_specField

/-- A field of a synchronous link. -/
theorem reads_synchronousField : Reads P (Matched loose) (Keeps P SynchronousLink.leaves) synchronousField c := by
  refine (reads_fieldName _ _).bind fun field _ _ => ?_
  cases field with
  | first =>
    refine reads_outletSpec.result fun _ hside l hl => ?_
    simp_all [Bears, SynchronousLink.leaves, or_imp, forall_and]
  | second =>
    refine reads_outletSpec.result fun _ hside l hl => ?_
    simp_all [Bears, SynchronousLink.leaves, or_imp, forall_and]
  | relationshipType => exact (reads_string _).result fun _ _ _ hl => hl
  | periodStart => exact reads_date.result fun _ _ _ hl => hl
  | periodEnd => exact reads_date.result fun _ _ _ hl => hl
  | period => exact reads_dateRange.result fun _ _ _ hl => hl
  | details => exact (reads_string _).result fun _ _ _ hl => hl
  | createdBy =>
    refine reads_name.result fun _ hevent l hl => ?_
    simp_all [Bears, SynchronousLink.leaves, nameLeaves, or_imp, forall_and]

/-- A synchronous link, behind the token that starts it. -/
theorem reads_synchronousLink (h : c.current.kind.isBrace = false) :
    Reads P (Matched loose) (Bears P SynchronousLink.leaves) synchronousLink c := by
  refine (reads_advance h).bind fun _ _ _ => reads_linkName.bind fun _ _ _ => ?_
  refine (reads_braced (R := Keeps P SynchronousLink.leaves) isBrace_of_isNewline fun _ => ?_).bind
    fun _ _ hchanges => (reads_accept rfl).bind fun _ _ _ => .ret (bears_applyAll hchanges (List.forall_mem_nil _))
  refine Reads.single (reads_blockItem (fun hcomment => ?_) ?_ reads_synchronousField) fun _ h => h
  · exact (reads_comment hcomment).result fun _ _ _ hl => hl
  · exact reads_tag.result fun _ _ _ hl => hl

end Link

/-! ## Events and catalogs -/

section Event

/-- A field of an entity. -/
theorem reads_entityField : Reads P (Matched loose) (Keeps P EventEntity.leaves) entityField c := by
  refine (reads_fieldName _ _).bind fun field _ _ => ?_
  cases field with
  | id =>
    refine (reads_number _).result fun _ hid e he => ?_
    simp_all [Bears, EventEntity.leaves, numberLeaves, or_imp, forall_and]
  | role => exact (reads_string _).result fun _ _ _ he => he
  | stakeBefore =>
    refine (reads_number _).result fun _ hstake e he => ?_
    simp_all [Bears, EventEntity.leaves, numberLeaves, or_imp, forall_and]
  | stakeAfter =>
    refine (reads_number _).result fun _ hstake e he => ?_
    simp_all [Bears, EventEntity.leaves, numberLeaves, or_imp, forall_and]

/-- An entity. -/
theorem reads_eventEntity : Reads P (Matched loose) (Bears P EventEntity.leaves) eventEntity c := by
  refine .look (reads_name.bind fun _ _ hlabel => (reads_sign rfl).bind fun _ _ _ => ?_)
  refine (reads_braced (R := Keeps P EventEntity.leaves) isBrace_of_isTrivia fun _ => ?_).result
    fun _ hchanges => bears_applyAll hchanges (List.forall_mem_singleton.2 hlabel)
  exact reads_entityField.separated

/-- The entities of an event. -/
theorem reads_eventEntities :
    Reads P (Matched loose) (fun es => ∀ e ∈ es, Bears P EventEntity.leaves e) eventEntities c :=
  reads_braced isBrace_of_isTrivia fun _ => reads_eventEntity.separated

/-- A field of an event. -/
theorem reads_eventField : Reads P (Matched loose) (Keeps P Event.leaves) eventField c := by
  refine (reads_fieldName _ _).bind fun field _ _ => ?_
  cases field with
  | type => exact (reads_string _).result fun _ _ _ he => he
  | date => exact reads_date.result fun _ _ _ he => he
  | status => exact (reads_string _).result fun _ _ _ he => he
  | entities =>
    refine reads_eventEntities.result fun _ hnodes e he => ?_
    simp only [Bears, Event.leaves, List.forall_mem_cons, List.forall_mem_append, List.forall_mem_flatMap] at he ⊢
    exact ⟨he.1, ⟨hnodes, he.2.1.2⟩, he.2.2⟩
  | impact =>
    refine reads_assignments.result fun _ hnodes e he => ?_
    simp only [Bears, Event.leaves, List.forall_mem_cons, List.forall_mem_append, List.forall_mem_flatMap] at he ⊢
    exact ⟨he.1, ⟨he.2.1.1, hnodes⟩, he.2.2⟩
  | metadata =>
    refine reads_assignments.result fun _ hnodes e he => ?_
    simp only [Bears, Event.leaves, List.forall_mem_cons, List.forall_mem_append, List.forall_mem_flatMap] at he ⊢
    exact ⟨he.1, he.2.1, hnodes⟩

/-- An event. -/
theorem reads_event : Reads P (Matched loose) (Bears P Event.leaves) event c := by
  refine (reads_keyword _).bind fun _ _ _ => reads_name.bind fun _ _ hlabel => ?_
  refine (reads_braced (R := Keeps P Event.leaves) isBrace_of_isNewline fun _ => ?_).bind fun _ _ hchanges =>
    (reads_accept rfl).bind fun _ _ _ => .ret (bears_applyAll hchanges (List.forall_mem_singleton.2 hlabel))
  refine Reads.single (reads_blockItem (fun hcomment => ?_) ?_ reads_eventField) fun _ h => h
  · exact (reads_comment hcomment).result fun _ _ _ he => he
  · exact reads_tag.result fun _ _ _ he => he

/-- A field of a source. -/
theorem reads_sourceField : Reads P (Matched loose) (Bears P SourceField.leaves) sourceField c := by
  refine .look (reads_name.bind fun label _ hlabel => (reads_sees _).bind fun _ _ _ => ?_)
  refine .ite (fun _ => ?_) (fun _ => ?_)
  · refine Reads.map (R := fun a => a.name = label ∧ ∀ f ∈ a.fields, Bears P Field.leaves f) ?_ fun a ha => ?_
    · exact (reads_braced isBrace_of_isNewline fun _ => reads_keptField).result fun _ h => ⟨rfl, h⟩
    · refine List.forall_mem_cons.2 ⟨?_, List.forall_mem_flatMap.2 ha.2⟩
      rw [ha.1]
      exact hlabel
  · refine (reads_expect (by simp) rfl _).bind fun _ _ _ => ?_
    exact reads_expression.result fun _ hvalue => List.forall_mem_cons.2 ⟨hlabel, hvalue⟩

/-- A source. -/
theorem reads_source : Reads P (Matched loose) (Bears P Source.leaves) source c := by
  refine (reads_keyword _).bind fun _ _ _ => (reads_string _).bind fun _ _ _ => ?_
  refine (reads_braced (R := Bears P SourceField.leaves) isBrace_of_isNewline fun _ => ?_).result fun _ h =>
    List.forall_mem_flatMap.2 h
  refine reads_blockItem (fun hcomment => ?_) ?_ (reads_sourceField.single fun _ h => h)
  · exact (reads_comment hcomment).single fun _ _ => List.forall_mem_nil _
  · exact reads_tag.single fun _ _ => List.forall_mem_nil _

/-- A catalog. -/
theorem reads_catalog : Reads P (Matched loose) (Bears P Catalog.leaves) catalog c := by
  refine (reads_keyword _).bind fun _ _ _ => reads_name.bind fun _ _ hlabel => ?_
  refine (reads_braced (R := Bears P Source.leaves) isBrace_of_isTrivia fun _ => ?_).bind fun _ _ hsources =>
    (reads_accept rfl).bind fun _ _ _ => .ret (List.forall_mem_cons.2 ⟨hlabel, List.forall_mem_flatMap.2 hsources⟩)
  exact (reads_sees _).bind fun _ _ _ => .ite (fun _ => reads_source.separated) (fun _ => reads_unexpected _)

end Event

/-! ## Outlets, templates and families -/

section Outlet

/-- The blocks of an outlet or template. -/
theorem reads_outletBody :
    Reads P (Matched loose) (fun bs => ∀ b ∈ bs, Bears P Block.leaves b) outletBody c :=
  reads_braced isBrace_of_isDivider fun _ => reads_outletBlock.single fun _ h => h

/-- A template. -/
theorem reads_template : Reads P (Matched loose) (Bears P Template.leaves) template c := by
  have htype : ∀ d, Reads P (Matched loose) (fun _ => True) templateType d := by
    intro d
    refine .look ?_
    split
    · next h => exact (reads_advance (by rw [h]; rfl)).bind fun _ _ _ => .ret trivial
    · exact .ret trivial
  refine (reads_keyword _).bind fun _ d _ => (htype d).bind fun _ _ _ => (reads_string _).bind fun _ _ _ => ?_
  exact reads_outletBody.result fun _ h => List.forall_mem_flatMap.2 h

/-- What an outlet takes over, if anything. -/
theorem reads_inheritance :
    Reads P (Matched loose) (fun i => ∀ x ∈ i.toList, Bears P Inheritance.leaves x) inheritance c := by
  refine .look ((reads_accept rfl).bind fun _ _ _ => .ite (fun _ => ?_) (fun _ => ?_))
  · refine (reads_keyword _).bind fun _ _ _ => (reads_string _).result fun _ _ => ?_
    exact List.forall_mem_singleton.2 (List.forall_mem_nil _)
  · refine (reads_accept rfl).bind fun _ _ _ => .ite (fun _ => ?_) (fun _ => .ret (List.forall_mem_nil _))
    exact (reads_number _).result fun _ hid => List.forall_mem_singleton.2 (List.forall_mem_singleton.2 hid)

/-- An outlet. -/
theorem reads_outlet : Reads P (Matched loose) (Bears P Outlet.leaves) outlet c := by
  refine (reads_keyword _).bind fun _ _ _ => (reads_string _).bind fun _ _ _ => ?_
  refine reads_inheritance.bind fun _ _ hinherited => reads_outletBody.result fun _ hblocks => ?_
  exact List.forall_mem_append.2 ⟨List.forall_mem_flatMap.2 hinherited, List.forall_mem_flatMap.2 hblocks⟩

/-- The name of an outlet that is mentioned. -/
theorem reads_outletLabel : Reads P (Matched loose) (fun _ => True) outletLabel c := by
  refine (reads_accept rfl).bind fun _ _ _ => .ite (fun _ => ?_) (fun _ => reads_string _)
  exact (reads_string _).bind fun _ _ _ => (reads_sign rfl).bind fun _ _ _ => .ret trivial

/-- A mention of an outlet. -/
theorem reads_outletReference :
    Reads P (Matched loose) (fun r => P (.number r.outlet)) outletReference c := by
  refine (reads_keyword _).bind fun _ _ _ => (reads_number _).bind fun _ _ hid => ?_
  refine reads_outletLabel.bind fun _ _ _ => (reads_skipWhile isBrace_of_isNewline).bind fun _ _ _ => ?_
  exact reads_skipBracesIfAny.bind fun _ _ _ => .ret hid

/-- A member of a family. -/
theorem reads_familyMember : Reads P (Matched loose) (Bears P FamilyMember.leaves) familyMember c := by
  refine .look ?_
  split
  · exact reads_outlet.map fun _ h => h
  · exact reads_outletReference.map fun _ h => List.forall_mem_singleton.2 h
  · exact reads_data.map fun _ h => h
  · exact reads_diachronicLink.map fun _ h => h
  · next h => exact (reads_synchronousLink (by rw [h]; rfl)).map fun _ h => h
  · next h => exact (reads_synchronousLink (by rw [h]; rfl)).map fun _ h => h
  · next h => exact (reads_comment (by rw [h]; rfl)).map fun _ _ => List.forall_mem_nil _
  · next h => exact (reads_comment (by rw [h]; rfl)).map fun _ _ => List.forall_mem_nil _
  · exact reads_tagComment.map fun _ _ => List.forall_mem_nil _
  · exact reads_unexpected _

/-- A family, behind the token that starts it. -/
theorem reads_family (h : c.current.kind.isBrace = false) :
    Reads P (Matched loose) (Bears P Family.leaves) family c := by
  refine (reads_advance h).bind fun _ _ _ => (reads_string _).bind fun _ _ _ => ?_
  refine (reads_braced isBrace_of_isDivider fun _ => ?_).result fun _ h => List.forall_mem_flatMap.2 h
  exact reads_familyMember.single fun _ h => h

end Outlet

/-! ## Statements -/

/-- A statement. -/
theorem reads_statement : Reads P (Matched loose) (Bears P Statement.leaves) statement c := by
  refine .look ?_
  split
  case h_1 => exact reads_importFile.map fun _ _ => List.forall_mem_nil _
  case h_2 => exact reads_letVariable.map fun _ h => h
  case h_3 => exact reads_unitDeclaration.map fun _ h => h
  case h_4 => exact reads_vocabulary.map fun _ h => h
  case h_5 h => exact (reads_family (by rw [h]; rfl)).map fun _ h => h
  case h_6 => exact reads_template.map fun _ h => h
  case h_7 => exact reads_data.map fun _ h => h
  case h_8 => exact reads_event.map fun _ h => h
  case h_9 => exact reads_catalog.map fun _ h => h
  case h_10 => exact reads_diachronicLink.map fun _ h => h
  case h_11 h => exact (reads_synchronousLink (by rw [h]; rfl)).map fun _ h => h
  case h_12 h => exact (reads_synchronousLink (by rw [h]; rfl)).map fun _ h => h
  case h_13 h => exact (reads_comment (by rw [h]; rfl)).map fun _ _ => List.forall_mem_nil _
  case h_14 h => exact (reads_comment (by rw [h]; rfl)).map fun _ _ => List.forall_mem_nil _
  case h_15 => exact reads_tagComment.map fun _ _ => List.forall_mem_nil _
  case h_16 h =>
    refine .lookNext (.ite (fun _ => ?_) (fun _ => .ite (fun _ => ?_) (fun _ => reads_unexpected _)))
    · exact (reads_family (by rw [h]; rfl)).map fun _ h => h
    · exact reads_bareVocabulary.map fun _ h => h
  case h_17 => exact reads_unexpected _

end Parser

/-! ## Runs over a text -/

/-- Going on after an error moves forward. -/
theorem Cursor.reaches_synchronize (c : Cursor) : c.Reaches c.synchronize := by
  have hskip := c.reaches_advance.trans
    (c.advance.reaches_skipWhile fun k => !(k == .mark .semicolon || Parser.startsStatement k))
  unfold synchronize
  dsimp only
  split
  · exact hskip.trans (Cursor.reaches_advance _)
  · exact hskip

namespace Parse

open MediaLanguage.Parser

variable {P : Leaf → Prop}

/-- What a run over the tokens `ts` has made of them. -/
structure Sound (P : Leaf → Prop) (ts : List Token) (r : Parse) : Prop where
  leaves : ∀ s ∈ r.statements, Bears P Ast.Statement.leaves s
  /-- A number that stops the run is that of a token. -/
  stopped : ∀ e, r.stopped = some e → ∃ x, P (.number x) ∧ x.conversionError? = some e
  /-- A run without errors has read all tokens, statement by statement. -/
  matched : r.stopped = none → r.errors = [] → Matched false ts

section Rounds

variable {c d : Cursor} {gap own : List Token}

/-- A round at the end of a text. -/
theorem sound_nothing (hgap : Matched false gap) : Sound P gap (nothing c) where
  leaves := by simp [nothing]
  stopped := by simp [nothing]
  matched := fun _ _ => hgap

/-- A round that finds a statement. -/
theorem Sound.withStatement {r : Parse} {s : Ast.Statement} (h : Sound P d.rest r) (hgap : Matched false gap)
    (hown : Matched false own) (hs : Bears P Ast.Statement.leaves s) :
    Sound P (gap ++ (own ++ d.rest)) (r.withStatement s) where
  leaves := List.forall_mem_cons.2 ⟨hs, h.leaves⟩
  stopped := h.stopped
  matched := fun hstopped herrors => hgap.append (hown.append (h.matched hstopped herrors))

/-- A round that finds an error. -/
theorem Sound.withError {r : Parse} {e : GrammarError} (h : Sound P d.rest r) (ts : List Token) :
    Sound P ts (r.withError e) where
  leaves := h.leaves
  stopped := h.stopped
  matched := fun _ herrors => nomatch herrors

end Rounds

/-- A run takes the leaves of its statements from the tokens, and reads paired tokens if it finds no error. The
induction is on the tokens that are left, one round after another. -/
theorem sound_fromCursor {start : Cursor} (hstart : start.Carries P) : Sound P start.rest (fromCursor start) := by
  induction hlen : start.rest.length using Nat.strong_induction_on generalizing start with
  | _ n ih =>
    subst hlen
    have hdividers : Parser.Reads P (Matched false) (fun _ => True) (skipWhile isDivider) start :=
      reads_skipWhile isBrace_of_isDivider
    obtain ⟨gap, hrest, hgap, -⟩ := hdividers.of_ok hstart rfl
    replace hrest : start.rest = gap ++ (start.skipWhile isDivider).rest := hrest
    have hle := (start.reaches_skipWhile isDivider).length_le
    have hc := hstart.of_suffix (start.reaches_skipWhile isDivider).rest
    by_cases hempty : (start.skipWhile isDivider).rest = []
    · rw [fromCursor_of_empty hempty, hrest, hempty, List.append_nil]
      exact sound_nothing hgap
    have hstatement : ReadOutcome P (Matched false) (Bears P Ast.Statement.leaves) _ (statement _) :=
      reads_statement hc
    have hforward := statement.forward (start.skipWhile isDivider)
    rcases hrun : statement (start.skipWhile isDivider) with ⟨(e | e) | s, d⟩ <;> rw [hrun] at hstatement hforward
    · have hback := hforward.length_le
      have hsync := d.length_synchronize
      have hpos := List.length_pos_iff.2 hempty
      have hd := (hc.of_suffix hforward.rest).of_suffix d.reaches_synchronize.rest
      rw [fromCursor_of_grammar hempty hrun]
      exact (ih d.synchronize.rest.length (by dsimp only at hback; omega) hd rfl).withError _
    · rw [fromCursor_of_conversion hempty hrun]
      cases hstatement with
      | conversion hx he =>
        refine ⟨by simp, fun e' he' => ?_, nofun⟩
        cases he'
        exact ⟨_, hx, he⟩
    · have hlt := consumes_statement hempty s d hrun
      have hd := hc.of_suffix hforward.rest
      rw [fromCursor_of_statement hempty hrun, hrest]
      cases hstatement with
      | ok hown hread hs =>
        rw [hown]
        exact (ih d.rest.length (by omega) hd rfl).withStatement hgap hread hs

end Parse

section Source

variable {source : String} {s : TokenStream}

/-- A run over the tokens of a text takes from them what it finds. -/
theorem TokenStream.sound_parse (s : TokenStream) :
    Parse.Sound (fun l => ∃ t ∈ s.tokens, t.leaf? = some l) s.tokens s.parse :=
  have hcarries : (Cursor.ofStream s).Carries fun l => ∃ t ∈ s.tokens, t.leaf? = some l :=
    fun t ht _ hl => ⟨t, ht, hl⟩
  Parse.sound_fromCursor hcarries

/-- Every leaf of a program is that of a token of its text. -/
theorem exists_token_of_parse {p : Ast.Program} (hs : tokenize source = .ok s) (hp : parse source = .ok p) {l : Leaf}
    (hl : l ∈ p.leaves) : ∃ t ∈ s.tokens, t.leaf? = some l := by
  obtain ⟨t, ht, -, -, hstatements⟩ := parse_eq_ok_iff.1 hp
  obtain rfl : s = t := Except.ok.inj (hs.symm.trans ht)
  obtain ⟨statement, hmem, hl⟩ := List.mem_flatMap.1 hl
  rw [← hstatements] at hmem
  exact s.sound_parse.leaves statement hmem l hl

/-- A number that stops the reading of a text is that of a token of the text. -/
theorem exists_token_of_conversion {e : ConversionError} (hp : parse source = .error (.conversion e)) :
    ∃ s, tokenize source = .ok s ∧ ∃ t ∈ s.tokens, ∃ x, t.leaf? = some (.number x) ∧ x.conversionError? = some e := by
  unfold parse at hp
  cases hs : tokenize source with
  | error e' =>
    rw [hs] at hp
    cases hp
  | ok s =>
    rw [hs] at hp
    have hstopped : s.parse.stopped = some e := by
      change s.parse.result [] = _ at hp
      unfold Parse.result at hp
      split at hp
      · next h =>
        cases hp
        exact h
      · cases hp
      · cases hp
    obtain ⟨x, ⟨t, ht, hleaf⟩, herror⟩ := s.sound_parse.stopped e hstopped
    exact ⟨s, rfl, t, ht, x, hleaf, herror⟩

end Source

end MediaLanguage
