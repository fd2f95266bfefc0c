import MediaLanguage.Proofs.Ast.Strip
import MediaLanguage.Proofs.Parser.Reading
import MediaLanguage.Proofs.Parser.Uncommented

/-!
# Productions that keep comments

A comment that is put in front of a line break is a node of its own in the body around it, if that body keeps
comments. `drop` picks it among the comments that are left out; without these, the runs without and with the comment
give the same node (`Agree`). Links and events are read as changes, which agree if they lead from nodes that agree to
nodes that agree (`AgreeAfter`).

* `run_outletBlock_atComment` and its like: the comment is read as an item, up to the line break.
* `simulates_outletReference`: behind a mention of an outlet line breaks are skipped, but comments are not. The runs
  are parted there, unless the comment separates the mention from its body (`Severs`).
* `alike_statement`: a statement, wherever in it the comment stands.
-/

open MediaLanguage.Ast MediaLanguage.Parser

namespace MediaLanguage.Insertion

/-! ## Nodes without comments -/

section Agree

variable {α β : Type}

/-- Nodes of which `f` makes the same. -/
def Agree (f : α → β) (a b : α) : Prop :=
  f a = f b

theorem composes_filterMap (strip? : α → Option α) : Composes (Agree (List.filterMap strip?)) where
  nil := rfl
  append := by
    intro as as' bs bs' h h'
    unfold Agree at *
    rw [List.filterMap_append, List.filterMap_append, h, h']

theorem composes_map (strip : α → α) : Composes (Agree (List.map strip)) where
  nil := rfl
  append := by
    intro as as' bs bs' h h'
    unfold Agree at *
    rw [List.map_append, List.map_append, h, h']

theorem agree_single {strip? : α → Option α} {a b : α} (h : Agree strip? a b) :
    Agree (List.filterMap strip?) [a] [b] := by
  unfold Agree at *
  rw [List.filterMap_cons, List.filterMap_cons, h]

/-- Nodes that agree are wrapped, in a node that is never left out itself. -/
theorem simulates_wrap {K E : Cursor → Cursor → Prop} {strip : β → β} {strip? : α → Option α} {wrap : β → α}
    {p : Parser β} (hp : Simulates K E (Agree strip) p p) (hwrap : ∀ b, strip? (wrap b) = some (wrap (strip b))) :
    Simulates K E (Agree strip?) (wrap <$> p) (wrap <$> p) := by
  refine hp.map fun a b h => ?_
  unfold Agree at *
  rw [hwrap, hwrap, h]

/-- Changes that keep nodes the same, up to what `strip` leaves out. -/
def AgreeAfter (strip : α → α) (f g : α → α) : Prop :=
  ∀ a b, strip a = strip b → strip (f a) = strip (g b)

/-- A change that can be made behind `strip` as well. -/
theorem AgreeAfter.of_eq {strip f g : α → α} (h : ∀ a, strip (f a) = g (strip a)) : AgreeAfter strip f f := by
  intro a b hab
  rw [h, h, hab]

/-- A change of a part that `strip` keeps. -/
theorem AgreeAfter.of_comm {strip f : α → α} (h : ∀ a, strip (f a) = f (strip a)) : AgreeAfter strip f f :=
  .of_eq h

/-- Changes that are made one after the other. -/
theorem composes_changes (strip : α → α) :
    Composes fun fs gs => AgreeAfter strip (applyAll fs) (applyAll gs) where
  nil := fun _ _ h => h
  append := by
    intro fs fs' gs gs' h h' a b hab
    simp only [applyAll, List.foldl_append]
    exact h' _ _ (h a b hab)

end Agree

variable {I : Insertion} {t : Token}

section Bodies

variable {α : Type}

/-- A body that keeps comments. -/
theorem alike_keptBody (strip? : α → Option α) {keep : Comment → α} {onTag onField : Parser (List α)}
    (hconsumes : ∀ c, Consumes (blockItem (do return [keep (← Parser.comment)]) onTag onField) c)
    (hkeep : strip? (keep I.remark) = none) (htag : I.Alike Eq onTag onTag)
    (hfield : ∀ t, I.AlikeAt t (Agree (List.filterMap strip?)) onField onField) :
    I.Alike (Agree (List.filterMap strip?))
      (braced isNewline (blockItem (do return [keep (← Parser.comment)]) onTag onField))
      (braced isNewline (blockItem (do return [keep (← Parser.comment)]) onTag onField)) := by
  refine alike_braced_kept keepsComments_isNewline (composes_filterMap _) hconsumes (fun t => ?_)
    ⟨[keep I.remark], run_blockItem_atComment, by simp [Agree, hkeep]⟩
  exact alike_blockItem ((alike_comment t).result fun _ => rfl) ((htag.at t).imp_result fun _ _ => congrArg _)
    (hfield t)

/-- A body that is read as changes, with comments among them. -/
theorem alike_changes (strip : α → α) {onComment : Comment → α → α} {onTag : Tag → α → α} {field : Parser (α → α)}
    (hconsumes : ∀ c, Consumes (do return [← blockItem (do let c ← Parser.comment; return onComment c)
      (do let t ← tag; return onTag t) field]) c)
    (hremark : ∀ a, strip (onComment I.remark a) = strip a)
    (hcomment : ∀ c, AgreeAfter strip (onComment c) (onComment c)) (htag : ∀ t, AgreeAfter strip (onTag t) (onTag t))
    (hfield : I.Alike (AgreeAfter strip) field field) :
    I.Alike (fun fs gs => AgreeAfter strip (applyAll fs) (applyAll gs))
      (braced isNewline (do return [← blockItem (do let c ← Parser.comment; return onComment c)
        (do let t ← tag; return onTag t) field]))
      (braced isNewline (do return [← blockItem (do let c ← Parser.comment; return onComment c)
        (do let t ← tag; return onTag t) field])) := by
  refine alike_braced_kept keepsComments_isNewline (composes_changes strip) hconsumes (fun t => ?_)
    ⟨[onComment I.remark], ?_, ?_⟩
  · refine (alike_blockItem ?_ ?_ (hfield.at t)).bind fun f g h => .pure h
    · exact (alike_comment t).result hcomment
    · exact (alike_tag.result htag).at t
  · exact run_bind_ok.2 ⟨_, _, run_blockItem_atComment, rfl⟩
  · intro a b hab
    exact hab.trans (hremark b).symm

end Bodies

theorem alike_lifecycleAttribute (t : Token) : I.AlikeAt t Eq lifecycleAttribute lifecycleAttribute := by
  apply simulates_current
  refine .ite (fun _ => ?_) (fun _ => .ite (fun _ => ?_) (fun _ => ?_))
  · exact Simulates.next (alike_comment t).same fun _ => alike_skipSeparators.same
  · exact Simulates.next (alike_tagComment.at t).same fun _ => alike_skipSeparators.same
  · exact Simulates.next (alike_assignment t).same fun _ => alike_skipSeparators.same

/-! ## The comment as an item -/

/-- Among the attributes of a status. No separators stand at the line break behind it. -/
theorem run_lifecycleAttribute_atComment :
    lifecycleAttribute I.atComment = (.ok (.comment I.remark), I.atNewline) := by
  have hskip : I.atNewline.skipWhile isSeparator = I.atNewline := by
    simp [Cursor.skipWhile, atNewline, I.newline_kind, isSeparator]
  rw [lifecycleAttribute, run_current_bind]
  show (if I.comment.kind.isComment then _ else _ : Parser Field) I.atComment = _
  rw [I.comment_kind]
  exact run_bind_ok.2 ⟨_, _, rfl, run_bind_ok.2 ⟨(), _, rfl, hskip ▸ rfl⟩⟩

/-- Among the blocks of an outlet. -/
theorem run_outletBlock_atComment : outletBlock I.atComment = (.ok (.comment I.remark), I.atNewline) := by
  have hcurrent : I.atComment.current = I.comment := rfl
  rw [outletBlock, run_current_bind, hcurrent]
  obtain hkind | hkind := I.kind_comment <;> rw [hkind] <;> rfl

/-- Among the members of a family. -/
theorem run_familyMember_atComment : familyMember I.atComment = (.ok (.comment I.remark), I.atNewline) := by
  have hcurrent : I.atComment.current = I.comment := rfl
  rw [familyMember, run_current_bind, hcurrent]
  obtain hkind | hkind := I.kind_comment <;> rw [hkind] <;> rfl

/-- Among the statements of a text. -/
theorem run_statement_atComment : statement I.atComment = (.ok (.comment I.remark), I.atNewline) := by
  have hcurrent : I.atComment.current = I.comment := rfl
  rw [statement, run_current_bind, hcurrent]
  obtain hkind | hkind := I.kind_comment <;> rw [hkind] <;> rfl

section Strip

variable {drop : Comment → Bool} (hdrop : drop I.remark = true)

include hdrop

/-- The comment is left out. -/
theorem strip?_remark : I.remark.strip? drop = none := by
  rw [Comment.strip?, if_pos hdrop]

/-! ## Blocks -/

theorem alike_keptFields :
    I.Alike (Agree (List.filterMap (Field.strip? drop))) (braced isNewline keptField) (braced isNewline keptField) := by
  refine alike_keptBody _ GrammarBody.keptFields.consumes ?_ alike_tagComment.same fun t => ?_
  · simp [Field.strip?, strip?_remark hdrop]
  · exact (alike_assignment t).result fun _ => rfl

theorem alike_identityBlock : I.Alike (Agree (Identity.strip drop)) identityBlock identityBlock := by
  have hfields := alike_keptBody (I := I) (IdentityField.strip? drop) GrammarBody.identityBlock.consumes
    (by simp [IdentityField.strip?, strip?_remark hdrop]) alike_tagComment.same
    fun t => (alike_identityField t).result fun _ => rfl
  exact (alike_keyword _).next fun _ => hfields.bind fun _ _ h => .pure (congrArg (Identity.mk · _) h)

theorem alike_lifecycleEntry : I.Alike (Agree (LifecycleEntry.strip drop)) lifecycleEntry lifecycleEntry := by
  have hattributes : I.Alike (Agree (List.filterMap (Field.strip? drop)))
      (braced isNewline (do return [← lifecycleAttribute])) (braced isNewline (do return [← lifecycleAttribute])) := by
    refine alike_braced_kept keepsComments_isNewline (composes_filterMap _) GrammarBody.lifecycleEntry.consumes
      (fun t => (alike_lifecycleAttribute t).result fun _ => rfl) ⟨[.comment I.remark], ?_, ?_⟩
    · exact run_bind_ok.2 ⟨_, _, run_lifecycleAttribute_atComment, rfl⟩
    · simp [Agree, Field.strip?, strip?_remark hdrop]
  refine (alike_keyword _).next fun _ => (alike_string _).next fun _ => (alike_keyword _).next fun _ => ?_
  refine alike_date.next fun _ => alike_periodEnd.next fun _ => hattributes.bind fun _ _ h => ?_
  exact .pure (congrArg (LifecycleEntry.mk _ _ _ · _) h)

theorem alike_lifecycleBlock : I.Alike (Agree (Lifecycle.strip drop)) lifecycleBlock lifecycleBlock := by
  have hentries := alike_braced (I := I) (composes_map (LifecycleEntry.strip drop)) GrammarBody.lifecycleBlock.consumes
    fun t => alike_untaggedItem (composes_map _) (fun _ _ h => congrArg ([·]) h) ((alike_lifecycleEntry hdrop).at t)
      alike_skipSeparators
  exact (alike_keyword _).next fun _ => hentries.bind fun _ _ h => .pure (congrArg (Lifecycle.mk · _) h)

theorem alike_characteristicsBlock :
    I.Alike (Agree (FieldBlock.strip drop)) characteristicsBlock characteristicsBlock := by
  have hfields := alike_keptBody (I := I) (Field.strip? drop) GrammarBody.characteristicsBlock.consumes
    (by simp [Field.strip?, strip?_remark hdrop]) alike_tagComment.same
    fun t => (alike_characteristic t).result fun _ => rfl
  exact (alike_keyword _).next fun _ => hfields.bind fun _ _ h => .pure (congrArg (FieldBlock.mk · _) h)

theorem alike_metadataBlock : I.Alike (Agree (FieldBlock.strip drop)) metadataBlock metadataBlock :=
  (alike_keyword _).next fun _ => (alike_keptFields hdrop).bind fun _ _ h => .pure (congrArg (FieldBlock.mk · _) h)

theorem alike_outletBlock (t : Token) : I.AlikeAt t (Agree (Block.strip? drop)) outletBlock outletBlock := by
  apply simulates_current
  split
  · exact (alike_comment t).result fun _ => rfl
  · exact (alike_comment t).result fun _ => rfl
  · exact (alike_tagComment.at t).result fun _ => rfl
  · exact simulates_wrap ((alike_identityBlock hdrop).at t) fun _ => rfl
  · exact simulates_wrap ((alike_lifecycleBlock hdrop).at t) fun _ => rfl
  · exact simulates_wrap ((alike_characteristicsBlock hdrop).at t) fun _ => rfl
  · exact simulates_wrap ((alike_metadataBlock hdrop).at t) fun _ => rfl
  · refine simulates_next (fun u => .ite (fun _ => ?_) (fun _ => simulates_unexpected _)) ?_
    · exact Simulates.result ((alike_identityField t).of_imp fun _ _ hboth => hboth.1) fun _ => rfl
    · rw [beq_false_of_ne (I.kind_newline_ne rfl), Bool.and_false]
      exact simulates_unexpected _

theorem alike_outletBody : I.Alike (Agree (List.filterMap (Block.strip? drop))) outletBody outletBody := by
  refine alike_braced_kept keepsComments_isDivider (composes_filterMap _) GrammarBody.outletBody.consumes
    (fun t => (alike_outletBlock hdrop t).bind fun _ _ h => .pure (agree_single h)) ⟨[.comment I.remark], ?_, ?_⟩
  · exact run_bind_ok.2 ⟨_, _, run_outletBlock_atComment, rfl⟩
  · simp [Agree, Block.strip?, strip?_remark hdrop]

theorem alike_template : I.Alike (Agree (Template.strip drop)) template template := by
  refine (alike_keyword _).next fun _ => alike_templateType.next fun _ => (alike_string _).next fun _ => ?_
  exact (alike_outletBody hdrop).bind fun _ _ h => .pure (congrArg (Template.mk _ _ · _) h)

theorem alike_outlet : I.Alike (Agree (Outlet.strip drop)) outlet outlet := by
  refine (alike_keyword _).next fun _ => (alike_string _).next fun _ => alike_inheritance.next fun _ => ?_
  exact (alike_outletBody hdrop).bind fun _ _ h => .pure (congrArg (Outlet.mk _ _ · _) h)

/-! ## Market data -/

theorem alike_year : I.Alike (Agree (Year.strip drop)) year year := by
  have hblocks := alike_keptBody (I := I) (YearBlock.strip? drop) GrammarBody.year.consumes
    (by simp [YearBlock.strip?, strip?_remark hdrop]) alike_tagComment.same
    fun t => (alike_yearField t).result fun _ => rfl
  refine (alike_keyword _).next fun _ => (alike_number _).next fun _ => hblocks.bind fun _ _ h => ?_
  exact .pure (congrArg (Year.mk _ · _) h)

theorem alike_dataField (t : Token) : I.AlikeAt t (Agree (DataBlock.strip? drop)) dataField dataField := by
  apply simulates_current
  split
  · exact (alike_aggregation.at t).result fun _ => rfl
  · exact simulates_wrap ((alike_year hdrop).at t) fun _ => rfl
  · exact simulates_unexpected _

theorem alike_data : I.Alike (Agree (Data.strip drop)) data data := by
  have hblocks := alike_keptBody (I := I) (DataBlock.strip? drop) GrammarBody.data.consumes
    (by simp [DataBlock.strip?, strip?_remark hdrop]) alike_tag.same
    fun t => (alike_dataField hdrop t).bind fun _ _ h => .pure (agree_single h)
  refine (alike_keyword _).next fun _ => (alike_keyword _).next fun _ => (alike_number _).next fun _ => ?_
  exact hblocks.bind fun _ _ h => .pure (congrArg (Data.mk _ · _) h)

/-! ## Links and events -/

theorem alike_diachronicLink : I.Alike (Agree (DiachronicLink.strip drop)) diachronicLink diachronicLink := by
  have hfield : I.Alike (AgreeAfter (DiachronicLink.strip drop)) diachronicField diachronicField := by
    refine (alike_fieldName _ _).next fun field => ?_
    cases field with
    | predecessor => exact (alike_number _).result fun _ => .of_comm fun _ => rfl
    | successor => exact (alike_number _).result fun _ => .of_comm fun _ => rfl
    | relationshipType => exact (alike_string _).result fun _ => .of_comm fun _ => rfl
    | eventDate => exact alike_dateRange.result fun _ => .of_comm fun _ => rfl
    | triggeredBy => exact alike_name.result fun _ => .of_comm fun _ => rfl
  have hcomment : ∀ c : Comment, AgreeAfter (DiachronicLink.strip drop)
      (fun l => { l with comments := l.comments ++ [c] }) (fun l => { l with comments := l.comments ++ [c] }) :=
    fun c => .of_eq (g := fun l => { l with comments := l.comments ++ [c].filterMap (Comment.strip? drop) })
      fun l => by simp [DiachronicLink.strip]
  have hchanges := alike_changes (I := I) _ GrammarBody.diachronicLink.consumes
    (by simp [DiachronicLink.strip, strip?_remark hdrop]) hcomment (fun _ => .of_comm fun _ => rfl) hfield
  refine (alike_keyword _).next fun _ => alike_linkName.next fun _ => hchanges.bind fun _ _ h => ?_
  exact (alike_accept rfl).result fun _ => h _ _ rfl

theorem alike_synchronousLink (t : Token) :
    I.AlikeAt t (Agree (SynchronousLink.strip drop)) synchronousLink synchronousLink := by
  have hfield : I.Alike (AgreeAfter (SynchronousLink.strip drop)) synchronousField synchronousField := by
    refine (alike_fieldName _ _).next fun field => ?_
    cases field with
    | first => exact alike_outletSpec.result fun _ => .of_comm fun _ => rfl
    | second => exact alike_outletSpec.result fun _ => .of_comm fun _ => rfl
    | relationshipType => exact (alike_string _).result fun _ => .of_comm fun _ => rfl
    | periodStart => exact alike_date.result fun _ => .of_comm fun _ => rfl
    | periodEnd => exact alike_date.result fun _ => .of_comm fun _ => rfl
    | period => exact alike_dateRange.result fun _ => .of_comm fun _ => rfl
    | details => exact (alike_string _).result fun _ => .of_comm fun _ => rfl
    | createdBy => exact alike_name.result fun _ => .of_comm fun _ => rfl
  have hcomment : ∀ c : Comment, AgreeAfter (SynchronousLink.strip drop)
      (fun l => { l with comments := l.comments ++ [c] }) (fun l => { l with comments := l.comments ++ [c] }) :=
    fun c => .of_eq (g := fun l => { l with comments := l.comments ++ [c].filterMap (Comment.strip? drop) })
      fun l => by simp [SynchronousLink.strip]
  have hchanges := alike_changes (I := I) _ GrammarBody.synchronousLink.consumes
    (by simp [SynchronousLink.strip, strip?_remark hdrop]) hcomment (fun _ => .of_comm fun _ => rfl) hfield
  refine alike_read (alike_linkName.next fun _ => hchanges.bind fun _ _ h => ?_)
  exact (alike_accept rfl).result fun _ => h _ _ rfl

theorem alike_event : I.Alike (Agree (Event.strip drop)) event event := by
  have hfield : I.Alike (AgreeAfter (Event.strip drop)) eventField eventField := by
    refine (alike_fieldName _ _).next fun field => ?_
    cases field with
    | type => exact (alike_string _).result fun _ => .of_comm fun _ => rfl
    | date => exact alike_date.result fun _ => .of_comm fun _ => rfl
    | status => exact (alike_string _).result fun _ => .of_comm fun _ => rfl
    | entities => exact alike_eventEntities.result fun _ => .of_comm fun _ => rfl
    | impact => exact alike_assignments.result fun _ => .of_comm fun _ => rfl
    | metadata => exact alike_assignments.result fun _ => .of_comm fun _ => rfl
  have hcomment : ∀ c : Comment, AgreeAfter (Event.strip drop)
      (fun e => { e with comments := e.comments ++ [c] }) (fun e => { e with comments := e.comments ++ [c] }) :=
    fun c => .of_eq (g := fun e => { e with comments := e.comments ++ [c].filterMap (Comment.strip? drop) })
      fun e => by simp [Event.strip]
  have hchanges := alike_changes (I := I) _ GrammarBody.event.consumes
    (by simp [Event.strip, strip?_remark hdrop]) hcomment (fun _ => .of_comm fun _ => rfl) hfield
  refine (alike_keyword _).next fun _ => alike_name.next fun _ => hchanges.bind fun _ _ h => ?_
  exact (alike_accept rfl).result fun _ => h _ _ rfl

/-! ## Catalogs -/

theorem alike_sourceField (t : Token) : I.AlikeAt t (Agree (SourceField.strip? drop)) sourceField sourceField := by
  apply simulates_current
  refine (alike_name.at t).next fun label => ?_
  have hvalue : I.Alike (Agree (SourceField.strip? drop)) (do
      let _ ← expectAs (.mark .assign) "'=' or '\x7b'"
      return .assignment { name := label, value := ← expression, position := t.position }) (do
      let _ ← expectAs (.mark .assign) "'=' or '\x7b'"
      return .assignment { name := label, value := ← expression, position := t.position }) :=
    (alike_expectAs rfl _).next fun _ => alike_expression.result fun _ => rfl
  refine simulates_split (fun u => simulates_sees (.ite (fun _ => ?_) (fun _ => hvalue.at u)))
    (simulates_sees_break rfl (hvalue.of_imp fun _ _ => Break.beside))
  have hnested : I.Alike (Agree (NestedAssignment.strip drop)) (nestedAssignment label t.position)
      (nestedAssignment label t.position) :=
    (alike_keptFields hdrop).bind fun _ _ h => .pure (congrArg (NestedAssignment.mk _ · _) h)
  exact simulates_wrap (hnested.at u) fun _ => rfl

theorem alike_source : I.Alike (Agree (Source.strip drop)) source source := by
  have hfields := alike_keptBody (I := I) (SourceField.strip? drop) GrammarBody.source.consumes
    (by simp [SourceField.strip?, strip?_remark hdrop]) alike_tag.same
    fun t => (alike_sourceField hdrop t).bind fun _ _ h => .pure (agree_single h)
  refine (alike_keyword _).next fun _ => (alike_string _).next fun _ => hfields.bind fun _ _ h => ?_
  exact .pure (congrArg (Source.mk _ · _) h)

theorem alike_catalog : I.Alike (Agree (Catalog.strip drop)) catalog catalog := by
  have hsources := alike_braced (I := I) (composes_map (Source.strip drop)) GrammarBody.catalog.consumes fun t =>
    simulates_sees (.ite (fun _ => ((alike_source hdrop).at t).bind fun _ _ h =>
      alike_skipSeparators.result fun _ => congrArg ([·]) h) (fun _ => simulates_unexpected _))
  refine (alike_keyword _).next fun _ => alike_name.next fun _ => hsources.bind fun _ _ h => ?_
  exact (alike_accept rfl).result fun _ => congrArg (Catalog.mk _ · _) h

end Strip

/-! ## Mentions of outlets -/

/-- What a mention of an outlet may look like in front of its body. -/
def mentionForms : List (List Kind) :=
  [[.keyword .outletRef, .number, .string],
   [.keyword .outletRef, .number, .mark .openBracket, .string, .mark .closeBracket]]

/-- The comment stands between a mention of an outlet and an opening brace, with line breaks around it at most. -/
def Severs (I : Insertion) : Prop :=
  (∃ form ∈ mentionForms, form <:+ (I.before.map Token.kind).rdropWhile isNewline) ∧
    ((I.after.map Token.kind).dropWhile isNewline).head? = some (.mark .openBrace)

instance (I : Insertion) : Decidable I.Severs :=
  inferInstanceAs (Decidable (_ ∧ _))

/-- A mention of an outlet without its body. -/
def mention : Parser OutletReference := do
  let start ← keyword .outletRef
  let id ← number "outlet id"
  let label ← outletLabel
  return { outlet := id, name := label, position := start.position }

/-- A mention and its body. -/
theorem run_outletReference (c : Cursor) :
    outletReference c = (do let r ← mention; skipWhile isNewline; skipBracesIfAny; return r) c := by
  have hassoc : ∀ {α β γ : Type} (p : Parser α) (f : α → Parser β) (g : β → Parser γ) (c : Cursor),
      (p >>= fun a => f a >>= g) c = ((p >>= f) >>= g) c := by
    intro α β γ p f g c
    show continueWith _ (p c) = continueWith g (continueWith f (p c))
    rcases p c with ⟨_ | a, d⟩ <;> rfl
  rw [mention, ← hassoc]
  refine run_bind_congr fun start d _ => ?_
  rw [← hassoc]
  refine run_bind_congr fun id d _ => ?_
  rw [← hassoc]
  rfl

theorem alike_mention : I.Alike Eq mention mention :=
  (alike_keyword _).next fun _ => (alike_number _).next fun _ => alike_outletLabel.same

section Read

variable {c d : Cursor} {expected : String}

/-- A keyword or mark that is asked for is the one token that is read. -/
theorem read_expectAs {kind : Kind} {t : Token} (hkind : kind ≠ .endOfInput)
    (h : expectAs kind expected c = (.ok t, d)) : ∃ u, c.rest = u :: d.rest ∧ u.kind = kind := by
  obtain ⟨_, hrest, ⟨u, rfl, hu⟩, -⟩ :=
    (reads_expectAs (P := fun _ => True) hkind expected).of_ok (fun _ _ _ _ => trivial) h
  exact ⟨u, hrest, hu⟩

/-- A string literal is one token. -/
theorem read_string {value : String} (h : string expected c = (.ok value, d)) :
    ∃ u, c.rest = u :: d.rest ∧ u.kind = .string := by
  rw [string, run_current_bind] at h
  split at h
  · next hlexeme =>
    have hkind : c.current.kind = .string := congrArg Lexeme.kind hlexeme
    cases h
    exact ⟨c.current, c.rest_eq_cons (by simp [hkind]), hkind⟩
  · cases h

/-- A number is one token. -/
theorem read_number {value : Number} (h : number expected c = (.ok value, d)) :
    ∃ u, c.rest = u :: d.rest ∧ u.kind = .number := by
  rw [number, run_current_bind] at h
  split at h
  · next hlexeme =>
    have hkind : c.current.kind = .number := congrArg Lexeme.kind hlexeme
    cases h
    exact ⟨c.current, c.rest_eq_cons (by simp [hkind]), hkind⟩
  · cases h

theorem read_outletLabel {label : String} (h : outletLabel c = (.ok label, d)) :
    ∃ ts, c.rest = ts ++ d.rest ∧
      ts.map Token.kind ∈ [[.string], [.mark .openBracket, .string, .mark .closeBracket]] := by
  rw [outletLabel, run_accept_bind] at h
  split at h
  · next hopen =>
    have hkind : c.current.kind = .mark .openBracket := beq_iff_eq.1 hopen
    obtain ⟨value, e, hstring, hrest⟩ := run_bind_ok.1 h
    obtain ⟨closing, _, hclose, ⟨⟩⟩ := run_bind_ok.1 hrest
    obtain ⟨u, hu, hukind⟩ := read_string hstring
    obtain ⟨v, hv, hvkind⟩ := read_expectAs (by simp) hclose
    refine ⟨[c.current, u, v], ?_, by simp [hkind, hukind, hvkind]⟩
    rw [c.rest_eq_cons (by simp [hkind]), hu, hv]
    rfl
  · obtain ⟨u, hu, hukind⟩ := read_string h
    exact ⟨[u], hu, by simp [hukind]⟩

/-- A mention is one of the forms. -/
theorem read_mention {r : OutletReference} (h : mention c = (.ok r, d)) :
    ∃ ts, c.rest = ts ++ d.rest ∧ ts.map Token.kind ∈ mentionForms := by
  obtain ⟨start, e, hstart, h⟩ := run_bind_ok.1 h
  obtain ⟨id, e', hid, h⟩ := run_bind_ok.1 h
  obtain ⟨label, _, hlabel, ⟨⟩⟩ := run_bind_ok.1 h
  obtain ⟨u, hu, hukind⟩ := read_expectAs (by simp) hstart
  obtain ⟨v, hv, hvkind⟩ := read_number hid
  obtain ⟨ts, hts, hkinds⟩ := read_outletLabel hlabel
  refine ⟨u :: v :: ts, ?_, ?_⟩
  · rw [hu, hv, hts]
    rfl
  · rw [List.map_cons, List.map_cons, hukind, hvkind]
    simpa [mentionForms] using hkinds

end Read

/-- A mention that the comment and the line breaks around it separate from a body. -/
theorem severs_of_mention {own ts : List Token} (hbefore : ts ++ own <:+ I.before)
    (hts : ts.map Token.kind ∈ mentionForms) (hown : ∀ t ∈ own, isNewline t.kind = true)
    (hbody : (I.atNewline.skipWhile isNewline).current.kind = .mark .openBrace) : I.Severs := by
  refine ⟨⟨ts.map Token.kind, hts, ?_⟩, ?_⟩
  · obtain ⟨front, hfront⟩ := hbefore
    have hlines : ∀ k ∈ (own.map Token.kind).reverse, isNewline k = true := by simpa using hown
    have hlast : ((front ++ ts).map Token.kind).rdropWhile isNewline = (front ++ ts).map Token.kind := by
      rw [List.rdropWhile_eq_self_iff]
      intro hne
      simp only [mentionForms, List.mem_cons, List.not_mem_nil, or_false] at hts
      obtain hts | hts := hts <;> simp [hts, isNewline]
    rw [← hfront, ← List.append_assoc, List.map_append, List.rdropWhile, List.reverse_append,
      List.dropWhile_append_of_pos hlines, ← List.rdropWhile, hlast, List.map_append]
    exact List.suffix_append _ _
  · have hskip : (I.atNewline.skipWhile isNewline).rest = I.after.dropWhile fun t => isNewline t.kind := by
      simp [Cursor.skipWhile, atNewline, I.newline_kind, isNewline]
    rw [List.dropWhile_map, List.head?_map]
    cases hafter : I.after.dropWhile fun t => isNewline t.kind with
    | nil =>
      rw [hafter] at hskip
      simp [Cursor.current, Cursor.peek, hskip, Token.finish, Token.kind, Lexeme.kind] at hbody
    | cons t ts =>
      have hcurrent : (I.atNewline.skipWhile isNewline).current = t := by
        simp [Cursor.current, Cursor.peek, hskip, hafter]
      rw [hcurrent] at hbody
      simpa [Function.comp_def, hafter] using hbody

/-- Tokens that the first run has read in front of the comment. -/
theorem Beside.suffix_before {c c' : Cursor} {own ts : List Token} (h : I.Beside c c') (hne : c ≠ c')
    (hrest : c.rest = ts ++ (own ++ I.newline :: I.after)) : ts ++ own <:+ I.before := by
  cases h with
  | behind c => exact absurd rfl hne
  | front own' hown' =>
    have hown : own' = ts ++ own := by
      rw [← List.append_assoc] at hrest
      exact List.append_cancel_right hrest
    rwa [← hown]

/-- Line breaks and a body that is not there. -/
theorem run_noBody {c : Cursor} (h : (c.skipWhile isNewline).current.kind ≠ .mark .openBrace) (r : OutletReference) :
    (do skipWhile isNewline; skipBracesIfAny; return r : Parser OutletReference) c =
      (.ok r, c.skipWhile isNewline) := by
  have hnone : skipBracesIfAny (c.skipWhile isNewline) = (.ok (), c.skipWhile isNewline) := by
    show (if (c.skipWhile isNewline).current.kind == .mark .openBrace || false then skipBraces else return () :
      Parser Unit) (c.skipWhile isNewline) = _
    rw [beq_false_of_ne h]
    rfl
  exact run_bind_ok.2 ⟨(), _, rfl, run_bind_ok.2 ⟨(), _, hnone, rfl⟩⟩

/-- A mention of an outlet, if the comment does not separate it from its body. Where it has none, the first run has
passed the line break behind it, and the second is at the comment. -/
theorem simulates_outletReference (hbody : ¬I.Severs) :
    Simulates (I.At t) (I.Near isDivider) Eq outletReference outletReference := by
  intro c c' hat r e hrun
  rw [run_outletReference] at hrun ⊢
  obtain ⟨r, d, hmention, hrest⟩ := run_bind_ok.1 hrun
  obtain ⟨_, d', hmention', rfl, hbeside⟩ := alike_mention c c' hat.beside r d hmention
  obtain ⟨u, hu⟩ | ⟨own, hown, rfl, rfl⟩ := hbeside.skip_split isNewline
  · have htail : I.Alike Eq (do skipBracesIfAny; return r) (do skipBracesIfAny; return r) := alike_skipBracesIfAny.same
    obtain ⟨b, e', hrun', hb, hbeside'⟩ := htail _ _ hu.beside _ e hrest
    exact ⟨b, e', run_bind_ok.2 ⟨r, d', hmention', hrun'⟩, hb, .inl hbeside'⟩
  · obtain ⟨ts, hts, hkinds⟩ := read_mention hmention
    have hne : c ≠ c' := by
      rintro rfl
      have hsame := congrArg (fun run => run.2.rest.length) (hmention.symm.trans hmention')
      simp at hsame
    obtain ⟨hpassed, hstopped⟩ := parted_of_skipped (I := I) keepsComments_isNewline hown
    have hnobody : (I.atNewline.skipWhile isNewline).current.kind ≠ .mark .openBrace :=
      fun h => hbody (severs_of_mention (hat.beside.suffix_before hne hts) hkinds hown h)
    rw [run_noBody (hpassed ▸ hnobody)] at hrest
    cases hrest
    refine ⟨r, I.atComment, run_bind_ok.2 ⟨r, _, hmention', ?_⟩, rfl, .inr ⟨?_, rfl⟩⟩
    · rw [run_noBody (hstopped ▸ I.kind_comment_ne rfl), hstopped]
    · rw [hpassed]
      exact Cursor.skipWhile_skipWhile (fun k hk => by simp [isDivider, beq_iff_eq.1 hk]) _

/-! ## Families and statements -/

section Strip

variable {drop : Comment → Bool} (hdrop : drop I.remark = true)

include hdrop

theorem simulates_familyMember (hbody : ¬I.Severs) (t : Token) :
    Simulates (I.At t) (I.Near isDivider) (Agree (FamilyMember.strip? drop)) familyMember familyMember := by
  have hnear : ∀ c c', I.Beside c c' → I.Near isDivider c c' := fun _ _ => .inl
  apply simulates_current
  split
  · exact (simulates_wrap ((alike_outlet hdrop).at t) fun _ => rfl).imp hnear
  · exact (simulates_outletReference hbody).result fun _ => rfl
  · exact (simulates_wrap ((alike_data hdrop).at t) fun _ => rfl).imp hnear
  · exact (simulates_wrap ((alike_diachronicLink hdrop).at t) fun _ => rfl).imp hnear
  · exact (simulates_wrap (alike_synchronousLink hdrop t) fun _ => rfl).imp hnear
  · exact (simulates_wrap (alike_synchronousLink hdrop t) fun _ => rfl).imp hnear
  · exact Simulates.result ((alike_comment t).imp hnear) fun _ => rfl
  · exact Simulates.result ((alike_comment t).imp hnear) fun _ => rfl
  · exact Simulates.result ((alike_tagComment.at t).imp hnear) fun _ => rfl
  · exact simulates_unexpected _

theorem alike_family (hbody : ¬I.Severs) (t : Token) : I.AlikeAt t (Agree (Family.strip drop)) family family := by
  have hmembers := alike_braced_near (I := I) keepsComments_isDivider (composes_filterMap (FamilyMember.strip? drop))
    GrammarBody.family.consumes
    (fun t => (simulates_familyMember hdrop hbody t).bind fun _ _ h => .pure (agree_single h))
    ⟨[.comment I.remark], run_bind_ok.2 ⟨_, _, run_familyMember_atComment, rfl⟩,
      by simp [Agree, FamilyMember.strip?, strip?_remark hdrop]⟩
  refine alike_read ((alike_string _).next fun _ => hmembers.bind fun _ _ h => ?_)
  exact .pure (congrArg (Family.mk _ · _) h)

theorem alike_statement (hbody : ¬I.Severs) (t : Token) :
    I.AlikeAt t (Agree (Statement.strip? drop)) statement statement := by
  apply simulates_current
  split
  · exact (alike_importFile.at t).result fun _ => rfl
  · exact (alike_letVariable.at t).result fun _ => rfl
  · exact (alike_unitDeclaration.at t).result fun _ => rfl
  · exact (alike_vocabulary.at t).result fun _ => rfl
  · exact simulates_wrap (alike_family hdrop hbody t) fun _ => rfl
  · exact simulates_wrap ((alike_template hdrop).at t) fun _ => rfl
  · exact simulates_wrap ((alike_data hdrop).at t) fun _ => rfl
  · exact simulates_wrap ((alike_event hdrop).at t) fun _ => rfl
  · exact simulates_wrap ((alike_catalog hdrop).at t) fun _ => rfl
  · exact simulates_wrap ((alike_diachronicLink hdrop).at t) fun _ => rfl
  · exact simulates_wrap (alike_synchronousLink hdrop t) fun _ => rfl
  · exact simulates_wrap (alike_synchronousLink hdrop t) fun _ => rfl
  · exact (alike_comment t).result fun _ => rfl
  · exact (alike_comment t).result fun _ => rfl
  · exact (alike_tagComment.at t).result fun _ => rfl
  · refine simulates_next (fun u => .ite (fun _ => ?_) (fun _ => .ite (fun _ => ?_) (fun _ => ?_))) ?_
    · exact (simulates_wrap (alike_family hdrop hbody t) fun _ => rfl).of_imp fun _ _ hboth => hboth.1
    · have hbody : I.AlikeAt t Eq bareVocabulary bareVocabulary := (alike_vocabularyBody t).same
      exact Simulates.result (hbody.of_imp fun _ _ hboth => hboth.1) fun _ => rfl
    · exact simulates_unexpected _
    · have hstring : (I.newline.kind == .string) = false := beq_false_of_ne (I.kind_newline_ne rfl)
      have hbrace : (I.newline.kind == .mark .openBrace) = false := beq_false_of_ne (I.kind_newline_ne rfl)
      simp only [hstring, hbrace, Bool.and_false, Bool.false_eq_true, ↓reduceIte]
      exact simulates_unexpected _
  · exact simulates_unexpected _

end Strip

end MediaLanguage.Insertion
