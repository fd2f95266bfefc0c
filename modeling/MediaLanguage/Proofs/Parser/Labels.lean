import MediaLanguage.Proofs.Parser.Calls

/-!
# Texts that are literals or names

Most texts of a tree are always read from a string or always from a word. The name of a link and the level of market
data can be either: a `Label` is such a text with the place of the token that tells. `Statement.labels` lists them.

* `takes_statement`: a label is the text of the literal at that token, unless a name starts there.
* `Parse.labels_fromCursor`: this holds of all labels of a run.
-/

namespace MediaLanguage

open Ast

/-- A text of a tree that is a literal or a name. The token that tells which stands some tokens behind the node. -/
structure Label where
  place : Position
  distance : Nat
  text : String

/-! ## Labels of a tree -/

namespace Ast

/-- The name of a link, which stands behind its keyword. -/
def Link.label : Link → Label
  | .diachronic l => ⟨l.position, 1, l.name⟩
  | .synchronous l => ⟨l.position, 1, l.name⟩

/-- A level, which stands behind its name and a sign. -/
def AggregationField.label (f : AggregationField) : Label :=
  ⟨f.position, 2, f.value⟩

/-- The labels of a block of data. -/
def DataBlock.labels : DataBlock → List Label
  | .aggregation a => a.fields.map AggregationField.label
  | _ => []

/-- The labels of the data of an outlet. -/
def Data.labels (d : Data) : List Label :=
  d.blocks.flatMap DataBlock.labels

/-- The labels of a member of a family. -/
def FamilyMember.labels : FamilyMember → List Label
  | .data d => d.labels
  | .link l => [l.label]
  | _ => []

/-- The labels of a statement. -/
def Statement.labels : Statement → List Label
  | .family f => f.members.flatMap FamilyMember.labels
  | .data d => d.labels
  | .link l => [l.label]
  | _ => []

end Ast

/-! ## Labels and tokens -/

/-- Whether a name starts at a token of the kind: a word, or the sign of a variable. -/
def Kind.startsName : Kind → Bool
  | .identifier | .keyword _ | .mark .dollar => true
  | _ => false

/-- The text of a literal; objects have one text in common. -/
def Lexeme.literalText : Lexeme → String
  | .string value => value
  | .number value => value.general
  | .boolean value => if value then "true" else "false"
  | _ => Parser.objectPlaceholder

/-- The token that tells whether a label is a name. -/
def TokenStream.teller? (s : TokenStream) (l : Label) : Option Token :=
  s.withEnd[s.indexAt l.place + l.distance]?

/-- A label that is the text of a literal, unless it is a name. -/
def Label.WrittenIn (s : TokenStream) (l : Label) : Prop :=
  ∃ t, s.teller? l = some t ∧ (t.kind.startsName ∨ l.text = t.lexeme.literalText)

/-- A label of a node that stands at a token. -/
theorem Label.writtenIn_of_stands {s : TokenStream} (hs : Ascends .start s.withEnd) {i : Nat} {l : Label} {t : Token}
    (hplace : s.Stands i l.place) (ht : s.withEnd[i + l.distance]? = some t)
    (htext : t.kind.startsName ∨ l.text = t.lexeme.literalText) : l.WrittenIn s := by
  refine ⟨t, ?_, htext⟩
  rw [TokenStream.teller?, hplace.indexAt_eq hs]
  exact ht

namespace Parser

variable {α β : Type} {s : TokenStream} {c : Cursor}

/-- Lists of which all elements have a property join. -/
theorem joins_forall (P : α → Prop) : Joins fun _ _ as => ∀ a ∈ as, P a where
  nil _ := List.forall_mem_nil _
  append h h' := List.forall_mem_append.2 ⟨h, h'⟩

/-- All that is in braces has a property, if every item has it. -/
theorem takes_braced_forall {P : α → Prop} {skip : Kind → Bool} {item : Parser (List α)}
    (h : ∀ d, Takes s (fun _ as => ∀ a ∈ as, P a) item d) :
    Takes s (fun _ as => ∀ a ∈ as, P a) (braced skip item) c :=
  (takes_braced (joins_forall P) fun d _ => h d).mono fun _ _ ⟨_, _, _, has⟩ => has

theorem takes_single_forall {P : α → Prop} {p : Parser α} (h : Takes s (fun _ a => P a) p c) :
    Takes s (fun _ as => ∀ a ∈ as, P a) (do return [← p]) c :=
  h.result fun _ _ _ ha => List.forall_mem_singleton.2 ha

/-- A production that gives nodes without labels. -/
theorem takes_unlabelled {labels : β → List Label} {g : α → β} (h : ∀ a, labels (g a) = []) (p : Parser α) :
    Takes s (fun _ b => ∀ l ∈ labels b, l.WrittenIn s) (g <$> p) c := by
  refine (Takes.any p c).map fun _ a _ => ?_
  rw [h]
  exact List.forall_mem_nil _

/-! ## Links -/

/-- The name of a link is the text of a string or of a word. -/
theorem takes_linkName :
    Takes s (fun _ label => ∃ t, s.withEnd[s.index c]? = some t ∧
      (t.kind.startsName ∨ label = t.lexeme.literalText)) linkName c := by
  refine .look fun hat => ?_
  split
  · next value h =>
    exact .step (by simp [Token.kind, h, Lexeme.kind]) fun d _ => .ret ⟨_, hat, .inr (by rw [h]; rfl)⟩
  -- every token that is taken for a name starts one
  · refine takes_name.mono fun _ label hname => ?_
    obtain ⟨_, t, ht, hword, _⟩ := hname
    refine ⟨t, ht, .inl ?_⟩
    revert hword
    cases t.kind <;> simp [Kind.startsName, Kind.isKeyword]

/-- What no change touches is kept by all of them. -/
theorem applyAll_keeps {g : α → β} {changes : List (α → α)} (h : ∀ f ∈ changes, ∀ a, g (f a) = g a) (a : α) :
    g (applyAll changes a) = g a := by
  induction changes generalizing a with
  | nil => rfl
  | cons f fs ih =>
    obtain ⟨hf, hfs⟩ := List.forall_mem_cons.1 h
    exact (ih hfs (f a)).trans (hf a)

/-- What a diachronic link holds changes neither its name nor its place. -/
theorem takes_diachronicItem :
    Takes s (fun _ f => ∀ l, Link.label (.diachronic (f l)) = Link.label (.diachronic l)) diachronicItem c := by
  refine takes_blockItem (fun h _ => h) (fun _ => ?_) ?_ ((Takes.any _ c).bind fun field d _ _ => ?_)
  · exact (Takes.any _ _).result fun _ _ _ _ _ => rfl
  · exact (Takes.any _ _).result fun _ _ _ _ _ => rfl
  · cases field <;> exact (Takes.any _ _).result fun _ _ _ _ _ => rfl

/-- What a synchronous link holds changes neither its name nor its place. -/
theorem takes_synchronousItem :
    Takes s (fun _ f => ∀ l, Link.label (.synchronous (f l)) = Link.label (.synchronous l)) synchronousItem c := by
  refine takes_blockItem (fun h _ => h) (fun _ => ?_) ?_ ((Takes.any _ c).bind fun field d _ _ => ?_)
  · exact (Takes.any _ _).result fun _ _ _ _ _ => rfl
  · exact (Takes.any _ _).result fun _ _ _ _ _ => rfl
  · cases field <;> exact (Takes.any _ _).result fun _ _ _ _ _ => rfl

theorem takes_diachronicLink (hs : Ascends .start s.withEnd) :
    Takes s (fun _ l => (Link.label (.diachronic l)).WrittenIn s) diachronicLink c := by
  refine (takes_keyword _).bind fun start d _ hstart => takes_linkName.bind fun label e _ ⟨t, ht, htext⟩ => ?_
  refine (takes_braced_forall fun f => takes_single_forall takes_diachronicItem).bind fun changes f _ hchanges => ?_
  refine .skip (fun _ _ => .ret ?_) _
  rw [applyAll_keeps (g := fun l => Link.label (.diachronic l)) hchanges]
  exact Label.writtenIn_of_stands hs (TokenStream.stands hstart.2) (hstart.1 ▸ ht) htext

/-- A synchronous link, behind the token that starts it. -/
theorem takes_synchronousLink (hs : Ascends .start s.withEnd) (hkind : c.current.kind ≠ .endOfInput) :
    Takes s (fun _ l => (Link.label (.synchronous l)).WrittenIn s) synchronousLink c := by
  refine (takes_advance hkind).bind fun start d _ hstart => takes_linkName.bind fun label e _ ⟨t, ht, htext⟩ => ?_
  refine (takes_braced_forall fun f => takes_single_forall takes_synchronousItem).bind fun changes f _ hchanges => ?_
  refine .skip (fun _ _ => .ret ?_) _
  rw [applyAll_keeps (g := fun l => Link.label (.synchronous l)) hchanges]
  exact Label.writtenIn_of_stands hs (TokenStream.stands hstart.2) (hstart.1 ▸ ht) htext

/-! ## Market data -/

/-- The text that is kept of an expression is that of a literal, unless the expression is a variable. -/
theorem takes_expression :
    Takes s (fun _ e => ∃ t, s.withEnd[s.index c]? = some t ∧
      (t.kind.startsName ∨ aggregationText e = t.lexeme.literalText)) expression c := by
  refine .lookAhead (.look fun hat => ?_)
  split
  · next h => exact (Takes.any _ c).bind fun _ d _ _ => (Takes.any _ d).result fun _ _ _ _ => ⟨_, hat, .inl (by
      rw [Token.kind, h]
      rfl)⟩
  · next h => exact (Takes.any _ c).result fun _ _ _ _ => ⟨_, hat, .inr (by rw [h]; rfl)⟩
  · next h => exact (Takes.any _ c).result fun _ _ _ _ => ⟨_, hat, .inr (by rw [h]; rfl)⟩
  · next h => exact (Takes.any _ c).result fun _ _ _ _ => ⟨_, hat, .inr (by rw [h]; rfl)⟩
  · next h => exact (Takes.any _ c).result fun _ _ _ _ => ⟨_, hat, .inr (by rw [h]; rfl)⟩
  · exact takes_unexpected _

theorem takes_aggregationField (hs : Ascends .start s.withEnd) :
    Takes s (fun _ f => f.label.WrittenIn s) aggregationField c := by
  have hassignment : Takes s (fun _ a => s.Stands (s.index c) a.position ∧ ∃ t, s.withEnd[s.index c + 2]? = some t ∧
      (t.kind.startsName ∨ aggregationText a.value = t.lexeme.literalText)) assignment c := by
    refine .look fun hat => takes_name.bind fun label d _ hname => (takes_mark _).bind fun _ e _ hmark => ?_
    refine takes_expression.result fun _ value _ ⟨t, ht, htext⟩ => ⟨TokenStream.stands hat, t, ?_, htext⟩
    rw [← ht, hmark, hname.1]
  exact hassignment.result fun _ _ _ ⟨hplace, _, ht, htext⟩ => Label.writtenIn_of_stands hs hplace ht htext

theorem takes_dataField (hs : Ascends .start s.withEnd) :
    Takes s (fun _ b => ∀ l ∈ b.labels, l.WrittenIn s) dataField c := by
  have haggregation : Takes s (fun _ a => ∀ f ∈ a.fields, f.label.WrittenIn s) aggregation c := by
    refine (Takes.any _ c).bind fun _ d _ _ => .skip (fun e _ => ?_) _
    refine (takes_braced_forall fun f => ?_).result fun _ _ _ h => h
    refine takes_plainItem (joins_forall fun f => f.label.WrittenIn s) ((takes_aggregationField hs).mono ?_)
    intro _ field hfield
    exact List.forall_mem_singleton.2 hfield
  refine .look fun _ => ?_
  split
  · exact haggregation.map fun _ a h => List.forall_mem_map.2 h
  · exact takes_unlabelled (fun _ => rfl) year
  · exact takes_unexpected _

theorem takes_data (hs : Ascends .start s.withEnd) : Takes s (fun _ d => ∀ l ∈ d.labels, l.WrittenIn s) data c := by
  refine (Takes.any _ c).bind fun _ d _ _ => .skip (fun e _ => (Takes.any _ e).bind fun _ f _ _ => ?_) _
  have hblocks : Takes s (fun _ blocks => ∀ b ∈ blocks, ∀ l ∈ DataBlock.labels b, l.WrittenIn s) (braced isNewline
      (blockItem (do return [.comment (← comment)]) (do return [.tag (← tag)]) (do return [← dataField]))) f := by
    refine takes_braced_forall fun g => takes_blockItem (fun h _ => h) (fun _ => ?_) ?_ ?_
    · exact (Takes.any _ g).result fun _ _ _ _ => List.forall_mem_singleton.2 (List.forall_mem_nil _)
    · exact (Takes.any _ g).result fun _ _ _ _ => List.forall_mem_singleton.2 (List.forall_mem_nil _)
    · exact takes_single_forall (takes_dataField hs)
  refine hblocks.result fun _ blocks _ h l hl => ?_
  obtain ⟨b, hb, hl⟩ := List.mem_flatMap.1 hl
  exact h b hb l hl

/-! ## Families and statements -/

theorem takes_familyMember (hs : Ascends .start s.withEnd) :
    Takes s (fun _ m => ∀ l ∈ m.labels, l.WrittenIn s) familyMember c := by
  refine .look fun _ => ?_
  split
  case h_3 => exact (takes_data hs).map fun _ _ h => h
  case h_4 => exact (takes_diachronicLink hs).map fun _ _ => List.forall_mem_singleton.2
  case h_5 h => exact (takes_synchronousLink hs (by simp [h])).map fun _ _ => List.forall_mem_singleton.2
  case h_6 h => exact (takes_synchronousLink hs (by simp [h])).map fun _ _ => List.forall_mem_singleton.2
  case h_10 => exact takes_unexpected _
  all_goals exact takes_unlabelled (fun _ => rfl) _

theorem takes_family (hs : Ascends .start s.withEnd) :
    Takes s (fun _ f => ∀ l ∈ f.members.flatMap FamilyMember.labels, l.WrittenIn s) family c := by
  refine (Takes.any _ c).bind fun _ d _ _ => (Takes.any _ d).bind fun _ e _ _ => ?_
  refine (takes_braced_forall fun f => takes_single_forall (takes_familyMember hs)).result fun _ members _ h l hl => ?_
  obtain ⟨m, hm, hl⟩ := List.mem_flatMap.1 hl
  exact h m hm l hl

theorem takes_statement (hs : Ascends .start s.withEnd) :
    Takes s (fun _ d => ∀ l ∈ d.labels, l.WrittenIn s) statement c := by
  refine .look fun _ => ?_
  split
  case h_5 => exact (takes_family hs).map fun _ _ h => h
  case h_7 => exact (takes_data hs).map fun _ _ h => h
  case h_10 => exact (takes_diachronicLink hs).map fun _ _ => List.forall_mem_singleton.2
  case h_11 h => exact (takes_synchronousLink hs (by simp [h])).map fun _ _ => List.forall_mem_singleton.2
  case h_12 h => exact (takes_synchronousLink hs (by simp [h])).map fun _ _ => List.forall_mem_singleton.2
  case h_16 h =>
    refine .lookNext (.ite (fun _ => ?_) (fun _ => .ite (fun _ => ?_) (fun _ => takes_unexpected _)))
    · exact (takes_family hs).map fun _ _ h => h
    · exact takes_unlabelled (fun _ => rfl) _
  case h_17 => exact takes_unexpected _
  all_goals exact takes_unlabelled (fun _ => rfl) _

end Parser

/-! ## Runs -/

/-- The labels of a run are written in the text. -/
theorem Parse.labels_fromCursor {s : TokenStream} (hs : Ascends .start s.withEnd) {c : Cursor}
    (hc : (Cursor.ofStream s).Reaches c) :
    ∀ d ∈ (fromCursor c).statements, ∀ l ∈ d.labels, l.WrittenIn s := by
  induction c using statements_induction with
  | hover c => exact List.forall_mem_nil _
  | herror hround ih => exact ih (hc.trans hround.reaches)
  | @hstatement c node d nodes hrest hrun ih =>
    have hskip := c.reaches_skipWhile Parser.isDivider
    exact List.forall_mem_cons.2 ⟨Parser.takes_statement hs (hc.trans hskip) node d hrun,
      ih (hc.trans (Round.statement hrest hrun).reaches)⟩

end MediaLanguage
