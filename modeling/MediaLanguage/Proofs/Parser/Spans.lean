import MediaLanguage.Proofs.Ast.Tree
import MediaLanguage.Proofs.Parser.Taking
import MediaLanguage.Proofs.Token.Order

/-!
# The tokens of a node

A node stands at its first token, and its child nodes are made of tokens behind that one, one child node of a list
behind the other. `Spans s i j t` says so of the tree `t` and the tokens from index `i` up to index `j`, and
`Covers s i j ts` of a list of trees, which may leave tokens between them out.

* `Roots`: a production whose node spans the tokens it reads. There is one lemma for each production, up to
  `roots_statement`.
* `Strews`: a production that gives a list of nodes, which cover the tokens it reads.
-/

namespace MediaLanguage

/-! ## Spans -/

mutual

/-- The node stands at token `i`, and each group of its child nodes covers tokens from there up to `j`. -/
inductive Spans (s : TokenStream) : Nat → Nat → Tree → Prop
  | node {i j : Nat} {p : Position} {groups : List (List Tree)} : s.Stands i p → i < j →
      (∀ g ∈ groups, Covers s i j g) → Spans s i j (.node p groups)

/-- The trees span tokens from `i` up to `j`, one behind the other. -/
inductive Covers (s : TokenStream) : Nat → Nat → List Tree → Prop
  | nil {i j : Nat} : i ≤ j → Covers s i j []
  | cons {i k l j : Nat} {t : Tree} {ts : List Tree} : i ≤ k → Spans s k l t → Covers s l j ts → Covers s i j (t :: ts)

end

section Spans

variable {s : TokenStream} {i j k : Nat} {t : Tree} {ts us : List Tree} {p : Position}

/-- A node reads its token at least. -/
theorem Spans.lt (h : Spans s i j t) : i < j := by
  cases h with
  | node _ hlt _ => exact hlt

namespace Covers

/-- A list goes forward. -/
theorem le (h : Covers s i j ts) : i ≤ j := by
  induction ts generalizing i with
  | nil =>
    cases h with
    | nil hle => exact hle
  | cons t ts ih =>
    cases h with
    | cons hle ht hts =>
      have hlt := ht.lt
      have hle' := ih hts
      omega

/-- What starts later starts earlier too. -/
theorem of_le_left (hle : i ≤ j) (h : Covers s j k ts) : Covers s i k ts := by
  cases h with
  | nil h => exact .nil (by omega)
  | cons h ht hts => exact .cons (by omega) ht hts

/-- What ends earlier ends later too. -/
theorem of_le_right (h : Covers s i j ts) (hle : j ≤ k) : Covers s i k ts := by
  induction ts generalizing i with
  | nil =>
    cases h with
    | nil h => exact .nil (by omega)
  | cons t ts ih =>
    cases h with
    | cons h ht hts => exact .cons h ht (ih hts)

/-- Lists one behind the other. -/
theorem append (h : Covers s i j ts) (h' : Covers s j k us) : Covers s i k (ts ++ us) := by
  induction ts generalizing i with
  | nil => exact h'.of_le_left h.le
  | cons t ts ih =>
    cases h with
    | cons hle ht hts => exact .cons hle ht (ih hts)

/-- One tree. -/
theorem single (h : Spans s j k t) (hle : i ≤ j) : Covers s i k [t] :=
  .cons hle h (.nil (Nat.le_refl _))

/-- A tree of a list spans tokens of the list. -/
theorem exists_of_mem (h : Covers s i j ts) (ht : t ∈ ts) : ∃ k l, i ≤ k ∧ l ≤ j ∧ Spans s k l t := by
  induction ts generalizing i with
  | nil => cases ht
  | cons u us ih =>
    cases h with
    | @cons _ k l _ _ _ hle hu hus =>
      rcases List.mem_cons.1 ht with rfl | ht
      · exact ⟨k, l, hle, hus.le, hu⟩
      · obtain ⟨k', l', hk, hl, hspans⟩ := ih hus ht
        have hlt := hu.lt
        exact ⟨k', l', by omega, hl, hspans⟩

end Covers

/-- The nodes with the given trees cover tokens. -/
def Lists {α : Type} (s : TokenStream) (tree : α → Tree) (i j : Nat) (as : List α) : Prop :=
  Covers s i j (as.map tree)

/-- Lists of nodes join. -/
theorem joins_lists {α : Type} (tree : α → Tree) : Parser.Joins (Lists s tree) where
  nil := .nil
  append h h' := by
    unfold Lists
    rw [List.map_append]
    exact Covers.append h h'

/-- What ends earlier ends later too. -/
theorem Spans.of_le (h : Spans s i j t) (hle : j ≤ k) : Spans s i k t := by
  cases h with
  | node hp hlt hgroups => exact .node hp (by omega) fun g hg => (hgroups g hg).of_le_right hle

/-- A node stands at its first token. -/
theorem Spans.stands (h : Spans s i j t) : s.Stands i t.position := by
  cases h with
  | node hp _ _ => exact hp

/-- A node without child nodes. -/
theorem Spans.leaf (hp : s.Stands i p) (hlt : i < j) : Spans s i j (.leaf p) :=
  .node hp hlt (List.forall_mem_nil _)

/-- A node that has no child nodes yet. -/
theorem Spans.bare {gs : List (List Tree)} (hp : s.Stands i p) (hlt : i < j) (hgs : ∀ g ∈ gs, g = []) :
    Spans s i j (.node p gs) := by
  refine .node hp hlt fun g hg => ?_
  rw [hgs g hg]
  exact .nil (Nat.le_of_lt hlt)

/-- A node with one list of child nodes. -/
theorem Spans.list (hp : s.Stands i p) (hlt : i < j) (h : Covers s i j ts) : Spans s i j (.node p [ts]) :=
  .node hp hlt (List.forall_mem_singleton.2 h)

/-- The groups of a node cover tokens. -/
theorem Spans.groups (h : Spans s i j t) : ∀ g ∈ t.groups, Covers s i j g := by
  cases h with
  | node _ _ hgroups => exact hgroups

/-- A node with new groups in place of old ones. -/
theorem Spans.update {gs gs' news : List (List Tree)} (h : Spans s i j (.node p gs)) (hle : j ≤ k)
    (hnews : ∀ g ∈ news, Covers s i k g) (hgs : gs' ⊆ news ++ gs) : Spans s i k (.node p gs') := by
  have hlt := h.lt
  refine .node h.stands (by omega) fun g hg => ?_
  rcases List.mem_append.1 (hgs hg) with hnew | hold
  · exact hnews g hnew
  · exact (h.groups g hold).of_le_right hle

/-- A node with one more child node in a group. -/
theorem Spans.extend {gs gs' : List (List Tree)} (h : Spans s i j (.node p gs)) (hts : ts ∈ gs) (ht : Spans s j k t)
    (hgs : gs' ⊆ (ts ++ [t]) :: gs) : Spans s i k (.node p gs') := by
  refine h.update (Nat.le_of_lt ht.lt) (List.forall_mem_singleton.2 ?_) hgs
  exact (h.groups ts hts).append (.single ht (Nat.le_refl _))

/-- A period stands at its first date. -/
theorem spans_dateRange {r : Ast.DateRange} (hstart : Spans s i j r.start.tree)
    (hfinish : Covers s j k (r.finish.toList.map Ast.Date.tree)) : Spans s i k r.tree := by
  have hlt := hstart.lt
  have hle := hfinish.le
  refine .node hstart.stands (by omega) (List.forall_mem_cons.2 ⟨?_, List.forall_mem_singleton.2 ?_⟩)
  · exact (Covers.single hstart (Nat.le_refl _)).of_le_right hle
  · exact hfinish.of_le_left (by omega)

end Spans

namespace Parser

open Ast

variable {α β : Type} {s : TokenStream} {c : Cursor}

/-- The node that `p` reads at `c` spans the tokens that it reads. -/
def Roots (s : TokenStream) (tree : α → Tree) (p : Parser α) (c : Cursor) : Prop :=
  Takes s (fun j a => Spans s (s.index c) j (tree a)) p c

/-- The nodes that `p` reads at `c` cover the tokens that it reads. -/
def Strews (s : TokenStream) (tree : α → Tree) (p : Parser (List α)) (c : Cursor) : Prop :=
  Takes s (Lists s tree (s.index c)) p c

section Rules

variable {tree : α → Tree} {p : Parser α}

/-- A node that is a list of one. -/
theorem Roots.covers (h : Roots s tree p c) : Takes s (fun j a => Lists s tree (s.index c) j [a]) p c :=
  h.mono fun _ _ ha => .single ha (Nat.le_refl _)

/-- A node among others. -/
theorem Roots.single (h : Roots s tree p c) : Strews s tree (do return [← p]) c :=
  takes_single h.covers

/-- A node among others of several sorts. -/
theorem Roots.strew {tree' : β → Tree} {g : α → β} (h : Roots s tree p c) (hg : ∀ a, tree' (g a) = tree a) :
    Strews s tree' (do return [g (← p)]) c :=
  h.result fun _ _ _ ha => .single (by rwa [hg]) (Nat.le_refl _)

/-- A node as one of several sorts. -/
theorem Roots.map {tree' : β → Tree} {g : α → β} (h : Roots s tree p c) (hg : ∀ a, tree' (g a) = tree a) :
    Roots s tree' (g <$> p) c :=
  Takes.map h fun _ _ ha => by rwa [hg]

/-- A node with separators behind it. -/
theorem Roots.separated {after : Parser β} (h : Roots s tree p c) :
    Strews s tree (do let a ← p; let _ ← after; return [a]) c :=
  takes_separated (joins_lists tree) h.covers

/-- A body in braces. -/
theorem strews_braced {skip : Kind → Bool} {item : Parser (List α)} (h : ∀ d, Strews s tree item d) :
    Takes s (fun j as => s.index c < j ∧ Lists s tree (s.index c) j as) (braced skip item) c :=
  (takes_braced (joins_lists tree) fun d _ => h d).mono fun _ _ ⟨hlt, _, hle, has⟩ =>
    ⟨hlt, (joins_lists tree).of_le_left (Nat.le_of_lt hle) has⟩

/-- A block that keeps comments and annotations. -/
theorem strews_blockItem {onComment onTag onField : Parser (List α)}
    (hcomment : c.current.kind.isComment = true → Strews s tree onComment c) (htag : Strews s tree onTag c)
    (hfield : Strews s tree onField c) : Strews s tree (blockItem onComment onTag onField) c :=
  takes_blockItem (S := Lists s tree (s.index c)) (joins_lists tree).of_le_right hcomment htag hfield

/-- A block that drops comments and annotations. -/
theorem Roots.plainItem (h : Roots s tree p c) : Strews s tree (plainItem p) c :=
  takes_plainItem (joins_lists tree) h.covers

/-- A block that drops annotations. -/
theorem Roots.untaggedItem {after : Parser Unit} (h : Roots s tree p c) : Strews s tree (untaggedItem p after) c :=
  takes_untaggedItem (joins_lists tree) h.covers

end Rules

/-! ## Comments, annotations and dates -/

section Leaves

theorem roots_comment (h : c.current.kind.isComment = true) : Roots s Comment.tree comment c := by
  have hkind : c.current.kind ≠ .endOfInput := by
    intro hend
    rw [hend] at h
    cases h
  exact (takes_advance hkind).result fun _ _ _ ht => .leaf (TokenStream.stands ht.2) (by omega)

theorem roots_tag : Roots s Tag.tree tag c := by
  refine .look fun hat => ?_
  split
  · next h =>
    refine .step (by simp [Token.kind, h, Lexeme.kind]) fun d hd => (Takes.any _ d).result fun j _ hj _ => ?_
    exact .leaf (TokenStream.stands hat) (by omega)
  · exact takes_unexpected _

theorem roots_tagComment : Roots s Comment.tree tagComment c :=
  Takes.result roots_tag fun _ _ _ ht => ht

theorem roots_date : Roots s Date.tree date c := by
  refine .look fun hat => ?_
  split
  · next h =>
    exact .step (by simp [Token.kind, h, Lexeme.kind]) fun d hd => .ret (.leaf (TokenStream.stands hat) (by omega))
  · next h =>
    exact .step (by simp [Token.kind, h, Lexeme.kind]) fun d hd => .ret (.leaf (TokenStream.stands hat) (by omega))
  · exact takes_unexpected _

/-- The end of a period, if there is one. -/
theorem takes_periodEnd :
    Takes s (fun j d => Lists s Date.tree (s.index c) j d.toList) periodEnd c := by
  refine (Takes.any _ c).bind fun _ d hd _ => .ite (fun _ => ?_) (fun _ => .ret (.nil hd))
  exact Takes.map roots_date fun _ _ h => .single h hd

/-- A date and perhaps the end of a period. -/
theorem roots_dateRange : Roots s DateRange.tree dateRange c := by
  refine Takes.bind roots_date fun start d hd hstart => takes_periodEnd.result fun j finish hj hfinish => ?_
  exact spans_dateRange hstart (.of_le_left (Nat.le_refl _) hfinish)

end Leaves

/-! ## Expressions -/

section Expr

theorem roots_member {value : Parser Expr} (hvalue : ∀ d, Roots s Expr.tree value d) :
    Roots s Member.tree (member value) c := by
  refine .look fun hat => takes_name.bind fun label d _ hname => (takes_mark _).bind fun _ e _ hmark => ?_
  refine .look fun hat' => .lookNext ?_
  split
  · next text hlexeme _ =>
    refine .step (by simp [Token.kind, hlexeme, Lexeme.kind]) fun f hf => .skip (fun f' hf' => ?_) _
    refine Takes.result roots_date fun j finish _ hfinish => ?_
    -- the word behind the string makes it the first date of a period, which no production for dates reads
    have hstart : Spans s (s.index e) (s.index f') (Date.day text e.current.position).tree :=
      .leaf (TokenStream.stands hat') (by omega)
    have hrange := spans_dateRange (r := ⟨.day text e.current.position, some finish⟩) hstart
      (.single hfinish (Nat.le_refl _))
    exact .list (TokenStream.stands hat) (by have := hrange.lt; omega) (.single hrange (by omega))
  · refine Takes.result (hvalue e) fun j v _ hv => ?_
    exact .list (TokenStream.stands hat) (by have := hv.lt; omega) (.single hv (by omega))

theorem roots_objectOf {value : Parser Expr} (hvalue : ∀ d, Roots s Expr.tree value d) :
    Roots s ObjectLiteral.tree (objectOf value) c := by
  refine .look fun hat => (strews_braced fun _ => (roots_member hvalue).separated).result fun j members _ h => ?_
  refine .list (TokenStream.stands hat) h.1 ?_
  rw [memberTrees_eq]
  exact h.2

/-- An expression, by induction on the bound on its depth. -/
theorem roots_expressionWithin (depth : Nat) : Roots s Expr.tree (expressionWithin depth) c := by
  induction depth generalizing c with
  | zero => exact takes_unexpected _
  | succ depth ih =>
    refine .look fun hat => ?_
    have hleaf : ∀ {j : Nat} {e : Expr}, e.tree = .leaf c.current.position → s.index c < j →
        Spans s (s.index c) j e.tree := fun he hlt => he ▸ .leaf (TokenStream.stands hat) hlt
    split
    · next h =>
      refine .step (by simp [Token.kind, h, Lexeme.kind]) fun d hd => takes_name.result fun j _ hj _ => ?_
      exact hleaf rfl (by omega)
    · next h => exact .step (by simp [Token.kind, h, Lexeme.kind]) fun d hd => .ret (hleaf rfl (by omega))
    · next h => exact .step (by simp [Token.kind, h, Lexeme.kind]) fun d hd => .ret (hleaf rfl (by omega))
    · next h => exact .step (by simp [Token.kind, h, Lexeme.kind]) fun d hd => .ret (hleaf rfl (by omega))
    · exact Takes.result (roots_objectOf fun _ => ih) fun _ _ _ h => h
    · exact takes_unexpected _

theorem roots_expression : Roots s Expr.tree expression c :=
  .lookAhead (roots_expressionWithin _)

theorem roots_object : Roots s ObjectLiteral.tree object c :=
  .lookAhead (roots_objectOf fun _ => roots_expressionWithin _)

theorem roots_assignment : Roots s Assignment.tree assignment c := by
  refine .look fun hat => takes_name.bind fun label d _ hname => (takes_mark _).bind fun _ e _ hmark => ?_
  refine Takes.result roots_expression fun j value _ hvalue => ?_
  exact .list (TokenStream.stands hat) (by have := hvalue.lt; omega) (.single hvalue (by omega))

theorem takes_assignments : Takes s (Lists s Assignment.tree (s.index c)) assignments c :=
  (strews_braced fun _ => roots_assignment.separated).mono fun _ _ h => h.2

theorem strews_keptField : Strews s Field.tree keptField c :=
  strews_blockItem (fun h => (roots_comment h).strew fun _ => rfl) (roots_tagComment.strew fun _ => rfl)
    (roots_assignment.strew fun _ => rfl)

end Expr

/-! ## Imports, variables, units and vocabularies -/

section Declarations

theorem roots_importFile : Roots s Import.tree importFile c :=
  (takes_keyword _).bind fun _ _ _ hstart => (takes_string _).bind fun _ d _ hd => .skip
    (fun e he => .ret (.leaf (TokenStream.stands hstart.2) (by omega))) _

theorem roots_letVariable : Roots s Variable.tree letVariable c := by
  refine (takes_keyword _).bind fun start d _ hstart => takes_name.bind fun _ e _ hname => ?_
  refine (takes_mark _).bind fun _ f _ hmark => Takes.bind roots_expression fun value g _ hvalue => ?_
  refine .skip (fun g' hg' => .ret ?_) _
  exact .list (TokenStream.stands hstart.2) (by omega) ((Covers.single hvalue (by omega)).of_le_right hg')

theorem roots_fieldType : Roots s TypeExpr.tree fieldType c := by
  refine .look fun hat => ?_
  have hleaf : ∀ {j : Nat}, s.index c < j → Spans s (s.index c) j (.leaf c.current.position) := fun hlt =>
    .leaf (TokenStream.stands hat) hlt
  dsimp only
  split
  · next h => exact .step (by simp [h]) fun d hd => .ret (hleaf (by omega))
  · next h =>
    refine .step (by simp [h]) fun d hd => (Takes.any _ d).bind fun b e he _ => .ite (fun _ => ?_) (fun _ => ?_)
    · refine (Takes.any _ e).bind fun _ f hf _ => (Takes.any _ f).bind fun _ g hg _ => ?_
      exact .ret (hleaf (by omega))
    · exact .ret (hleaf (by omega))
  · next h => exact .step (by simp [h]) fun d hd => .ret (hleaf (by omega))
  · next h => exact .step (by simp [h]) fun d hd => .ret (hleaf (by omega))
  · next h =>
    refine .step (by simp [h]) fun d hd => .skip (fun e he => (Takes.any _ e).result fun j _ hj _ => ?_) _
    exact hleaf (by omega)
  · exact takes_unexpected _

theorem roots_unitField : Roots s UnitField.tree unitField c := by
  refine .look fun hat => takes_name.bind fun label d _ hname => (takes_mark _).bind fun _ e _ hmark => ?_
  refine Takes.bind roots_fieldType fun type f _ htype => (Takes.any _ f).result fun j _ hj _ => ?_
  have hlt := htype.lt
  exact .list (TokenStream.stands hat) (by omega) ((Covers.single htype (by omega)).of_le_right hj)

theorem roots_unitDeclaration : Roots s UnitDeclaration.tree unitDeclaration c := by
  refine (takes_keyword _).bind fun start d _ hstart => takes_name.bind fun _ e _ hname => ?_
  refine (strews_braced fun _ => roots_unitField.untaggedItem).result fun j fields hj h => ?_
  exact .list (TokenStream.stands hstart.2) (by omega) (h.2.of_le_left (by omega))

theorem roots_vocabularyEntry : Roots s VocabularyEntry.tree vocabularyEntry c := by
  refine .look fun hat => (Takes.any _ c).bind fun _ d hd _ => (takes_mark _).bind fun _ e _ hmark => ?_
  exact (takes_string _).result fun j _ hj _ => .leaf (TokenStream.stands hat) (by omega)

theorem roots_vocabularyBody : Roots s VocabularyBody.tree vocabularyBody c := by
  refine .look fun hat => takes_name.bind fun label d _ hname => ?_
  refine (strews_braced fun _ => roots_vocabularyEntry.untaggedItem).result fun j entries hj h => ?_
  exact .list (TokenStream.stands hat) (by omega) (h.2.of_le_left (by omega))

theorem roots_vocabulary : Roots s Vocabulary.tree vocabulary c := by
  refine (takes_keyword _).bind fun start d _ hstart => takes_name.bind fun _ e _ hname => ?_
  refine (strews_braced fun _ => roots_vocabularyBody.untaggedItem).result fun j bodies hj h => ?_
  exact .list (TokenStream.stands hstart.2) (by omega) (h.2.of_le_left (by omega))

/-- A vocabulary that is one body. -/
theorem roots_bareVocabulary : Roots s Vocabulary.tree bareVocabulary c :=
  Takes.result roots_vocabularyBody fun _ _ _ h => .list h.stands h.lt (.single h (Nat.le_refl _))

end Declarations

/-! ## Blocks of outlets and templates -/

section Blocks

theorem roots_identityField : Roots s IdentityField.tree identityField c := by
  refine .look fun hat => takes_name.bind fun label d _ hname => (takes_mark _).bind fun _ e _ hmark => ?_
  refine (Takes.any _ e).bind fun _ f hf _ => .ite (fun _ => ?_) (fun _ => ?_)
  · have hvalues : Takes s (Lists s ObjectLiteral.tree (s.index f)) (commaList .closeBracket object) f :=
      takes_commaList (joins_lists _) fun _ _ => roots_object.covers
    refine hvalues.result fun j values hj h => ?_
    exact .list (TokenStream.stands hat) (by omega) (h.of_le_left (by omega))
  · refine Takes.result roots_expression fun j value _ hvalue => ?_
    exact .list (TokenStream.stands hat) (by have := hvalue.lt; omega) (.single hvalue (by omega))

theorem roots_identityBlock : Roots s Identity.tree identityBlock c := by
  refine (takes_keyword _).bind fun start d _ hstart => (strews_braced fun e => ?_).result fun j fields hj h =>
    .list (TokenStream.stands hstart.2) (by omega) (h.2.of_le_left (by omega))
  exact strews_blockItem (fun h => (roots_comment h).strew fun _ => rfl) (roots_tagComment.strew fun _ => rfl)
    roots_identityField.single

theorem roots_lifecycleAttribute : Roots s Field.tree lifecycleAttribute c := by
  have hnext : ∀ {p : Parser Field}, Roots s Field.tree p c →
      Roots s Field.tree (do let field ← p; skipSeparators; return field) c := fun hp =>
    Takes.bind hp fun _ d _ hfield => (Takes.any _ d).bind fun _ _ hle _ => .ret (hfield.of_le hle)
  refine .look fun _ => .ite (fun hcomment => ?_) fun _ => .ite (fun _ => ?_) (fun _ => ?_)
  · exact hnext ((roots_comment hcomment).map fun _ => rfl)
  · exact hnext (roots_tagComment.map fun _ => rfl)
  · exact hnext (roots_assignment.map fun _ => rfl)

theorem roots_lifecycleEntry : Roots s LifecycleEntry.tree lifecycleEntry c := by
  refine (takes_keyword _).bind fun token d _ htoken => (takes_string _).bind fun _ e _ hstatus => ?_
  refine (takes_keyword _).bind fun _ f _ hfrom => Takes.bind roots_date fun start g _ hstart => ?_
  refine takes_periodEnd.bind fun finish g' hg' hfinish => ?_
  refine (strews_braced fun _ => roots_lifecycleAttribute.single).result fun j attributes hj h => ?_
  have hlt := hstart.lt
  refine .node (TokenStream.stands htoken.2) (by omega)
    (List.forall_mem_cons.2 ⟨?_, List.forall_mem_cons.2 ⟨?_, List.forall_mem_singleton.2 ?_⟩⟩)
  · exact (Covers.single hstart (by omega)).of_le_right (by omega)
  · exact (Covers.of_le_left (by omega) hfinish).of_le_right hj
  · exact h.2.of_le_left (by omega)

theorem roots_lifecycleBlock : Roots s Lifecycle.tree lifecycleBlock c := by
  refine (takes_keyword _).bind fun start d _ hstart => ?_
  refine (strews_braced fun _ => roots_lifecycleEntry.untaggedItem).result fun j entries hj h => ?_
  exact .list (TokenStream.stands hstart.2) (by omega) (h.2.of_le_left (by omega))

/-- The value of a characteristic, or what is passed over. -/
theorem takes_characteristicValue :
    Takes s (fun j v => Lists s Expr.tree (s.index c) j v.toList) characteristicValue c := by
  refine .look fun hat => ?_
  have hleaf : ∀ {j : Nat} {text : String}, s.index c < j →
      Lists s Expr.tree (s.index c) j [.string text c.current.position] := fun hlt =>
    .single (.leaf (TokenStream.stands hat) hlt) (Nat.le_refl _)
  split
  · next h =>
    refine .step (by simp [Token.kind, h, Lexeme.kind]) fun d hd => (Takes.any _ d).bind fun _ e he _ => ?_
    exact .ret (hleaf (by omega))
  · exact (Takes.of_consumes (consumes_mark _).bind).bind fun _ d _ hd => .ret (hleaf hd)
  -- a value that is no expression is passed over and leaves no node
  · refine .recover (Takes.map roots_expression fun _ _ h => .single h (Nat.le_refl _)) fun e d hd => ?_
    cases e with
    | grammar e => exact (Takes.any _ d).bind fun _ f hf _ => .ret (.nil (by omega))
    | conversion e =>
      refine .fails fun _ _ hrun => ?_
      cases hrun

/-- A characteristic, or what is passed over. -/
theorem strews_characteristic :
    Strews s Field.tree (do return (← characteristic).toList.map .assignment) c := by
  have hfield : Takes s (fun j a => Lists s Assignment.tree (s.index c) j a.toList) characteristic c := by
    refine .look fun hat => takes_name.bind fun label d _ hname => (takes_mark _).bind fun _ e _ hmark => ?_
    refine takes_characteristicValue.result fun j value hj h => ?_
    cases value with
    | none => exact .nil (by omega)
    | some value =>
      refine .single (.list (TokenStream.stands hat) (by omega) ?_) (Nat.le_refl _)
      exact Covers.of_le_left (by omega) h
  refine hfield.result fun j a _ h => ?_
  unfold Lists at h ⊢
  rwa [List.map_map]

theorem roots_characteristicsBlock : Roots s FieldBlock.tree characteristicsBlock c := by
  refine (takes_keyword _).bind fun start d _ hstart => (strews_braced fun e => ?_).result fun j fields hj h =>
    .list (TokenStream.stands hstart.2) (by omega) (h.2.of_le_left (by omega))
  exact strews_blockItem (fun h => (roots_comment h).strew fun _ => rfl) (roots_tagComment.strew fun _ => rfl)
    strews_characteristic

theorem roots_metadataBlock : Roots s FieldBlock.tree metadataBlock c := by
  refine (takes_keyword _).bind fun start d _ hstart => ?_
  refine (strews_braced fun _ => strews_keptField).result fun j fields hj h => ?_
  exact .list (TokenStream.stands hstart.2) (by omega) (h.2.of_le_left (by omega))

/-- A block; a field that stands alone is an identity block at its own place. -/
theorem roots_outletBlock : Roots s Block.tree outletBlock c := by
  refine .look fun hat => ?_
  split
  case h_1 h => exact (roots_comment (by rw [h]; rfl)).map fun _ => rfl
  case h_2 h => exact (roots_comment (by rw [h]; rfl)).map fun _ => rfl
  case h_3 => exact roots_tagComment.map fun _ => rfl
  case h_4 => exact roots_identityBlock.map fun _ => rfl
  case h_5 => exact roots_lifecycleBlock.map fun _ => rfl
  case h_6 => exact roots_characteristicsBlock.map fun _ => rfl
  case h_7 => exact roots_metadataBlock.map fun _ => rfl
  case h_8 =>
    refine .lookNext (.ite (fun _ => ?_) (fun _ => takes_unexpected _))
    -- the block that is made for the field has no token of its own
    refine Takes.result roots_identityField fun j field _ h => ?_
    exact .list (TokenStream.stands hat) h.lt (.single h (Nat.le_refl _))

end Blocks

/-! ## Market data -/

section Market

theorem roots_aggregationField : Roots s AggregationField.tree aggregationField c :=
  Takes.result roots_assignment fun _ _ _ h => .leaf h.stands h.lt

theorem roots_aggregation : Roots s Aggregation.tree aggregation c := by
  refine (takes_keyword _).bind fun start d _ hstart => (Takes.any _ d).bind fun _ e he _ => ?_
  refine (strews_braced fun _ => roots_aggregationField.plainItem).result fun j fields hj h => ?_
  exact .list (TokenStream.stands hstart.2) (by omega) (h.2.of_le_left (by omega))

theorem roots_metric : Roots s Metric.tree metric c := by
  refine .look fun hat => takes_name.bind fun label d _ hname => (takes_mark _).bind fun _ e _ hmark => ?_
  refine (strews_braced fun _ => roots_assignment.plainItem).result fun j attributes hj h => ?_
  exact .list (TokenStream.stands hat) (by omega) (h.2.of_le_left (by omega))

theorem roots_metrics : Roots s Metrics.tree metrics c := by
  refine (takes_keyword _).bind fun start d _ hstart => ?_
  refine (strews_braced fun _ => roots_metric.plainItem).result fun j fields hj h => ?_
  exact .list (TokenStream.stands hstart.2) (by omega) (h.2.of_le_left (by omega))

theorem roots_yearField : Roots s YearBlock.tree yearField c := by
  refine .look fun hat => .ite (fun _ => roots_metrics.map fun _ => rfl) fun _ => .ite (fun h => ?_) fun _ => ?_
  · have hkind : c.current.kind ≠ .endOfInput := by
      intro hend
      simp [hend] at h
    refine .step hkind fun d hd => (takes_mark _).bind fun _ e _ hmark => ?_
    exact (takes_string _).result fun j _ hj _ => .leaf (TokenStream.stands hat) (by omega)
  · exact takes_unexpected _

theorem roots_year : Roots s Year.tree year c := by
  refine (takes_keyword _).bind fun start d _ hstart => (takes_number _).bind fun _ e _ hfigure => ?_
  refine (strews_braced fun f => ?_).result fun j blocks hj h =>
    .list (TokenStream.stands hstart.2) (by omega) (h.2.of_le_left (by omega))
  exact strews_blockItem (fun h => (roots_comment h).strew fun _ => rfl) (roots_tagComment.strew fun _ => rfl)
    roots_yearField.single

theorem roots_dataField : Roots s DataBlock.tree dataField c := by
  refine .look fun _ => ?_
  split
  · exact roots_aggregation.map fun _ => rfl
  · exact roots_year.map fun _ => rfl
  · exact takes_unexpected _

theorem roots_data : Roots s Data.tree data c := by
  refine (takes_keyword _).bind fun start d _ hstart => (takes_keyword _).bind fun _ e _ hfor => ?_
  refine (takes_number _).bind fun _ f _ htarget => (strews_braced fun g => ?_).result fun j blocks hj h =>
    .list (TokenStream.stands hstart.2) (by omega) (h.2.of_le_left (by omega))
  exact strews_blockItem (fun h => (roots_comment h).strew fun _ => rfl) (roots_tag.strew fun _ => rfl)
    roots_dataField.single

end Market

/-! ## Links -/

section Links

variable {tree : α → Tree} {i : Nat}

/-- The changes lead from a node that spans tokens from `i` up to one index to a node that spans them up to another. -/
def Changes (s : TokenStream) (tree : α → Tree) (i : Nat) (j k : Nat) (fs : List (α → α)) : Prop :=
  ∀ a, Spans s i j (tree a) → Spans s i k (tree (applyAll fs a))

/-- Changes one after the other. -/
theorem joins_changes (tree : α → Tree) (i : Nat) : Joins (Changes s tree i) where
  nil hle a ha := ha.of_le hle
  append {_ _ _ fs gs} hfs hgs a ha := by
    have happend : applyAll (fs ++ gs) a = applyAll gs (applyAll fs a) := List.foldl_append
    rw [happend]
    exact hgs _ (hfs a ha)

/-- A change that keeps the tree. -/
theorem takes_keeping {p : Parser β} {g : β → α → α} (h : ∀ b a, tree (g b a) = tree a) :
    Takes s (fun j f => Changes s tree i (s.index c) j [f]) (do let b ← p; return g b) c := by
  refine (Takes.any p c).result fun j b hj _ a ha => ?_
  show Spans s i j (tree (g b a))
  rw [h]
  exact ha.of_le hj

/-- What a link or event holds. -/
theorem takes_changing {onComment onTag onField : Parser (α → α)}
    (hcomment : c.current.kind.isComment = true →
      Takes s (fun j f => Changes s tree i (s.index c) j [f]) onComment c)
    (htag : Takes s (fun j f => Changes s tree i (s.index c) j [f]) onTag c)
    (hfield : Takes s (fun j f => Changes s tree i (s.index c) j [f]) onField c) :
    Takes s (fun j f => Changes s tree i (s.index c) j [f]) (blockItem onComment onTag onField) c :=
  takes_blockItem (S := fun j f => Changes s tree i (s.index c) j [f]) (joins_changes tree i).of_le_right hcomment
    htag hfield

/-- The changes of a body, made to a node that has read its first token. -/
theorem takes_changes (tree : α → Tree) {skip : Kind → Bool} {item : Parser (List (α → α))}
    (h : ∀ d, Takes s (Changes s tree i (s.index d)) item d) :
    Takes s (fun j fs => ∀ a, (∀ k, s.index c < k → Spans s i k (tree a)) → Spans s i j (tree (applyAll fs a)))
      (braced skip item) c :=
  (takes_braced (joins_changes tree i) fun d _ => h d).mono fun _ _ ⟨_, k, hk, hfs⟩ a ha => hfs a (ha k hk)

/-- A field of a table, and what follows its name. -/
theorem takes_fieldName {γ : Type} {table : List (String × γ)} {kind : String} {f : γ → Parser (α → α)}
    (h : ∀ field d, Takes s (fun j f => Changes s tree i (s.index d) j [f]) (f field) d) :
    Takes s (fun j f => Changes s tree i (s.index c) j [f]) (fieldName table kind >>= f) c :=
  (Takes.any _ c).bind fun field d hd _ => (h field d).mono fun _ _ => (joins_changes tree i).of_le_left hd

/-- A change that puts groups of nodes in place of others. -/
theorem takes_updating {p : Parser β} {g : β → α → α} {place : α → Position} {groups : α → List (List Tree)}
    (news : β → List (List Tree)) (hp : Takes s (fun j b => ∀ ts ∈ news b, Covers s (s.index c) j ts) p c)
    (htree : ∀ a, tree a = .node (place a) (groups a))
    (h : ∀ b a, place (g b a) = place a ∧ groups (g b a) ⊆ news b ++ groups a) :
    Takes s (fun j f => Changes s tree i (s.index c) j [f]) (do let b ← p; return g b) c := by
  refine hp.result fun j b hj hb a ha => ?_
  show Spans s i j (tree (g b a))
  -- the new nodes start at the cursor, and that is behind the first token of the node that takes them up
  have hnews : ∀ ts ∈ news b, Covers s i j ts := fun ts hts => (hb ts hts).of_le_left (Nat.le_of_lt ha.lt)
  rw [htree] at ha ⊢
  rw [(h b a).1]
  exact ha.update hj hnews (h b a).2

/-- A change that puts a node in place of others. -/
theorem takes_replacing {p : Parser β} {tree' : β → Tree} {g : β → α → α} {place : α → Position}
    {groups : α → List (List Tree)} (hp : Roots s tree' p c) (htree : ∀ a, tree a = .node (place a) (groups a))
    (h : ∀ b a, place (g b a) = place a ∧ groups (g b a) ⊆ [tree' b] :: groups a) :
    Takes s (fun j f => Changes s tree i (s.index c) j [f]) (do let b ← p; return g b) c :=
  takes_updating (fun b => [[tree' b]]) (hp.covers.mono fun _ _ hb => List.forall_mem_singleton.2 hb) htree h

/-- A change that puts a list of nodes in place of others. -/
theorem takes_relisting {p : Parser (List β)} {tree' : β → Tree} {g : List β → α → α} {place : α → Position}
    {groups : α → List (List Tree)} (hp : Takes s (Lists s tree' (s.index c)) p c)
    (htree : ∀ a, tree a = .node (place a) (groups a))
    (h : ∀ bs a, place (g bs a) = place a ∧ groups (g bs a) ⊆ bs.map tree' :: groups a) :
    Takes s (fun j f => Changes s tree i (s.index c) j [f]) (do let bs ← p; return g bs) c :=
  takes_updating (fun bs => [bs.map tree']) (hp.mono fun _ _ hbs => List.forall_mem_singleton.2 hbs) htree h

/-- A change that puts a node behind others. -/
theorem takes_appending {p : Parser β} {tree' : β → Tree} {g : β → α → α} {place : α → Position}
    {groups : α → List (List Tree)} (nodes : α → List Tree) (hp : Roots s tree' p c)
    (htree : ∀ a, tree a = .node (place a) (groups a)) (hnodes : ∀ a, nodes a ∈ groups a)
    (h : ∀ b a, place (g b a) = place a ∧ groups (g b a) ⊆ (nodes a ++ [tree' b]) :: groups a) :
    Takes s (fun j f => Changes s tree i (s.index c) j [f]) (do let b ← p; return g b) c := by
  refine Takes.result hp fun j b _ hb a ha => ?_
  show Spans s i j (tree (g b a))
  rw [htree] at ha ⊢
  rw [(h b a).1]
  exact ha.extend (hnodes a) hb (h b a).2

theorem takes_diachronicField :
    Takes s (fun j f => Changes s DiachronicLink.tree i (s.index c) j [f]) diachronicField c := by
  refine takes_fieldName fun field d => ?_
  cases field with
  | predecessor => exact takes_keeping fun _ _ => rfl
  | successor => exact takes_keeping fun _ _ => rfl
  | relationshipType => exact takes_keeping fun _ _ => rfl
  | eventDate => exact takes_replacing roots_dateRange (fun _ => rfl) fun _ _ => ⟨rfl, by simp⟩
  | triggeredBy => exact takes_keeping fun _ _ => rfl

theorem roots_diachronicLink : Roots s DiachronicLink.tree diachronicLink c := by
  refine (takes_keyword _).bind fun start d _ hstart => (Takes.any _ d).bind fun label e he _ => ?_
  refine (takes_changes DiachronicLink.tree (i := s.index c) fun f => takes_single ?_).bind
    fun changes f hf hchanges => (Takes.any _ f).bind fun _ g hg _ => .ret ?_
  · refine takes_changing (fun h => ?_) ?_ takes_diachronicField
    · exact takes_appending (fun l => l.comments.map Comment.tree) (roots_comment h) (fun _ => rfl) (by simp)
        fun _ _ => ⟨rfl, by simp⟩
    · exact takes_appending (fun l => l.tags.map Tag.tree) roots_tag (fun _ => rfl) (by simp)
        fun _ _ => ⟨rfl, by simp⟩
  · exact (hchanges _ fun k hk => .bare (TokenStream.stands hstart.2) (by omega) (by simp)).of_le hg

/-- A field of one side of a synchronous link. -/
theorem takes_specField :
    Takes s (fun j f => Changes s OutletSpec.tree i (s.index c) j [f]) specField c := by
  refine takes_fieldName fun field d => ?_
  cases field with
  | id => exact takes_keeping fun _ _ => rfl
  | role => exact takes_keeping fun _ _ => rfl

theorem roots_outletSpec : Roots s OutletSpec.tree outletSpec c := by
  refine .look fun hat => ?_
  refine (takes_changes OutletSpec.tree (i := s.index c) fun d => ?_).result fun j changes _ h => ?_
  · exact takes_plainItem (joins_changes _ _) takes_specField
  · exact h _ fun k hk => .leaf (TokenStream.stands hat) hk

theorem takes_synchronousField :
    Takes s (fun j f => Changes s SynchronousLink.tree i (s.index c) j [f]) synchronousField c := by
  refine takes_fieldName fun field d => ?_
  cases field with
  | first => exact takes_replacing roots_outletSpec (fun _ => rfl) fun _ _ => ⟨rfl, by simp⟩
  | second => exact takes_replacing roots_outletSpec (fun _ => rfl) fun _ _ => ⟨rfl, by simp⟩
  | relationshipType => exact takes_keeping fun _ _ => rfl
  | periodStart => exact takes_replacing roots_date (fun _ => rfl) fun _ _ => ⟨rfl, by simp⟩
  | periodEnd => exact takes_replacing roots_date (fun _ => rfl) fun _ _ => ⟨rfl, by simp⟩
  | period =>
    -- the link keeps the dates of the period, each in its own place, and not the period
    refine takes_updating (fun r => r.tree.groups) (Takes.mono roots_dateRange fun _ _ h => h.groups) (fun _ => rfl)
      fun r _ => ⟨rfl, ?_⟩
    simp [DateRange.tree, Tree.groups]
  | details => exact takes_keeping fun _ _ => rfl
  | createdBy => exact takes_keeping fun _ _ => rfl

/-- A synchronous link, behind the keyword that starts it. -/
theorem roots_synchronousLink (hkind : c.current.kind ≠ .endOfInput) :
    Roots s SynchronousLink.tree synchronousLink c := by
  refine (takes_advance hkind).bind fun start d _ hstart => (Takes.any _ d).bind fun label e he _ => ?_
  refine (takes_changes SynchronousLink.tree (i := s.index c) fun f => takes_single ?_).bind
    fun changes f hf hchanges => (Takes.any _ f).bind fun _ g hg _ => .ret ?_
  · refine takes_changing (fun h => ?_) ?_ takes_synchronousField
    · exact takes_appending (fun l => l.comments.map Comment.tree) (roots_comment h) (fun _ => rfl) (by simp)
        fun _ _ => ⟨rfl, by simp⟩
    · exact takes_appending (fun l => l.tags.map Tag.tree) roots_tag (fun _ => rfl) (by simp)
        fun _ _ => ⟨rfl, by simp⟩
  · exact (hchanges _ fun k hk => .bare (TokenStream.stands hstart.2) (by omega) (by simp)).of_le hg

end Links

/-! ## Events and catalogs -/

section Events

variable {i : Nat}

theorem takes_entityField :
    Takes s (fun j f => Changes s EventEntity.tree i (s.index c) j [f]) entityField c := by
  refine takes_fieldName fun field d => ?_
  cases field with
  | id => exact takes_keeping fun _ _ => rfl
  | role => exact takes_keeping fun _ _ => rfl
  | stakeBefore => exact takes_keeping fun _ _ => rfl
  | stakeAfter => exact takes_keeping fun _ _ => rfl

theorem roots_eventEntity : Roots s EventEntity.tree eventEntity c := by
  refine .look fun hat => takes_name.bind fun label d _ hname => (takes_mark _).bind fun _ e _ hmark => ?_
  refine (takes_changes EventEntity.tree (i := s.index c) fun f => ?_).result fun j changes _ h => ?_
  · exact takes_separated (joins_changes _ _) takes_entityField
  · exact h _ fun k hk => .leaf (TokenStream.stands hat) (by omega)

theorem takes_eventEntities : Takes s (Lists s EventEntity.tree (s.index c)) eventEntities c :=
  (strews_braced fun _ => roots_eventEntity.separated).mono fun _ _ h => h.2

theorem takes_eventField : Takes s (fun j f => Changes s Event.tree i (s.index c) j [f]) eventField c := by
  refine takes_fieldName fun field d => ?_
  cases field with
  | type => exact takes_keeping fun _ _ => rfl
  | date => exact takes_replacing roots_date (fun _ => rfl) fun _ _ => ⟨rfl, by simp⟩
  | status => exact takes_keeping fun _ _ => rfl
  | entities => exact takes_relisting takes_eventEntities (fun _ => rfl) fun _ _ => ⟨rfl, by simp⟩
  | impact => exact takes_relisting takes_assignments (fun _ => rfl) fun _ _ => ⟨rfl, by simp⟩
  | metadata => exact takes_relisting takes_assignments (fun _ => rfl) fun _ _ => ⟨rfl, by simp⟩

theorem roots_event : Roots s Event.tree event c := by
  refine (takes_keyword _).bind fun start d _ hstart => takes_name.bind fun label e _ hname => ?_
  refine (takes_changes Event.tree (i := s.index c) fun f => takes_single ?_).bind
    fun changes f hf hchanges => (Takes.any _ f).bind fun _ g hg _ => .ret ?_
  · refine takes_changing (fun h => ?_) ?_ takes_eventField
    · exact takes_appending (fun e => e.comments.map Comment.tree) (roots_comment h) (fun _ => rfl) (by simp)
        fun _ _ => ⟨rfl, by simp⟩
    · exact takes_appending (fun e => e.tags.map Tag.tree) roots_tag (fun _ => rfl) (by simp)
        fun _ _ => ⟨rfl, by simp⟩
  · exact (hchanges _ fun k hk => .bare (TokenStream.stands hstart.2) (by omega) (by simp)).of_le hg

theorem roots_sourceField : Roots s SourceField.tree sourceField c := by
  refine .look fun hat => takes_name.bind fun label d _ hname => .sees (.ite (fun _ => ?_) (fun _ => ?_))
  · have hfields : Takes s (fun j as => s.index d < j ∧ Lists s Field.tree (s.index d) j as)
        (braced isNewline keptField) d := strews_braced fun _ => strews_keptField
    refine Takes.map (hfields.result fun j fields hj h => ?_) fun j a (h : Spans s (s.index c) j a.tree) => h
    exact .list (TokenStream.stands hat) (by omega) (Covers.of_le_left (by omega) h.2)
  · refine (Takes.any _ d).bind fun _ e he _ => Takes.result roots_expression fun j value _ hvalue => ?_
    exact .list (TokenStream.stands hat) (by have := hvalue.lt; omega) (.single hvalue (by omega))

theorem roots_source : Roots s Source.tree source c := by
  refine (takes_keyword _).bind fun start d _ hstart => (takes_string _).bind fun _ e _ hlabel => ?_
  refine (strews_braced fun f => ?_).result fun j fields hj h =>
    .list (TokenStream.stands hstart.2) (by omega) (h.2.of_le_left (by omega))
  exact strews_blockItem (fun h => (roots_comment h).strew fun _ => rfl) (roots_tag.strew fun _ => rfl)
    roots_sourceField.single

theorem roots_catalog : Roots s Catalog.tree catalog c := by
  refine (takes_keyword _).bind fun start d _ hstart => takes_name.bind fun _ e _ hname => ?_
  have hitem : ∀ f, Strews s Source.tree (do
      if ← sees (.keyword .source) then
        let s ← source
        skipSeparators
        return [s]
      else unexpected "'source' declaration") f := fun _ =>
    .sees (.ite (fun _ => roots_source.separated) (fun _ => takes_unexpected _))
  refine (strews_braced hitem).bind fun sources f hf h => (Takes.any _ f).bind fun _ g hg _ => .ret ?_
  exact .list (TokenStream.stands hstart.2) (by omega) ((Covers.of_le_left (by omega) h.2).of_le_right hg)

end Events

/-! ## Outlets, templates and families -/

section Outlets

theorem takes_outletBody : Takes s (fun j bs => s.index c < j ∧ Lists s Block.tree (s.index c) j bs) outletBody c :=
  strews_braced fun _ => roots_outletBlock.single

theorem roots_template : Roots s Template.tree template c := by
  refine (takes_keyword _).bind fun start d _ hstart => (Takes.any _ d).bind fun _ e he _ => ?_
  refine (takes_string _).bind fun _ f _ hlabel => takes_outletBody.result fun j blocks hj h => ?_
  exact .list (TokenStream.stands hstart.2) (by omega) (Covers.of_le_left (by omega) h.2)

/-- What an outlet takes over, if anything. -/
theorem takes_inheritance : Takes s (fun j i => Lists s Inheritance.tree (s.index c) j i.toList) inheritance c := by
  refine .look fun hat => (Takes.any _ c).bind fun _ d hd _ => .ite (fun _ => ?_) (fun _ => ?_)
  · refine (takes_keyword _).bind fun _ e _ he => (Takes.any _ e).result fun j _ hj _ => ?_
    exact .single (.leaf (TokenStream.stands hat) (by omega)) (Nat.le_refl _)
  · refine (Takes.any _ d).bind fun _ e he _ => .ite (fun _ => ?_) (fun _ => .ret (.nil (by omega)))
    refine (takes_number _).result fun j _ _ hj => ?_
    exact .single (.leaf (TokenStream.stands hat) (by omega)) (Nat.le_refl _)

theorem roots_outlet : Roots s Outlet.tree outlet c := by
  refine (takes_keyword _).bind fun start d _ hstart => (takes_string _).bind fun _ e _ hlabel => ?_
  refine takes_inheritance.bind fun inherited f hf hinherited => takes_outletBody.result fun j blocks hj h => ?_
  refine .node (TokenStream.stands hstart.2) (by omega)
    (List.forall_mem_cons.2 ⟨?_, List.forall_mem_singleton.2 (Covers.of_le_left (by omega) h.2)⟩)
  exact (Covers.of_le_left (by omega) hinherited).of_le_right hj

theorem roots_outletReference : Roots s OutletReference.tree outletReference c := by
  refine (takes_keyword _).bind fun start d _ hstart => (Takes.any _ d).bind fun _ e he _ => ?_
  refine (Takes.any _ e).bind fun _ f hf _ => (Takes.any _ f).bind fun _ g hg _ => ?_
  exact (Takes.any _ g).bind fun _ g' hg' _ => .ret (.leaf (TokenStream.stands hstart.2) (by omega))

theorem roots_familyMember : Roots s FamilyMember.tree familyMember c := by
  refine .look fun _ => ?_
  split
  case h_1 => exact roots_outlet.map fun _ => rfl
  case h_2 => exact roots_outletReference.map fun _ => rfl
  case h_3 => exact roots_data.map fun _ => rfl
  case h_4 => exact roots_diachronicLink.map fun _ => rfl
  case h_5 h => exact (roots_synchronousLink (by simp [h])).map fun _ => rfl
  case h_6 h => exact (roots_synchronousLink (by simp [h])).map fun _ => rfl
  case h_7 h => exact (roots_comment (by rw [h]; rfl)).map fun _ => rfl
  case h_8 h => exact (roots_comment (by rw [h]; rfl)).map fun _ => rfl
  case h_9 => exact roots_tagComment.map fun _ => rfl
  case h_10 => exact takes_unexpected _

/-- A family, behind the token that starts it. -/
theorem roots_family (hkind : c.current.kind ≠ .endOfInput) : Roots s Family.tree family c := by
  refine (takes_advance hkind).bind fun start d _ hstart => (takes_string _).bind fun _ e _ hlabel => ?_
  refine (strews_braced fun _ => roots_familyMember.single).result fun j members hj h => ?_
  exact .list (TokenStream.stands hstart.2) (by omega) (Covers.of_le_left (by omega) h.2)

end Outlets

/-! ## Statements -/

/-- A statement. -/
theorem roots_statement : Roots s Statement.tree statement c := by
  refine .look fun _ => ?_
  split
  case h_1 => exact roots_importFile.map fun _ => rfl
  case h_2 => exact roots_letVariable.map fun _ => rfl
  case h_3 => exact roots_unitDeclaration.map fun _ => rfl
  case h_4 => exact roots_vocabulary.map fun _ => rfl
  case h_5 h => exact (roots_family (by simp [h])).map fun _ => rfl
  case h_6 => exact roots_template.map fun _ => rfl
  case h_7 => exact roots_data.map fun _ => rfl
  case h_8 => exact roots_event.map fun _ => rfl
  case h_9 => exact roots_catalog.map fun _ => rfl
  case h_10 => exact roots_diachronicLink.map fun _ => rfl
  case h_11 h => exact (roots_synchronousLink (by simp [h])).map fun _ => rfl
  case h_12 h => exact (roots_synchronousLink (by simp [h])).map fun _ => rfl
  case h_13 h => exact (roots_comment (by rw [h]; rfl)).map fun _ => rfl
  case h_14 h => exact (roots_comment (by rw [h]; rfl)).map fun _ => rfl
  case h_15 => exact roots_tagComment.map fun _ => rfl
  case h_16 h =>
    refine .lookNext (.ite (fun _ => ?_) (fun _ => .ite (fun _ => ?_) (fun _ => takes_unexpected _)))
    · exact (roots_family (by simp [h])).map fun _ => rfl
    · exact roots_bareVocabulary.map fun _ => rfl
  case h_17 => exact takes_unexpected _

end Parser

end MediaLanguage
