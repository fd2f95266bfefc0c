import MediaLanguage.Proofs.Parser.Expr

/-!
# Rounds and progress

Every loop of the grammar reads a token in each round that is followed by another, so it ends without the test that
`Parser.loop` makes.

* `GrammarLoop` lists the loops of the grammar. A round of any of them reads a token, or ends its loop in front of the
  closing mark or the end (`GrammarLoop.advances`), and a loop whose rounds do is the plain repetition of its round
  (`repeats_of_advances`).
* `Cursor.skipWhile_eq` and `closeBraces_succ`: what is skipped is skipped token by token.
* `run_expressionWithin`: the bound on the depth of an expression is never met.
-/

namespace MediaLanguage

/-- A round over tokens that are skipped reads one of them. -/
theorem Cursor.skipWhile_eq (p : Kind → Bool) (c : Cursor) :
    c.skipWhile p = if c.rest ≠ [] ∧ p c.current.kind then c.advance.skipWhile p else c := by
  obtain ⟨_ | ⟨t, ts⟩, finish⟩ := c
  · simp [skipWhile]
  · simp only [skipWhile, current, peek, advance, List.dropWhile_cons]
    by_cases hp : p t.kind = true <;> simp [hp]

namespace Parser

open Ast

/-! ## Rounds -/

section Rounds

variable {α β : Type}

/-- A round of a loop over items: the closing mark or the end is there, or an item is read. -/
def itemRound (closing : Mark) (skip : Kind → Bool) (item : Parser (List β)) : Parser (List β × Bool) := do
  skipWhile skip
  if ← seesAny [.mark closing, .endOfInput] then return ([], false)
  else return (← item, true)

/-- A round of a loop over items with commas between them: another round follows a comma. -/
def commaRound (closing : Mark) (item : Parser β) : Parser (List β × Bool) := do
  skipWhile isTrivia
  if ← seesAny [.mark closing, .endOfInput] then return ([], false)
  else
    let node ← item
    skipWhile isTrivia
    return ([node], ← accept (.mark .comma))

/-- Items in braces are the loop of their rounds. -/
theorem braced_eq (skip : Kind → Bool) (item : Parser (List β)) :
    braced skip item = (do
      let _ ← mark .openBrace
      let items ← loop (itemRound .closeBrace skip item)
      let _ ← mark .closeBrace
      return items) := rfl

/-- Items with commas between them are the loop of their rounds. -/
theorem commaList_eq (closing : Mark) (item : Parser β) :
    commaList closing item = (do
      let items ← loop (commaRound closing item)
      skipWhile isTrivia
      let _ ← mark closing
      return items) := rfl

/-- A round that succeeds reads a token, or ends its loop in front of the closing mark or the end. -/
def Advances (closing : Mark) (round : Parser (List β × Bool)) : Prop :=
  ∀ c nodes more d, round c = (.ok (nodes, more), d) →
    d.rest.length < c.rest.length ∨
      more = false ∧ (d.current.kind = .mark closing ∨ d.current.kind = .endOfInput)

/-- A loop that goes on as long as its rounds tell it to. -/
def Repeats (round : Parser (List β × Bool)) : Prop :=
  ∀ c, loop round c = (do
    let (nodes, more) ← round
    if more then return nodes ++ (← loop round) else return nodes : Parser (List β)) c

/-- The test for progress in a loop is not met where every round advances. -/
theorem repeats_of_advances {closing : Mark} {round : Parser (List β × Bool)} (h : Advances closing round) :
    Repeats round := by
  intro c
  show loopFrom round c = continueWith _ (round c)
  rw [loopFrom]
  rcases hrun : round c with ⟨_ | ⟨nodes, more⟩, d⟩
  · rfl
  cases more with
  | false => simp [continueWith]; rfl
  | true =>
    have hlt : d.rest.length < c.rest.length := (h c nodes true d hrun).resolve_right (by simp)
    simp only [hlt, and_self, ↓reduceIte]
    show _ = continueWith _ (loopFrom round d)
    rcases loopFrom round d with ⟨_ | _, _⟩ <;> rfl

/-- The tests in front of an item: the loop ends, or the item is read behind what is skipped. -/
theorem run_closing {closing : Mark} {skip : Kind → Bool} {next : Parser (List β × Bool)} {c d : Cursor}
    {r : List β × Bool}
    (h : (do
      skipWhile skip
      if ← seesAny [.mark closing, .endOfInput] then return ([], false) else next : Parser (List β × Bool)) c =
        (.ok r, d)) :
    (r = ([], false) ∧ (d.current.kind = .mark closing ∨ d.current.kind = .endOfInput)) ∨
      next (c.skipWhile skip) = (.ok r, d) := by
  change (if [Kind.mark closing, .endOfInput].contains (c.skipWhile skip).current.kind then pure ([], false)
    else next : Parser (List β × Bool)) (c.skipWhile skip) = _ at h
  split at h
  · next hsees =>
    cases h
    exact .inl ⟨rfl, by simpa using hsees⟩
  · exact .inr h

/-- A round over items that are not empty. -/
theorem advances_itemRound {closing : Mark} {skip : Kind → Bool} {item : Parser (List β)}
    (h : ∀ c, Consumes item c) : Advances closing (itemRound closing skip item) := by
  intro c nodes more d hrun
  rcases run_closing hrun with ⟨hr, hend⟩ | hnext
  · cases hr
    exact .inr ⟨rfl, hend⟩
  · have hskip := (c.reaches_skipWhile skip).length_le
    have hlt := (h (c.skipWhile skip)).map (g := fun nodes => (nodes, true)) _ _ hnext
    exact .inl (by omega)

/-- A round over items that are not empty, with commas between them. -/
theorem advances_commaRound {closing : Mark} {item : Parser β} (h : ∀ c, Consumes item c) :
    Advances closing (commaRound closing item) := by
  intro c nodes more d hrun
  rcases run_closing hrun with ⟨hr, hend⟩ | hnext
  · cases hr
    exact .inr ⟨rfl, hend⟩
  · have hskip := (c.reaches_skipWhile isTrivia).length_le
    have hlt := (h (c.skipWhile isTrivia)).bind _ _ hnext
    exact .inl (by omega)

end Rounds

/-! ## Items -/

section Items

variable {α : Type} {c : Cursor}

/-- A result in brackets changes nothing about what is read. -/
theorem Consumes.single {p : Parser α} (h : Consumes p c) : Consumes (do return [← p]) c :=
  h.bind

/-- A token is read where a comment stands. -/
theorem Consumes.of_comment {f : Token → Parser α} (h : c.current.kind.isComment = true) :
    Consumes (advance >>= f) c := by
  apply Consumes.of_advance
  intro hend
  rw [hend] at h
  cases h

theorem consumes_comment (h : c.current.kind.isComment = true) : Consumes comment c :=
  .of_comment h

theorem consumes_tagComment : Consumes tagComment c :=
  consumes_tag.bind

/-- An item of a block is not empty if its field is not. -/
theorem consumes_blockItem {onComment onTag onField : Parser α}
    (hcomment : c.current.kind.isComment = true → Consumes onComment c) (htag : Consumes onTag c)
    (hfield : Consumes onField c) : Consumes (blockItem onComment onTag onField) c := by
  apply consumes_current
  dsimp only
  split
  · next h => exact hcomment h
  split
  · exact htag.bind
  · exact hfield.bind

theorem consumes_plainItem {field : Parser α} (h : Consumes field c) : Consumes (plainItem field) c :=
  consumes_blockItem .of_comment consumes_tag.bind h.single

/-- A block that keeps comments, and annotations as comments. -/
theorem consumes_commentedItem {field : Parser (List α)} {keep : Comment → α} (h : Consumes field c) :
    Consumes (blockItem (do return [keep (← comment)]) (do return [keep (← tagComment)]) field) c :=
  consumes_blockItem (fun hcomment => (consumes_comment hcomment).bind) consumes_tagComment.bind h

theorem consumes_untaggedItem {field : Parser α} {after : Parser Unit} (h : Consumes field c) :
    Consumes (untaggedItem field after) c := by
  apply consumes_bind_of_next
  intro b d hrun
  rw [run_sees] at hrun
  cases hrun
  split
  · exact consumes_tag.bind.bind
  · exact h.bind

/-- A field that has a name is not empty. -/
theorem consumes_named {β : Type} {f : Token → String → Parser β} :
    Consumes (do let token ← current; let label ← name; f token label) c :=
  consumes_current consumes_name.bind

theorem consumes_object : Consumes object c := by
  intro o d hrun
  rw [Pairing.run_object] at hrun
  exact consumes_objectOf _ o d hrun

theorem consumes_fieldName (table : List (String × α)) (kind : String) : Consumes (fieldName table kind) c := by
  apply consumes_current
  split
  · next h =>
    split
    · apply Consumes.of_advance
      intro hend
      simp [hend, Kind.isKeyword] at h
    · intro _ _ hrun
      cases hrun
  · exact consumes_unexpected _

theorem consumes_vocabularyEntry : Consumes vocabularyEntry c := by
  apply consumes_current
  apply Consumes.bind
  apply consumes_current
  split
  · next h => exact .of_advance (by simp [Token.kind, h, Lexeme.kind])
  · next h => exact .of_advance (by simp [Token.kind, h, Lexeme.kind])
  · exact consumes_unexpected _

theorem consumes_lifecycleAttribute : Consumes lifecycleAttribute c := by
  apply consumes_current
  dsimp only
  split
  · next h => exact (consumes_comment h).map.bind
  split
  · exact consumes_tagComment.map.bind
  · exact consumes_named.map.bind

theorem consumes_yearField : Consumes yearField c := by
  apply consumes_current
  split
  · exact (consumes_keyword _).bind.map
  split
  · next h =>
    apply Consumes.of_advance
    intro hend
    simp [hend] at h
  · exact consumes_unexpected _

theorem consumes_dataField : Consumes dataField c := by
  apply consumes_current
  split
  · exact (consumes_keyword _).bind.map
  · exact (consumes_keyword _).bind.map
  · exact consumes_unexpected _

theorem consumes_outletBlock : Consumes outletBlock c := by
  apply consumes_current
  split
  case h_1 h => exact (consumes_comment (by rw [h]; rfl)).map
  case h_2 h => exact (consumes_comment (by rw [h]; rfl)).map
  case h_3 => exact consumes_tagComment.map
  case h_4 => exact (consumes_keyword _).bind.map
  case h_5 => exact (consumes_keyword _).bind.map
  case h_6 => exact (consumes_keyword _).bind.map
  case h_7 => exact (consumes_keyword _).bind.map
  case h_8 =>
    apply consumes_bind_of_next
    intro t d hrun
    cases hrun
    split
    · exact consumes_named.bind
    · exact consumes_unexpected _

theorem consumes_familyMember : Consumes familyMember c := by
  apply consumes_current
  split
  case h_1 => exact (consumes_keyword _).bind.map
  case h_2 => exact (consumes_keyword _).bind.map
  case h_3 => exact (consumes_keyword _).bind.map
  case h_4 => exact (consumes_keyword _).bind.map
  case h_5 h => exact (Consumes.of_advance (by rw [h]; exact nofun)).map
  case h_6 h => exact (Consumes.of_advance (by rw [h]; exact nofun)).map
  case h_7 h => exact (consumes_comment (by rw [h]; rfl)).map
  case h_8 h => exact (consumes_comment (by rw [h]; rfl)).map
  case h_9 => exact consumes_tagComment.map
  case h_10 => exact consumes_unexpected _

end Items

/-! ## The loops of the grammar -/

/-- The bodies in braces of the grammar, by the productions that read them. -/
inductive GrammarBody : {β : Type} → (Kind → Bool) → Parser (List β) → Prop
  | objectOf (depth : Nat) :
      GrammarBody isTrivia (do let m ← member (expressionWithin depth); skipSeparators; return [m])
  | assignments : GrammarBody isTrivia (do let a ← assignment; skipSeparators; return [a])
  | unitDeclaration : GrammarBody isTrivia (untaggedItem unitField skipCommas)
  | vocabularyBody : GrammarBody isTrivia (untaggedItem vocabularyEntry skipComma)
  | vocabulary : GrammarBody isTrivia (untaggedItem vocabularyBody skipComma)
  | identityBlock :
      GrammarBody isNewline <|
        blockItem (do return [.comment (← comment)]) (do return [.comment (← tagComment)])
          (do return [← identityField])
  | lifecycleEntry : GrammarBody isNewline (do return [← lifecycleAttribute])
  | lifecycleBlock : GrammarBody isTrivia (untaggedItem lifecycleEntry skipSeparators)
  | characteristicsBlock :
      GrammarBody isNewline <|
        blockItem (do return [.comment (← comment)]) (do return [.comment (← tagComment)])
          (do return (← characteristic).toList.map Field.assignment)
  /-- The fields of metadata and of a nested assignment. -/
  | keptFields : GrammarBody isNewline keptField
  | aggregation : GrammarBody isNewline (plainItem aggregationField)
  | metric : GrammarBody isNewline (plainItem assignment)
  | metrics : GrammarBody isNewline (plainItem metric)
  | year :
      GrammarBody isNewline <|
        blockItem (do return [.comment (← comment)]) (do return [.comment (← tagComment)]) (do return [← yearField])
  | data :
      GrammarBody isNewline <|
        blockItem (do return [.comment (← comment)]) (do return [.tag (← tag)]) (do return [← dataField])
  | diachronicLink : GrammarBody isNewline (do return [← diachronicItem])
  | outletSpec : GrammarBody isNewline (plainItem specField)
  | synchronousLink : GrammarBody isNewline (do return [← synchronousItem])
  | eventEntity : GrammarBody isTrivia (do let change ← entityField; skipSeparators; return [change])
  | eventEntities : GrammarBody isTrivia (do let entity ← eventEntity; skipSeparators; return [entity])
  | event : GrammarBody isNewline (do return [← eventItem])
  | source :
      GrammarBody isNewline <|
        blockItem (do return [.comment (← comment)]) (do return [.tag (← tag)]) (do return [← sourceField])
  | catalog :
      GrammarBody isTrivia do
        if ← sees (.keyword .source) then
          let s ← source
          skipSeparators
          return [s]
        else unexpected "'source' declaration"
  | outletBody : GrammarBody isDivider (do return [← outletBlock])
  | family : GrammarBody isDivider (do return [← familyMember])

/-- The loops of the grammar, by their rounds and the mark that ends them. -/
inductive GrammarLoop : {β : Type} → Mark → Parser (List β × Bool) → Prop
  | body {β : Type} {skip : Kind → Bool} {item : Parser (List β)} :
      GrammarBody skip item → GrammarLoop .closeBrace (itemRound .closeBrace skip item)
  /-- The values of a category. -/
  | category : GrammarLoop .closeParen (commaRound .closeParen (string "category value"))
  /-- The objects of an identity field. -/
  | identityArray : GrammarLoop .closeBracket (commaRound .closeBracket object)

/-- No item of the grammar is empty. -/
theorem GrammarBody.consumes {β : Type} {skip : Kind → Bool} {item : Parser (List β)} (h : GrammarBody skip item)
    (c : Cursor) : Consumes item c := by
  cases h with
  | objectOf depth => exact consumes_named.bind
  | assignments => exact consumes_named.bind
  | unitDeclaration => exact consumes_untaggedItem consumes_named
  | vocabularyBody => exact consumes_untaggedItem consumes_vocabularyEntry
  | vocabulary => exact consumes_untaggedItem consumes_vocabularyBody
  | identityBlock => exact consumes_commentedItem consumes_named.single
  | lifecycleEntry => exact consumes_lifecycleAttribute.single
  | lifecycleBlock => exact consumes_untaggedItem (consumes_keyword _).bind
  | characteristicsBlock => exact consumes_commentedItem consumes_named.bind
  | keptFields => exact consumes_commentedItem consumes_named.bind
  | aggregation => exact consumes_plainItem consumes_named.bind
  | metric => exact consumes_plainItem consumes_named
  | metrics => exact consumes_plainItem consumes_named
  | year => exact consumes_commentedItem consumes_yearField.single
  | data =>
    exact consumes_blockItem (fun h => (consumes_comment h).bind) consumes_tag.bind consumes_dataField.single
  | diachronicLink =>
    exact (consumes_blockItem (fun h => (consumes_comment h).bind) consumes_tag.bind
      (consumes_fieldName _ _).bind).single
  | outletSpec => exact consumes_plainItem (consumes_fieldName _ _).bind
  | synchronousLink =>
    exact (consumes_blockItem (fun h => (consumes_comment h).bind) consumes_tag.bind
      (consumes_fieldName _ _).bind).single
  | eventEntity => exact (consumes_fieldName _ _).bind.bind
  | eventEntities => exact consumes_named.bind
  | event =>
    exact (consumes_blockItem (fun h => (consumes_comment h).bind) consumes_tag.bind
      (consumes_fieldName _ _).bind).single
  | source =>
    exact consumes_blockItem (fun h => (consumes_comment h).bind) consumes_tag.bind consumes_named.single
  | catalog =>
    apply consumes_bind_of_next
    intro b d hrun
    split
    · exact (consumes_keyword _).bind.bind
    · exact consumes_unexpected _
  | outletBody => exact consumes_outletBlock.single
  | family => exact consumes_familyMember.single

/-- Every round of the grammar advances. -/
theorem GrammarLoop.advances {β : Type} {closing : Mark} {round : Parser (List β × Bool)}
    (h : GrammarLoop closing round) : Advances closing round := by
  cases h with
  | body h => exact advances_itemRound h.consumes
  | category => exact advances_commaRound fun _ => consumes_string _
  | identityArray => exact advances_commaRound fun _ => consumes_object

/-! ## Skipping -/

/-- A round over a body that is skipped reads one token. -/
theorem closeBraces_succ (depth : Nat) {c : Cursor} (h : c.rest ≠ []) :
    ∃ depth', closeBraces (depth + 1) c = closeBraces depth' c.advance := by
  obtain ⟨_ | ⟨t, ts⟩, finish⟩ := c
  · exact absurd rfl h
  · simp only [closeBraces, Cursor.advance, List.tail_cons]
    rw [afterBraces]
    split
    · exact ⟨depth + 2, rfl⟩
    · exact ⟨depth, rfl⟩
    · exact ⟨depth + 1, rfl⟩

/-! ## The depth of expressions -/

section Depth

variable {α β : Type} {c : Cursor}

/-- Sequences that go on alike behind their first part. -/
theorem run_bind_congr {p : Parser α} {f g : α → Parser β} (h : ∀ a d, p c = (.ok a, d) → f a d = g a d) :
    (p >>= f) c = (p >>= g) c := by
  show continueWith f (p c) = continueWith g (p c)
  rcases hrun : p c with ⟨_ | a, d⟩
  · rfl
  · exact h a d hrun

theorem run_bind_congr_left {p q : Parser α} {f : α → Parser β} (h : p c = q c) : (p >>= f) c = (q >>= f) c := by
  show continueWith f (p c) = continueWith f (q c)
  rw [h]

/-- A cursor behind a production. -/
theorem reaches_of_run {p : Parser α} {r : Except Failure α} {d : Cursor} (h : p c = (r, d)) : c.Reaches d := by
  have hforward := p.forward c
  rwa [h] at hforward

/-- Rounds that agree at every cursor that is reached make the same loop. -/
theorem loopFrom_congr {round round' : Parser (List β × Bool)} (h : ∀ d, c.Reaches d → round d = round' d) :
    loopFrom round c = loopFrom round' c := by
  induction hlen : c.rest.length using Nat.strong_induction_on generalizing c with
  | _ n ih =>
    subst hlen
    rw [loopFrom, loopFrom.eq_1 round', ← h c (.refl c)]
    rcases hrun : round c with ⟨_ | ⟨nodes, more⟩, d⟩
    · rfl
    by_cases hgo : more = true ∧ d.rest.length < c.rest.length
    · have hlater := ih d.rest.length hgo.2 (fun e he => h e ((reaches_of_run hrun).trans he)) rfl
      simp only [hgo, and_self, ↓reduceIte, hlater]
    · simp only [hgo, ↓reduceIte]

/-- Items that agree behind the opening brace make the same body. -/
theorem braced_congr {skip : Kind → Bool} {item item' : Parser (List β)}
    (h : ∀ d, d.rest.length < c.rest.length → item d = item' d) : braced skip item c = braced skip item' c := by
  rw [braced_eq, braced_eq]
  refine run_bind_congr fun t d hrun => run_bind_congr_left (loopFrom_congr fun e he => ?_)
  have hlt := consumes_mark .openBrace t d hrun
  have hle := he.length_le
  refine run_bind_congr fun _ e' hskip => run_bind_congr fun b e'' hsees => ?_
  have hle' := (reaches_of_run hskip).length_le
  have hle'' := (reaches_of_run hsees).length_le
  split
  · rfl
  · exact run_bind_congr_left (h e'' (by omega))

/-- Values that agree at every cursor that is reached make the same member. -/
theorem member_congr {value value' : Parser Expr} (h : ∀ d, c.Reaches d → value d = value' d) :
    member value c = member value' c := by
  refine run_bind_congr fun _ d hd => run_bind_congr fun _ d' hd' => run_bind_congr fun _ e he =>
    run_bind_congr fun _ e' he' => run_bind_congr fun _ e'' he'' => ?_
  have hreaches : c.Reaches e'' :=
    (((reaches_of_run hd).trans (reaches_of_run hd')).trans (reaches_of_run he)).trans
      ((reaches_of_run he').trans (reaches_of_run he''))
  split
  · rfl
  · exact run_bind_congr_left (h e'' hreaches)

/-- Values that agree behind the opening brace make the same object. -/
theorem objectOf_congr {value value' : Parser Expr} (h : ∀ d, d.rest.length < c.rest.length → value d = value' d) :
    objectOf value c = objectOf value' c := by
  refine run_bind_congr fun _ d hd => run_bind_congr_left (braced_congr fun e he => run_bind_congr_left ?_)
  cases hd
  exact member_congr fun e' he' => h e' (Nat.lt_of_le_of_lt he'.length_le he)

/-- Bounds above the number of tokens read the same. The induction is on the first bound; a deeper expression stands
behind an opening brace, where the bound and the number of tokens are both smaller. -/
theorem expressionWithin_congr {n m : Nat} (hn : c.rest.length < n) (hm : c.rest.length < m) :
    expressionWithin n c = expressionWithin m c := by
  induction n generalizing m c with
  | zero => exact absurd hn (Nat.not_lt_zero _)
  | succ n ih =>
    obtain ⟨m, rfl⟩ : ∃ k, m = k + 1 := ⟨m - 1, by omega⟩
    rw [expressionWithin, expressionWithin]
    refine run_bind_congr fun t d hd => ?_
    cases hd
    split
    case h_5 => exact run_bind_congr_left (objectOf_congr fun e he => ih (by omega) (by omega))
    all_goals rfl

/-- The bound on the depth of an expression is never met. -/
theorem run_expressionWithin {n : Nat} (h : c.rest.length < n) : expressionWithin n c = expression c :=
  expressionWithin_congr h (Nat.lt_succ_self _)

end Depth

end Parser

end MediaLanguage
