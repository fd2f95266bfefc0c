import MediaLanguage.Proofs.Parser.Foresight
import MediaLanguage.Proofs.Parser.Sites

/-!
# What a run makes of a part

A production that comes to a part of a text goes on with what the part gives, and with nothing else of it. `Descends`
says this of two productions, whatever the text is from the part on: only the token is fixed that the part starts with,
since productions look ahead to it (`Shortsighted`). Its rules follow the sequences of the grammar.

* `Shortsighted.of_sim`: productions that do the same side by side look ahead to one token only.
* `descends_family`, `descends_template`, `descends_outlet`, `descends_outletBlock`: a production comes to the body
  behind its head.
* `descends_characteristicItem`, `descends_familyMember_reference`: an item comes to a body that is skipped.
* `Descends.items`: a body in braces comes to the item that a run over it comes to.
-/

open MediaLanguage.Ast MediaLanguage.Parser

namespace MediaLanguage

/-- Tokens that are alike in texts that are compared as they are, are the same. -/
theorem Pairing.eq_of_same_alike {after after' : Cursor} {heads : after.current.kind = after'.current.kind}
    {t t' : Token} (h : (same after after' heads).Alike t t') : t = t' := by
  have hunexpected : GrammarCause.unexpectedToken t.text [] = .unexpectedToken t'.text [] := h.unexpected []
  obtain ⟨lexeme, text, position⟩ := t
  exact congr (congr (congrArg Token.mk h.lexeme) (GrammarCause.unexpectedToken.inj hunexpected).1) h.place

/-! ## Looking ahead -/

namespace Pairing

variable {P : Pairing} {c c' : Cursor}

/-- An item among characteristics. -/
theorem sim_characteristicItem (h : P.Beside c c') :
    P.Sim .within (List.Forall₂ (P.Same Field.view)) characteristicItem characteristicItem c c' := by
  refine sim_commentedItem h (fun _ _ hnode => congrArg Field.comment hnode) ?_
  refine (sim_characteristic h).bind fun a b _ _ hnode h => .pure h ?_
  cases Same.rel hnode with
  | none => exact .nil
  | some hassignment => exact .cons (congrArg Field.assignment hassignment) .nil

end Pairing

namespace Parser

variable {α β γ : Type} {p : Parser α} {q : Parser β} {r : Parser γ}

/-- In front of a token a production reads the same tokens and gives the same, whatever stands behind that token. -/
def Shortsighted (p : Parser α) : Prop :=
  ∀ (ts us : List Token) (a : α) (d d' : Cursor), us ≠ [] → d'.current = d.current →
    p (d.prepend ts) = (.ok a, d.prepend us) → p (d'.prepend ts) = (.ok a, d'.prepend us)

/-- A production that does the same side by side is shortsighted. -/
theorem Shortsighted.of_sim {R : Pairing → α → α → Prop} (hR : ∀ after after' heads a b,
      R (.same after after' heads) a b → a = b)
    (h : ∀ (P : Pairing) (c c' : Cursor), P.Beside c c' → c.rest ≠ [] → P.Sim .within (R P) p p c c') :
    Shortsighted p := by
  intro ts us a d d' hus hcurrent hrun
  let P : Pairing := .same d d' (congrArg Token.kind hcurrent.symm)
  have hbeside : P.Beside (d.prepend ts) (d'.prepend ts) :=
    ⟨ts, ts, List.forall₂_same.2 fun t _ => Pairing.same_alike t, rfl, rfl⟩
  have hlt : d.rest.length < (d.prepend us).rest.length := by
    have hpos := List.length_pos_iff.2 hus
    rw [Cursor.length_prepend]
    omega
  have hrest : (d.prepend ts).rest ≠ [] :=
    List.length_pos_iff.1 (Nat.lt_of_lt_of_le (Nat.zero_lt_of_lt hlt) (reaches_of_run hrun).length_le)
  -- The run stops in front of `d`, so it stays inside the tokens that both cursors have in front of them.
  have hsim := h P _ _ hbeside hrest
  unfold Pairing.Sim at hsim
  rw [hrun] at hsim
  obtain ⟨houtcome, own, own', halike, hown, hown'⟩ := hsim (.inl (.inr hlt))
  obtain ⟨_, hok, hab⟩ := houtcome.of_ok
  obtain rfl := hR _ _ _ _ _ hab
  obtain rfl : us = own := Cursor.prepend_inj.1 hown
  obtain rfl : us = own' := by
    rw [← List.forall₂_eq_eq_eq]
    exact halike.imp fun _ _ => Pairing.eq_of_same_alike
  exact Prod.ext hok hown'

/-- A statement is shortsighted. -/
theorem shortsighted_statement : Shortsighted statement :=
  .of_sim (R := fun P => P.Same Statement.view) (fun _ _ _ _ _ h => by simpa [Pairing.Same, Pairing.same] using h)
    fun _ _ _ h hrest => Pairing.sim_statement h hrest

/-- A production that gives a list of nodes is shortsighted, if it does the same side by side. -/
theorem Shortsighted.of_sim_list {item : Parser (List α)} {view : View → α → α} (hview : view .plain = id)
    (h : ∀ (P : Pairing) (c c' : Cursor), P.Beside c c' → P.Sim .within (List.Forall₂ (P.Same view)) item item c c') :
    Shortsighted item :=
  .of_sim (R := fun P => List.Forall₂ (P.Same view))
    (fun _ _ _ _ _ h => by simpa [Pairing.same, hview] using Pairing.Same.map_eq h) fun P c c' h' _ => h P c c' h'

/-- A member of a family is shortsighted. -/
theorem shortsighted_familyMember : Shortsighted (do return [← familyMember]) :=
  .of_sim_list FamilyMember.view_plain fun _ _ _ h => (Pairing.sim_familyMember h).single fun _ _ hnode => hnode

/-- A block of an outlet or template is shortsighted. -/
theorem shortsighted_outletBlock : Shortsighted (do return [← outletBlock]) :=
  .of_sim_list Block.view_plain fun _ _ _ h => (Pairing.sim_outletBlock h).single fun _ _ hnode => hnode

/-- An item among characteristics is shortsighted. -/
theorem shortsighted_characteristicItem : Shortsighted characteristicItem :=
  .of_sim_list Field.view_plain fun _ _ _ h => Pairing.sim_characteristicItem h

/-! ## Descending -/

/-- A string literal is read where it stands. -/
theorem exists_string {u : Token} (hu : u.kind = .string) (expected : String) (ts : List Token) :
    ∃ value, ∀ d : Cursor, string expected (d.prepend (u :: ts)) = (.ok value, d.prepend ts) := by
  obtain ⟨lexeme, text, position⟩ := u
  cases lexeme <;> cases hu
  exact ⟨_, fun _ => rfl⟩

/-- A number is read where it stands. -/
theorem exists_number {u : Token} (hu : u.kind = .number) (expected : String) (ts : List Token) :
    ∃ value, ∀ d : Cursor, number expected (d.prepend (u :: ts)) = (.ok value, d.prepend ts) := by
  obtain ⟨lexeme, text, position⟩ := u
  cases lexeme <;> cases hu
  exact ⟨_, fun _ => rfl⟩

/-- In front of `ts`, `p` comes to `q` in front of `us`, and goes on with what `q` gives there in a way that does not
depend on what stands behind, as long as it starts with the token `t`. -/
def Descends (t : Token) (p : Parser α) (ts : List Token) (q : Parser β) (us : List Token) : Prop :=
  ∃ next : β → Parser α, ∀ d : Cursor, d.current = t → p (d.prepend ts) = continueWith next (q (d.prepend us))

namespace Descends

variable {t : Token} {ts us vs : List Token}

/-- A production comes to itself. -/
theorem refl : Descends t p ts p ts := by
  refine ⟨pure, fun d _ => ?_⟩
  rcases p (d.prepend ts) with ⟨_ | _, _⟩ <;> rfl

/-- Productions are come to one after the other. -/
theorem trans (h : Descends t p ts q us) (h' : Descends t q us r vs) : Descends t p ts r vs := by
  obtain ⟨next, hnext⟩ := h
  obtain ⟨next', hnext'⟩ := h'
  refine ⟨fun c => next' c >>= next, fun d hd => ?_⟩
  rw [hnext d hd, hnext' d hd]
  rcases r (d.prepend vs) with ⟨_ | _, _⟩ <;> rfl

/-- A sequence comes to its first part. -/
theorem left {f : α → Parser β} : Descends t (p >>= f) ts p ts :=
  ⟨f, fun _ _ => rfl⟩

/-- A sequence comes to what follows its first part. -/
theorem right {f : α → Parser β} {a : α}
    (h : ∀ d : Cursor, d.current = t → p (d.prepend ts) = (.ok a, d.prepend us)) :
    Descends t (p >>= f) ts (f a) us := by
  obtain ⟨next, hnext⟩ : Descends t (f a) us (f a) us := refl
  refine ⟨next, fun d hd => ?_⟩
  show continueWith f (p (d.prepend ts)) = _
  rw [h d hd]
  exact hnext d hd

/-- Productions that do the same come to the same. -/
theorem of_eq {γ : Type} {q : Parser α} {r : Parser γ}
    (h : ∀ d : Cursor, d.current = t → p (d.prepend ts) = q (d.prepend us)) (hq : Descends t q us r vs) :
    Descends t p ts r vs := by
  obtain ⟨next, hnext⟩ := hq
  exact ⟨next, fun d hd => (h d hd).trans (hnext d hd)⟩

/-! ### Steps -/

section Steps

variable {u : Token} {f : Token → Parser β}

/-- Behind a token that is read. -/
theorem advance : Descends t (Parser.advance >>= f) (u :: ts) (f u) ts :=
  right fun _ _ => rfl

/-- At a token that is looked at. -/
theorem look : Descends t (current >>= f) (u :: ts) (f u) (u :: ts) :=
  right fun _ _ => rfl

/-- At the token of the place, if it is looked at. -/
theorem look_place : Descends t (current >>= f) [] (f t) [] := by
  refine of_eq (q := f t) (fun d hd => ?_) refl
  show f d.current d = _
  rw [hd]
  rfl

/-- Behind a mark that is asked for. -/
theorem mark {m : Mark} (hu : u.kind = .mark m) : Descends t (Parser.mark m >>= f) (u :: ts) (f u) ts :=
  right fun d _ => run_mark_ok.2 ⟨hu, by simp⟩

/-- Behind a keyword that is asked for. -/
theorem keyword {w : Keyword} (hu : u.kind = .keyword w) : Descends t (Parser.keyword w >>= f) (u :: ts) (f u) ts :=
  right fun d _ => (run_expectAs_ok (by simp) _).2 ⟨hu, by simp⟩

/-- Behind a name. -/
theorem name {f : String → Parser β} (hu : u.IsName) : Descends t (Parser.name >>= f) (u :: ts) (f u.text) ts :=
  right fun d _ => run_name_ok.2 ⟨u, hu, rfl, by simp⟩

/-- Behind a string literal. -/
theorem string {f : String → Parser β} {expected : String} (hu : u.kind = .string) :
    ∃ value, Descends t (Parser.string expected >>= f) (u :: ts) (f value) ts := by
  obtain ⟨value, hvalue⟩ := exists_string hu expected ts
  exact ⟨value, right fun d _ => hvalue d⟩

/-- Behind a number. -/
theorem number {f : Number → Parser β} {expected : String} (hu : u.kind = .number) :
    ∃ value, Descends t (Parser.number expected >>= f) (u :: ts) (f value) ts := by
  obtain ⟨value, hvalue⟩ := exists_number hu expected ts
  exact ⟨value, right fun d _ => hvalue d⟩

/-- A body in braces comes to its items. -/
theorem braced {skip : Kind → Bool} {item : Parser (List α)} (hu : u.kind = .mark .openBrace) :
    Descends t (Parser.braced skip item) (u :: ts) (loop (itemRound .closeBrace skip item)) ts := by
  rw [braced_eq]
  exact (mark hu).trans left

end Steps

end Descends

/-! ## Productions -/

section Productions

variable {t : Token} {ts head : List Token}

/-- A family comes to its members. -/
theorem descends_family (h : FamilyHead head) :
    Descends t family (head ++ ts) (loop (itemRound .closeBrace isDivider (do return [← familyMember]))) ts := by
  cases h with
  | intro _ hlabel hopening =>
    obtain ⟨value, hstring⟩ := Descends.string (t := t) hlabel
    exact Descends.advance.trans (hstring.trans (Descends.left.trans (.braced hopening)))

/-- A statement comes to the family that it is. -/
theorem descends_statement_family (h : FamilyHead head) :
    Descends t statement (head ++ ts) family (head ++ ts) := by
  cases h with
  | @intro word label opening hword hlabel =>
    refine .of_eq (q := Statement.family <$> family) (fun d _ => ?_) .left
    show statement (d.prepend (word :: label :: opening :: ts)) = _
    rw [statement, run_current_bind, Cursor.current_prepend_cons]
    obtain hword | ⟨hword, hgroup⟩ := hword
    · rw [hword]
      rfl
    · rw [hword]
      simp only [run_next_bind, Cursor.advance_prepend_cons, Cursor.current_prepend_cons, hgroup, hlabel]
      rfl

/-- The type of a template is read up to its name. -/
theorem exists_templateType {type : List Token} {label : Token} (h : TypePart type) (hlabel : label.kind = .string)
    (ts : List Token) :
    ∃ name, ∀ d : Cursor, templateType (d.prepend (type ++ label :: ts)) = (.ok name, d.prepend (label :: ts)) := by
  cases h with
  | nothing =>
    refine ⟨"OUTLET", fun d => ?_⟩
    rw [templateType, run_current_bind, List.nil_append, Cursor.current_prepend_cons, hlabel]
    rfl
  | @keyword word w hword =>
    refine ⟨Text.upper w.spelling, fun d => ?_⟩
    rw [templateType, run_current_bind, List.cons_append, Cursor.current_prepend_cons, hword]
    rfl

/-- A template comes to its blocks. -/
theorem descends_template (h : TemplateHead head) :
    Descends t template (head ++ ts) (loop (itemRound .closeBrace isDivider (do return [← outletBlock]))) ts := by
  cases h with
  | @intro word label opening type hword htype hlabel hopening =>
    obtain ⟨name, hname⟩ := exists_templateType htype hlabel (opening :: ts)
    obtain ⟨value, hstring⟩ := Descends.string (t := t) hlabel
    simp only [List.cons_append, List.append_assoc, List.nil_append]
    exact (Descends.keyword hword).trans ((Descends.right fun d _ => hname d).trans
      (hstring.trans (Descends.left.trans (.braced hopening))))

/-- A statement comes to the template that it is. -/
theorem descends_statement_template (h : TemplateHead head) :
    Descends t statement (head ++ ts) template (head ++ ts) := by
  cases h with
  | intro hword =>
    refine .of_eq (q := Statement.template <$> template) (fun d _ => ?_) .left
    rw [List.cons_append, statement, run_current_bind, Cursor.current_prepend_cons, hword]

/-- What an outlet takes over is read up to the opening brace. -/
theorem exists_inheritance {inherited : List Token} {opening : Token} (h : InheritancePart inherited)
    (hopening : opening.kind = .mark .openBrace) (ts : List Token) :
    ∃ i, ∀ d : Cursor, inheritance (d.prepend (inherited ++ opening :: ts)) = (.ok i, d.prepend (opening :: ts)) := by
  cases h with
  | nothing =>
    refine ⟨none, fun d => ?_⟩
    rw [inheritance, run_current_bind, List.nil_append, run_accept_bind, Cursor.current_prepend_cons, hopening]
    show (accept (.keyword .basedOn) >>= _) _ = _
    rw [run_accept_bind, Cursor.current_prepend_cons, hopening]
    rfl
  | @template extending word label hextending hword hlabel =>
    obtain ⟨name, hname⟩ := exists_string hlabel "template name" (opening :: ts)
    refine ⟨some (.template name extending.position), fun d => ?_⟩
    rw [inheritance, run_current_bind, List.cons_append, run_accept_bind, Cursor.current_prepend_cons,
      if_pos (beq_iff_eq.2 hextending)]
    show (keyword .template >>= _) (d.prepend (word :: label :: opening :: ts)) = _
    rw [run_bind_ok]
    refine ⟨word, d.prepend (label :: opening :: ts), (run_expectAs_ok (by simp) _).2 ⟨hword, by simp⟩, ?_⟩
    exact run_bind_ok.2 ⟨name, _, hname d, rfl⟩
  | @outlet basedOn id hbasedOn hid =>
    obtain ⟨number, hnumber⟩ := exists_number hid "outlet id" (opening :: ts)
    refine ⟨some (.outlet number basedOn.position), fun d => ?_⟩
    rw [inheritance, run_current_bind, List.cons_append, run_accept_bind, Cursor.current_prepend_cons, hbasedOn]
    show (accept (.keyword .basedOn) >>= _) (d.prepend (basedOn :: id :: opening :: ts)) = _
    rw [run_accept_bind, Cursor.current_prepend_cons, if_pos (beq_iff_eq.2 hbasedOn)]
    exact run_bind_ok.2 ⟨number, _, hnumber d, rfl⟩

/-- An outlet comes to its blocks. -/
theorem descends_outlet (h : OutletHead head) :
    Descends t outlet (head ++ ts) (loop (itemRound .closeBrace isDivider (do return [← outletBlock]))) ts := by
  cases h with
  | @intro word label opening inherited hword hlabel hinherited hopening =>
    obtain ⟨value, hstring⟩ := Descends.string (t := t) hlabel
    obtain ⟨i, hi⟩ := exists_inheritance hinherited hopening ts
    simp only [List.cons_append, List.append_assoc, List.nil_append]
    exact (Descends.keyword hword).trans (hstring.trans
      ((Descends.right fun d _ => hi d).trans (Descends.left.trans (.braced hopening))))

/-- A member of a family comes to the outlet that it is. -/
theorem descends_familyMember_outlet (h : OutletHead head) :
    Descends t (do return [← familyMember]) (head ++ ts) outlet (head ++ ts) := by
  cases h with
  | intro hword =>
    refine Descends.left.trans (.of_eq (q := FamilyMember.outlet <$> outlet) (fun d _ => ?_) .left)
    rw [List.cons_append, familyMember, run_current_bind, Cursor.current_prepend_cons, hword]

/-- A block comes to the characteristics that it holds. -/
theorem descends_outletBlock (h : CharacteristicsHead head) :
    Descends t (do return [← outletBlock]) (head ++ ts) (loop (itemRound .closeBrace isNewline characteristicItem))
      ts := by
  cases h with
  | @intro word opening hword hopening =>
    have hblock : Descends t outletBlock (word :: opening :: ts) characteristicsBlock (word :: opening :: ts) := by
      refine .of_eq (q := Block.characteristics <$> characteristicsBlock) (fun d _ => ?_) .left
      rw [outletBlock, run_current_bind, Cursor.current_prepend_cons, hword]
    exact Descends.left.trans (hblock.trans ((Descends.keyword hword).trans (Descends.left.trans (.braced hopening))))

/-! ## Bodies that are skipped -/

/-- A body is skipped, if it is there. -/
theorem descends_skipBracesIfAny (ht : t.kind = .mark .openBrace) : Descends t skipBracesIfAny [] skipBraces [] := by
  refine .of_eq (q := skipBraces) (fun d hd => ?_) .refl
  show continueWith (fun b => if b then skipBraces else pure ()) (sees (.mark .openBrace) d) = skipBraces d
  rw [run_sees, hd, ht]
  rfl

/-- A characteristic comes to the body that is its value, or stands behind the string that is. -/
theorem descends_characteristic (h : ValueHead head) (ht : t.kind = .mark .openBrace) :
    Descends t characteristic head skipBraces [] := by
  have hlexeme : t.lexeme = .mark .openBrace := by
    obtain ⟨lexeme, text, position⟩ := t
    cases lexeme <;> cases ht
    rfl
  cases h with
  | @object label sign hlabel hsign =>
    have hvalue : Descends t characteristicValue [] skipBraces [] := by
      refine Descends.look_place.trans ?_
      simp only [hlexeme]
      exact .left
    exact Descends.look.trans ((Descends.name hlabel).trans ((Descends.mark hsign).trans (Descends.left.trans hvalue)))
  | @text label sign value hlabel hsign hstring =>
    have hvalue : Descends t characteristicValue [value] skipBraces [] := by
      obtain ⟨lexeme, text, position⟩ := value
      cases lexeme <;> cases hstring
      exact Descends.look.trans (Descends.advance.trans (Descends.left.trans (descends_skipBracesIfAny ht)))
    exact Descends.look.trans ((Descends.name hlabel).trans ((Descends.mark hsign).trans (Descends.left.trans hvalue)))

/-- An item among characteristics comes to a body that is skipped. -/
theorem descends_characteristicItem (h : ValueHead head) (ht : t.kind = .mark .openBrace) :
    Descends t characteristicItem head skipBraces [] := by
  have hname : ∃ label rest, head = label :: rest ∧ label.IsName := by
    cases h with
    | object hlabel => exact ⟨_, _, rfl, hlabel⟩
    | text hlabel => exact ⟨_, _, rfl, hlabel⟩
  refine .trans ?_ (descends_characteristic h ht)
  obtain ⟨label, rest, rfl, hlabel⟩ := hname
  obtain ⟨hcomment, htag⟩ : label.kind.isComment = false ∧ (label.kind == .tag) = false := by
    obtain hkind | hkind := hlabel
    · rw [hkind]
      exact ⟨rfl, rfl⟩
    · obtain ⟨w, hkind⟩ := Kind.exists_keyword hkind
      rw [hkind]
      exact ⟨rfl, rfl⟩
  refine Descends.look.trans ?_
  simp only [hcomment, htag, Bool.false_eq_true, ↓reduceIte]
  exact Descends.left.trans .left

/-- The name of an outlet that is mentioned is read up to what stands behind it. -/
theorem exists_outletLabel {label : List Token} (h : LabelPart label) (ts : List Token) :
    ∃ name, ∀ d : Cursor, outletLabel (d.prepend (label ++ ts)) = (.ok name, d.prepend ts) := by
  cases h with
  | @plain label hlabel =>
    obtain ⟨name, hname⟩ := exists_string hlabel "outlet name" ts
    refine ⟨name, fun d => ?_⟩
    rw [outletLabel, List.cons_append, run_accept_bind, Cursor.current_prepend_cons, hlabel]
    exact hname d
  | @bracketed opening label closing hopening hlabel hclosing =>
    obtain ⟨name, hname⟩ := exists_string hlabel "outlet name" (closing :: ts)
    refine ⟨name, fun d => ?_⟩
    rw [outletLabel, List.cons_append, run_accept_bind, Cursor.current_prepend_cons, if_pos (beq_iff_eq.2 hopening)]
    refine run_bind_ok.2 ⟨name, _, hname d, ?_⟩
    exact run_bind_ok.2 ⟨closing, d.prepend ts, run_mark_ok.2 ⟨hclosing, by simp⟩, rfl⟩

/-- A member of a family comes to the body of the mention that it is. -/
theorem descends_familyMember_reference (h : ReferenceHead head) (ht : t.kind = .mark .openBrace) :
    Descends t (do return [← familyMember]) head skipBraces [] := by
  cases h with
  | @intro word id label gap hword hid hlabel hgap =>
    have hmember : Descends t familyMember (word :: id :: (label ++ gap)) outletReference
        (word :: id :: (label ++ gap)) := by
      refine .of_eq (q := FamilyMember.reference <$> outletReference) (fun d _ => ?_) .left
      rw [familyMember, run_current_bind, Cursor.current_prepend_cons, hword]
    obtain ⟨value, hnumber⟩ := Descends.number (t := t) hid
    obtain ⟨name, hname⟩ := exists_outletLabel hlabel gap
    have hskip : ∀ d : Cursor, d.current = t →
        skipWhile isNewline (d.prepend gap) = (.ok (), d.prepend []) := by
      intro d hd
      have hgap' : ∀ u ∈ gap, isNewline u.kind = true := fun u hu => by rw [hgap u hu]; rfl
      have hplace : isNewline d.current.kind = false := by rw [hd, ht]; rfl
      exact congrArg (Prod.mk (Except.ok ())) (Cursor.skipWhile_prepend hgap' hplace)
    exact Descends.left.trans (hmember.trans ((Descends.keyword hword).trans (hnumber.trans
      ((Descends.right fun d _ => hname d).trans ((Descends.right hskip).trans
        (Descends.left.trans (descends_skipBracesIfAny ht)))))))

end Productions

/-! ## Bodies -/

section Bodies

variable {skip : Kind → Bool} {item : Parser (List α)} {b : Cursor} {ts us : List Token}

/-- A round comes to the item that it reads. -/
theorem run_itemRound_prepend (hus : us ≠ []) (hskip : (b.prepend ts).skipWhile skip = b.prepend us)
    (hends : endsItems .closeBrace (b.prepend us).current = false) (d : Cursor) :
    itemRound .closeBrace skip item (d.prepend ts) =
      (do return (← item, true) : Parser (List α × Bool)) (d.prepend us) := by
  rw [run_itemRound, Cursor.skipWhile_prepend_of hus hskip, Cursor.current_prepend_eq hus, hends]
  rfl

/-- A body in braces comes to the item that a run over it comes to. The induction is on the items in front. -/
theorem Descends.items (hitem : ∀ c, Consumes item c) (hshort : Shortsighted item) (hus : us ≠ [])
    (h : ComesTo skip item (b.prepend ts) (b.prepend us)) :
    Descends b.current (loop (itemRound .closeBrace skip item)) ts item us := by
  have hrounds : Repeats (itemRound .closeBrace skip item) := repeats_of_advances (advances_itemRound hitem)
  generalize hc : b.prepend ts = c at h
  generalize he : b.prepend us = e at h
  induction h generalizing ts with
  | @first c hends =>
    subst hc
    rw [← he] at hends
    refine .of_eq (fun d _ => hrounds _) (Descends.left.trans ?_)
    exact .of_eq (fun d _ => run_itemRound_prepend hus he.symm hends d) .left
  | @later c d e nodes hends hrun hlater ih =>
    subst hc he
    -- The item in front is read from `xs` to `vs`, both of which end in front of `b`.
    obtain ⟨vs, hvs, rfl⟩ := hlater.reaches.exists_prepend_ne_nil hus
    obtain ⟨xs, hxs, hskip⟩ := (reaches_of_run hrun).exists_prepend_ne_nil hvs
    rw [hskip] at hends hrun
    have hfirst : ∀ d : Cursor, d.current = b.current →
        itemRound .closeBrace skip item (d.prepend ts) = (.ok (nodes, true), d.prepend vs) := by
      intro d hd
      rw [run_itemRound_prepend hxs hskip hends]
      exact run_bind_ok.2 ⟨nodes, _, hshort _ _ _ _ _ hvs hd hrun, rfl⟩
    exact .of_eq (fun d _ => hrounds _) ((Descends.right hfirst).trans (Descends.left.trans (ih rfl rfl)))

end Bodies

end Parser

end MediaLanguage
