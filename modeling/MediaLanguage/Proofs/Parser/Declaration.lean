import MediaLanguage.Proofs.Parser.Expr

/-!
# Imports, variables, units and vocabularies side by side

The statements of this module are compared in both modes; what stands in their braces is compared within.
-/

open MediaLanguage.Ast MediaLanguage.Parser

namespace MediaLanguage.Pairing

variable {P : Pairing} {k : Mode} {c c' : Cursor}

/-- An import. -/
theorem sim_importFile (h : P.Beside c c') : P.Sim k (P.Same Import.view) importFile importFile c c' := by
  refine (sim_keyword h _).bind fun _ _ _ _ hstart h => ?_
  refine (sim_string h _).bind fun _ _ _ _ hpath h => ?_
  refine (sim_accept h rfl).bind fun _ _ _ _ _ h => .pure h ?_
  simp only [Same, Import.view, hpath, hstart.place]

/-- A variable. -/
theorem sim_letVariable (h : P.Beside c c') : P.Sim k (P.Same Variable.view) letVariable letVariable c c' := by
  refine (sim_keyword h _).bind fun _ _ _ _ hstart h => ?_
  refine (sim_name h).bind fun _ _ _ _ hname h => ?_
  refine (sim_mark h _).bind fun _ _ _ _ _ h => ?_
  refine (sim_expression h).bind fun _ _ _ _ hvalue h => ?_
  refine (sim_accept h rfl).bind fun _ _ _ _ _ h => .pure h ?_
  simp only [Same, Variable.view, hname, hvalue, hstart.place]

/-! ## Units -/

/-- The length of a text. -/
theorem sim_textLength (h : P.Beside c c') : P.Sim .within Eq textLength textLength c c' := by
  refine (sim_number h _).bind fun x x' _ _ hx h => ?_
  subst hx
  split
  · exact .pure h rfl
  · exact fun _ => ⟨.conversion _, h⟩

/-- A type. -/
theorem sim_fieldType (h : P.Beside c c') : P.Sim .within (P.Same TypeExpr.view) fieldType fieldType c c' := by
  refine .look_within h fun hin halike => ?_
  have htyped : ∀ type : FieldType,
      P.Same TypeExpr.view { type, position := c.current.position } { type, position := c'.current.position } := by
    intro type
    simp only [Same, TypeExpr.view, halike.place]
  rw [← halike.kind]
  dsimp only
  split
  · exact (sim_advance h hin).bind fun _ _ _ _ _ h => .pure h (htyped _)
  · refine (sim_advance h hin).bind fun _ _ _ _ _ h => ?_
    refine (sim_accept h rfl).bind fun b b' _ _ hb h => ?_
    subst hb
    refine .ite (fun _ => ?_) (fun _ => .pure h (htyped _))
    refine (sim_textLength h).bind fun length length' _ _ hlength h => ?_
    subst hlength
    exact (sim_mark h _).bind fun _ _ _ _ _ h => .pure h (htyped _)
  · exact (sim_advance h hin).bind fun _ _ _ _ _ h => .pure h (htyped _)
  · exact (sim_advance h hin).bind fun _ _ _ _ _ h => .pure h (htyped _)
  · refine (sim_advance h hin).bind fun _ _ _ _ _ h => ?_
    refine (sim_mark h _).bind fun _ _ _ _ _ h => ?_
    refine (sim_commaList h fun _ _ h => sim_string h _).bind fun values values' _ _ hvalues h => ?_
    rw [List.forall₂_eq_eq_eq] at hvalues
    subst hvalues
    exact .pure h (htyped _)
  · exact sim_unexpected h _

/-- The words that make a column the key. -/
theorem sim_primaryKey (h : P.Beside c c') : P.Sim .within Eq primaryKey primaryKey c c' := by
  refine .look_within h fun hin halike => ?_
  rw [← halike.kind]
  refine (sim_next h hin).bind_run fun t t' _ _ hnext hnear h => ?_
  cases hnext
  rw [hnear.beq_eq rfl]
  refine .ite (fun _ => ?_) (fun _ => .pure h rfl)
  refine (sim_advance h hin).bind fun _ _ _ _ _ h => ?_
  refine .of_inside nofun fun hin => ?_
  exact (sim_advance h hin).bind fun _ _ _ _ _ h => .pure h rfl

/-- A column. -/
theorem sim_unitField (h : P.Beside c c') : P.Sim .within (P.Same UnitField.view) unitField unitField c c' := by
  refine .look_within h fun _ halike => ?_
  refine (sim_name h).bind fun _ _ _ _ hname h => ?_
  refine (sim_mark h _).bind fun _ _ _ _ _ h => ?_
  refine (sim_fieldType h).bind fun _ _ _ _ htype h => ?_
  refine (sim_primaryKey h).bind fun _ _ _ _ hkey h => .pure h ?_
  simp only [Same, UnitField.view, hname, htype, hkey, halike.place]

/-- Commas after a column. -/
theorem sim_skipCommas (h : P.Beside c c') : P.Sim .within Eq skipCommas skipCommas c c' := by
  refine (sim_sees h rfl).bind fun b b' _ _ hb h => ?_
  subst hb
  exact .ite (fun _ => sim_skipWhile h _) (fun _ => .pure h rfl)

/-- An item of a block in which annotations are dropped. -/
theorem sim_untaggedItem {α β : Type} {R : α → β → Prop} {field : Parser α} {field' : Parser β} {after : Parser Unit}
    (h : P.Beside c c') (hfield : ∀ d d', P.Beside d d' → P.Sim .within R field field' d d')
    (hafter : ∀ d d', P.Beside d d' → P.Sim .within Eq after after d d') :
    P.Sim .within (List.Forall₂ R) (untaggedItem field after) (untaggedItem field' after) c c' := by
  refine (sim_sees h rfl).bind fun b b' _ _ hb h => ?_
  subst hb
  refine .ite (fun _ => ?_) (fun _ => ?_)
  · exact (sim_skipTag h).bind fun _ _ _ _ _ h => .pure h .nil
  · refine (hfield _ _ h).bind fun _ _ _ _ hnode h => ?_
    exact (hafter _ _ h).bind fun _ _ _ _ _ h => .pure h (.cons hnode .nil)

/-- A unit. -/
theorem sim_unitDeclaration (h : P.Beside c c') :
    P.Sim k (P.Same UnitDeclaration.view) unitDeclaration unitDeclaration c c' := by
  refine (sim_keyword h _).bind fun _ _ _ _ hstart h => ?_
  refine (sim_name h).bind fun _ _ _ _ hname h => ?_
  refine (sim_braced (R := P.Same UnitField.view) h fun _ _ _ h => ?_).bind fun _ _ _ _ hfields h => .pure h ?_
  · exact sim_untaggedItem h (fun _ _ h => sim_unitField h) fun _ _ h => sim_skipCommas h
  · simp only [Same, UnitDeclaration.view, hname, Same.map_eq hfields, hstart.place]

/-! ## Vocabularies -/

/-- A comma after an entry. -/
theorem sim_skipComma (h : P.Beside c c') : P.Sim .within Eq skipComma skipComma c c' :=
  (sim_accept h rfl).bind fun _ _ _ _ _ h => .pure h rfl

/-- The key of an entry. -/
theorem sim_vocabularyKey (h : P.Beside c c') : P.Sim .within Eq vocabularyKey vocabularyKey c c' := by
  refine .look_within h fun hin halike => ?_
  rw [← halike.lexeme]
  split
  · exact (sim_advance h hin).bind fun _ _ _ _ _ h => .pure h rfl
  · exact (sim_advance h hin).bind fun _ _ _ _ _ h => .pure h rfl
  · exact sim_unexpected h _

/-- An entry. -/
theorem sim_vocabularyEntry (h : P.Beside c c') :
    P.Sim .within (P.Same VocabularyEntry.view) vocabularyEntry vocabularyEntry c c' := by
  refine .look_within h fun _ halike => ?_
  refine (sim_vocabularyKey h).bind fun _ _ _ _ hkey h => ?_
  refine (sim_mark h _).bind fun _ _ _ _ _ h => ?_
  refine (sim_string h _).bind fun _ _ _ _ hvalue h => .pure h ?_
  simp only [Same, VocabularyEntry.view, hkey, hvalue, halike.place]

/-- A body of entries. -/
theorem sim_vocabularyBody (h : P.Beside c c') :
    P.Sim k (P.Same VocabularyBody.view) vocabularyBody vocabularyBody c c' := by
  refine .look h (fun _ => consumes_vocabularyBody) fun _ halike => ?_
  refine (sim_name h).bind fun _ _ _ _ hname h => ?_
  refine (sim_braced (R := P.Same VocabularyEntry.view) h fun _ _ _ h => ?_).bind fun _ _ _ _ hentries h => .pure h ?_
  · exact sim_untaggedItem h (fun _ _ h => sim_vocabularyEntry h) fun _ _ h => sim_skipComma h
  · simp only [Same, VocabularyBody.view, hname, Same.map_eq hentries, halike.place]

/-- A vocabulary. -/
theorem sim_vocabulary (h : P.Beside c c') : P.Sim k (P.Same Vocabulary.view) vocabulary vocabulary c c' := by
  refine (sim_keyword h _).bind fun _ _ _ _ hstart h => ?_
  refine (sim_name h).bind fun _ _ _ _ hname h => ?_
  refine (sim_braced (R := P.Same VocabularyBody.view) h fun _ _ _ h => ?_).bind fun _ _ _ _ hbodies h => .pure h ?_
  · exact sim_untaggedItem h (fun _ _ h => sim_vocabularyBody h) fun _ _ h => sim_skipComma h
  · simp only [Same, Vocabulary.view, hname, Same.map_eq hbodies, hstart.place]

/-- A vocabulary that is one body. -/
theorem sim_bareVocabulary (h : P.Beside c c') :
    P.Sim k (P.Same Vocabulary.view) bareVocabulary bareVocabulary c c' := by
  refine (sim_vocabularyBody h).bind fun body body' _ _ hbody h => .pure h ?_
  have hparts := hbody
  simp only [Same, VocabularyBody.view, VocabularyBody.mk.injEq] at hparts
  simp only [Same, Vocabulary.view, List.map_cons, List.map_nil, hbody, hparts]

end MediaLanguage.Pairing
