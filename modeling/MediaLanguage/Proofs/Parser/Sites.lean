import MediaLanguage.Proofs.Parser.Derivation

/-!
# Where the parts of a program stand

A run over a text comes to a statement, to a member of a family, to a block of a template or an outlet, and to a
characteristic of a block. Each of them is found from the one around it: the tokens in front of a body are written out
(`FamilyHead`, `TemplateHead`, `OutletHead`, `CharacteristicsHead`), and in the body the items in front are read
(`Parse.ComesTo`, `Parser.ComesTo`).

`TokenStream.OpaqueAt` says where a body starts that is skipped: as the value of a characteristic, behind a string that
is the value of a characteristic, or behind a mention of an outlet.
-/

open MediaLanguage.Ast MediaLanguage.Parser

namespace MediaLanguage

/-! ## Cursors -/

namespace Cursor

variable {c d : Cursor}

/-- A cursor that is reached stands behind some tokens. -/
theorem Reaches.exists_prepend (h : c.Reaches d) : ∃ ts, c = d.prepend ts := by
  obtain ⟨⟨ts, hts⟩, hfinish⟩ := h
  refine ⟨ts, ?_⟩
  obtain ⟨rest, finish⟩ := c
  subst hts hfinish
  rfl

/-- A cursor from which one is reached that has tokens in front of it has some in front of it too. -/
theorem Reaches.exists_prepend_ne_nil {us : List Token} (h : c.Reaches (d.prepend us)) (hus : us ≠ []) :
    ∃ ts, ts ≠ [] ∧ c = d.prepend ts := by
  obtain ⟨vs, rfl⟩ := h.exists_prepend
  exact ⟨vs ++ us, List.append_ne_nil_of_right_ne_nil vs hus, prepend_prepend⟩

/-- In front of the same tokens the same token is at the cursor. -/
theorem current_prepend_eq {us : List Token} (hus : us ≠ []) : (c.prepend us).current = (d.prepend us).current := by
  obtain ⟨u, us, rfl⟩ := List.exists_cons_of_ne_nil hus
  rfl

/-- In front of a cursor it is known by the tokens in between. -/
theorem prepend_inj {ts us : List Token} : d.prepend ts = d.prepend us ↔ ts = us := by
  simp [prepend]

/-- In front of another cursor the same tokens are skipped, if some of them are not. -/
theorem skipWhile_prepend_of {p : Kind → Bool} {ts us : List Token} (hus : us ≠ [])
    (h : (c.prepend ts).skipWhile p = c.prepend us) : (d.prepend ts).skipWhile p = d.prepend us := by
  have hc : (ts ++ c.rest).dropWhile (fun t => p t.kind) = us ++ c.rest := congrArg rest h
  refine congrArg (Cursor.mk · d.finish) ?_
  show (ts ++ d.rest).dropWhile (fun t => p t.kind) = us ++ d.rest
  rw [List.dropWhile_append] at hc ⊢
  split at hc
  · -- All of them would be skipped, and more.
    have hle := ((List.dropWhile_suffix fun t => p t.kind) : _ <:+ c.rest).length_le
    have hpos := List.length_pos_iff.2 hus
    rw [hc, List.length_append] at hle
    omega
  · next hempty =>
    rw [if_neg hempty, List.append_cancel_right hc]

end Cursor

/-! ## Rounds -/

/-- A run over the statements from the first cursor on comes to the second without an error, to read a statement. -/
inductive Parse.ComesTo : Cursor → Cursor → Prop
  | first {c : Cursor} (hrest : (c.skipWhile isDivider).rest ≠ []) : ComesTo c (c.skipWhile isDivider)
  | later {c d e : Cursor} {s : Statement} (hrest : (c.skipWhile isDivider).rest ≠ [])
      (hrun : statement (c.skipWhile isDivider) = (.ok s, d)) (hlater : ComesTo d e) : ComesTo c e

/-- A run over the items of a body in braces from the first cursor on comes to the second, to read an item. -/
inductive Parser.ComesTo {α : Type} (skip : Kind → Bool) (item : Parser (List α)) : Cursor → Cursor → Prop
  | first {c : Cursor} (hends : endsItems .closeBrace (c.skipWhile skip).current = false) :
      ComesTo skip item c (c.skipWhile skip)
  | later {c d e : Cursor} {nodes : List α} (hends : endsItems .closeBrace (c.skipWhile skip).current = false)
      (hrun : item (c.skipWhile skip) = (.ok nodes, d)) (hlater : ComesTo skip item d e) : ComesTo skip item c e

/-- A run comes to cursors that it reaches. -/
theorem Parse.ComesTo.reaches {c d : Cursor} (h : ComesTo c d) : c.Reaches d := by
  induction h with
  | first => exact Cursor.reaches_skipWhile _ _
  | later _ hrun _ ih => exact ((Cursor.reaches_skipWhile _ _).trans (reaches_of_run hrun)).trans ih

/-- A run over items comes to cursors that it reaches. -/
theorem Parser.ComesTo.reaches {α : Type} {skip : Kind → Bool} {item : Parser (List α)} {c d : Cursor}
    (h : ComesTo skip item c d) : c.Reaches d := by
  induction h with
  | first => exact Cursor.reaches_skipWhile _ _
  | later _ hrun _ ih => exact ((Cursor.reaches_skipWhile _ _).trans (reaches_of_run hrun)).trans ih

/-! ## What stands in front of a body -/

/-- The tokens in front of the members of a family. -/
inductive FamilyHead : List Token → Prop
  | intro {word label opening : Token} :
      word.kind = .keyword .family ∨ word.kind = .identifier ∧ Text.lower word.text = "group" →
      label.kind = .string → opening.kind = .mark .openBrace → FamilyHead [word, label, opening]

/-- The tokens that say of what type a template is. -/
inductive TypePart : List Token → Prop
  | nothing : TypePart []
  | keyword {word : Token} {w : Keyword} : word.kind = .keyword w → TypePart [word]

/-- The tokens in front of the blocks of a template. -/
inductive TemplateHead : List Token → Prop
  | intro {word label opening : Token} {type : List Token} : word.kind = .keyword .template → TypePart type →
      label.kind = .string → opening.kind = .mark .openBrace → TemplateHead (word :: (type ++ [label, opening]))

/-- The tokens that say what an outlet takes over. -/
inductive InheritancePart : List Token → Prop
  | nothing : InheritancePart []
  | template {extending word label : Token} : extending.kind = .keyword .extending → word.kind = .keyword .template →
      label.kind = .string → InheritancePart [extending, word, label]
  | outlet {basedOn id : Token} : basedOn.kind = .keyword .basedOn → id.kind = .number → InheritancePart [basedOn, id]

/-- The tokens in front of the blocks of an outlet. -/
inductive OutletHead : List Token → Prop
  | intro {word label opening : Token} {inherited : List Token} : word.kind = .keyword .outlet →
      label.kind = .string → InheritancePart inherited → opening.kind = .mark .openBrace →
      OutletHead (word :: label :: (inherited ++ [opening]))

/-- The tokens in front of the characteristics of a block. -/
inductive CharacteristicsHead : List Token → Prop
  | intro {word opening : Token} : word.kind = .keyword .characteristics → opening.kind = .mark .openBrace →
      CharacteristicsHead [word, opening]

/-- The tokens that name an outlet that is mentioned. -/
inductive LabelPart : List Token → Prop
  | plain {label : Token} : label.kind = .string → LabelPart [label]
  | bracketed {opening label closing : Token} : opening.kind = .mark .openBracket → label.kind = .string →
      closing.kind = .mark .closeBracket → LabelPart [opening, label, closing]

/-- The tokens of a mention of an outlet, in front of its body. -/
inductive ReferenceHead : List Token → Prop
  | intro {word id : Token} {label gap : List Token} : word.kind = .keyword .outletRef → id.kind = .number →
      LabelPart label → (∀ t ∈ gap, t.kind = .newline) → ReferenceHead (word :: id :: (label ++ gap))

/-- The tokens of a characteristic in front of a body: the body is the value, or stands behind a string that is. -/
inductive ValueHead : List Token → Prop
  | object {label sign : Token} : label.IsName → sign.kind = .mark .assign → ValueHead [label, sign]
  | text {label sign value : Token} : label.IsName → sign.kind = .mark .assign → value.kind = .string →
      ValueHead [label, sign, value]

/-! ## The parts of a program -/

/-- An item among the characteristics of a block. -/
def Parser.characteristicItem : Parser (List Field) :=
  blockItem (do return [.comment (← comment)]) (do return [.comment (← tagComment)])
    (do return (← characteristic).toList.map .assignment)

namespace TokenStream

/-- A run over the text reads a statement at the cursor. -/
def StatementAt (s : TokenStream) (c : Cursor) : Prop :=
  Parse.ComesTo (.ofStream s) c

/-- A run over the text reads a member of a family at the cursor. -/
def MemberAt (s : TokenStream) (c : Cursor) : Prop :=
  ∃ head body, FamilyHead head ∧ s.StatementAt (body.prepend head) ∧
    Parser.ComesTo isDivider (do return [← familyMember]) body c

/-- A run over the text reads a block of a template or of an outlet at the cursor. -/
def BlockAt (s : TokenStream) (c : Cursor) : Prop :=
  ∃ head body, (TemplateHead head ∧ s.StatementAt (body.prepend head) ∨
      OutletHead head ∧ s.MemberAt (body.prepend head)) ∧
    Parser.ComesTo isDivider (do return [← outletBlock]) body c

/-- A run over the text reads a characteristic at the cursor. -/
def CharacteristicAt (s : TokenStream) (c : Cursor) : Prop :=
  ∃ head body, CharacteristicsHead head ∧ s.BlockAt (body.prepend head) ∧
    Parser.ComesTo isNewline characteristicItem body c

/-- At the cursor is the opening brace of a body that a run over the text skips. -/
def OpaqueAt (s : TokenStream) (b : Cursor) : Prop :=
  b.current.kind = .mark .openBrace ∧
    ((∃ head, ValueHead head ∧ s.CharacteristicAt (b.prepend head)) ∨
      ∃ head, ReferenceHead head ∧ s.MemberAt (b.prepend head))

end TokenStream

end MediaLanguage
