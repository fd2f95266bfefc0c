import MediaLanguage.Ast.Program

/-!
# Outlines of syntax trees

The outline of a tree is the tree with its quoted texts and comments empty and all its places at the start: what is
left are the kinds of its nodes, its numbers and the names that stand without quotes. Programs with the same outline
are equal but for what their texts hold and where they stand.
-/

namespace MediaLanguage

/-- A text that may be missing, empty if it is there. -/
def emptied (s : Option String) : Option String :=
  s.map fun _ => ""

/-- The type of a column with the texts of its categories empty. -/
def FieldType.outline : FieldType → FieldType
  | .category values => .category (values.map fun _ => "")
  | t => t

/-- The key of an entry, empty if it is a text. -/
def VocabularyKey.outline : VocabularyKey → VocabularyKey
  | .number value => .number value
  | .quoted _ => .quoted ""

namespace Ast

/-! ## Comments, dates and expressions -/

/-- An empty comment. -/
def Comment.outline (c : Comment) : Comment :=
  { c with text := "", position := .start }

/-- The outline of an annotation. -/
def Tag.outline (t : Tag) : Tag :=
  ⟨t.name, emptied t.value, .start⟩

/-- The outline of a date. -/
def Date.outline : Date → Date
  | .day _ _ => .day "" .start
  | .current _ => .current .start

/-- The outline of a range of dates. -/
def DateRange.outline (r : DateRange) : DateRange :=
  ⟨r.start.outline, r.finish.map Date.outline⟩

mutual

/-- The outline of an expression. -/
def Expr.outline : Expr → Expr
  | .string _ _ => .string "" .start
  | .number value _ => .number value .start
  | .boolean value _ => .boolean value .start
  | .reference name _ => .reference name .start
  | .object members _ => .object (outlineMembers members) .start

/-- The outlines of the members of an object. -/
def outlineMembers : List Member → List Member
  | [] => []
  | .assignment name value _ :: members => .assignment name value.outline .start :: outlineMembers members
  | .period name range _ :: members => .period name range.outline .start :: outlineMembers members

end

/-- The outline of an object. -/
def ObjectLiteral.outline (o : ObjectLiteral) : ObjectLiteral :=
  ⟨outlineMembers o.members, .start⟩

/-- The outline of an assignment. -/
def Assignment.outline (a : Assignment) : Assignment :=
  ⟨a.name, a.value.outline, .start⟩

/-- The outline of a field. -/
def Field.outline : Field → Field
  | .assignment a => .assignment a.outline
  | .comment c => .comment c.outline

/-! ## Imports, variables, units and vocabularies -/

/-- The outline of an import. -/
def Import.outline (_ : Import) : Import :=
  ⟨"", .start⟩

/-- The outline of a variable. -/
def Variable.outline (v : Variable) : Variable :=
  ⟨v.name, v.value.outline, .start⟩

/-- The outline of a column. -/
def UnitField.outline (f : UnitField) : UnitField :=
  ⟨f.name, ⟨f.type.type.outline, .start⟩, f.primaryKey, .start⟩

/-- The outline of a unit. -/
def UnitDeclaration.outline (u : UnitDeclaration) : UnitDeclaration :=
  ⟨u.name, u.fields.map UnitField.outline, .start⟩

/-- The outline of an entry. -/
def VocabularyEntry.outline (e : VocabularyEntry) : VocabularyEntry :=
  ⟨e.key.outline, "", .start⟩

/-- The outline of a body of a vocabulary. -/
def VocabularyBody.outline (b : VocabularyBody) : VocabularyBody :=
  ⟨b.name, b.entries.map VocabularyEntry.outline, .start⟩

/-- The outline of a vocabulary. -/
def Vocabulary.outline (v : Vocabulary) : Vocabulary :=
  ⟨v.name, v.bodies.map VocabularyBody.outline, .start⟩

/-! ## Market data -/

/-- The outline of a level. -/
def AggregationField.outline (f : AggregationField) : AggregationField :=
  ⟨f.name, "", .start⟩

/-- The outline of a block of levels. -/
def Aggregation.outline (a : Aggregation) : Aggregation :=
  ⟨a.fields.map AggregationField.outline, .start⟩

/-- The outline of a figure. -/
def Metric.outline (m : Metric) : Metric :=
  ⟨m.name, m.attributes.map Assignment.outline, .start⟩

/-- The outline of what a year holds. -/
def YearBlock.outline : YearBlock → YearBlock
  | .metrics m => .metrics ⟨m.fields.map Metric.outline, .start⟩
  | .remark _ => .remark ⟨"", .start⟩
  | .comment c => .comment c.outline

/-- The outline of a year. -/
def Year.outline (y : Year) : Year :=
  ⟨y.year, y.blocks.map YearBlock.outline, .start⟩

/-- The outline of what the data of an outlet hold. -/
def DataBlock.outline : DataBlock → DataBlock
  | .tag t => .tag t.outline
  | .aggregation a => .aggregation a.outline
  | .year y => .year y.outline
  | .comment c => .comment c.outline

/-- The outline of the data of an outlet. -/
def Data.outline (d : Data) : Data :=
  ⟨d.target, d.blocks.map DataBlock.outline, .start⟩

/-! ## Links -/

/-- The outline of one side of a link. -/
def OutletSpec.outline (s : OutletSpec) : OutletSpec :=
  ⟨s.outlet, emptied s.role, .start⟩

/-- The outline of a diachronic link. -/
def DiachronicLink.outline (l : DiachronicLink) : DiachronicLink :=
  { l with
    name := ""
    relationshipType := emptied l.relationshipType
    eventDate := l.eventDate.map DateRange.outline
    tags := l.tags.map Tag.outline
    comments := l.comments.map Comment.outline
    position := .start }

/-- The outline of a synchronous link. -/
def SynchronousLink.outline (l : SynchronousLink) : SynchronousLink :=
  { l with
    name := ""
    first := l.first.map OutletSpec.outline
    second := l.second.map OutletSpec.outline
    relationshipType := emptied l.relationshipType
    periodStart := l.periodStart.map Date.outline
    periodEnd := l.periodEnd.map Date.outline
    details := emptied l.details
    tags := l.tags.map Tag.outline
    comments := l.comments.map Comment.outline
    position := .start }

/-- The outline of a link. -/
def Link.outline : Link → Link
  | .diachronic l => .diachronic l.outline
  | .synchronous l => .synchronous l.outline

/-! ## Outlets, templates and families -/

/-- The outline of an identity field. -/
def IdentityField.outline : IdentityField → IdentityField
  | .assignment a => .assignment a.outline
  | .array a => .array ⟨a.name, a.values.map ObjectLiteral.outline, .start⟩
  | .comment c => .comment c.outline

/-- The outline of an identity block. -/
def Identity.outline (b : Identity) : Identity :=
  ⟨b.fields.map IdentityField.outline, .start⟩

/-- The outline of a status. -/
def LifecycleEntry.outline (e : LifecycleEntry) : LifecycleEntry :=
  ⟨"", e.start.outline, e.finish.map Date.outline, e.attributes.map Field.outline, .start⟩

/-- The outline of a block of assignments. -/
def FieldBlock.outline (b : FieldBlock) : FieldBlock :=
  ⟨b.fields.map Field.outline, .start⟩

/-- The outline of a block. -/
def Block.outline : Block → Block
  | .identity b => .identity b.outline
  | .lifecycle b => .lifecycle ⟨b.entries.map LifecycleEntry.outline, .start⟩
  | .characteristics b => .characteristics b.outline
  | .metadata b => .metadata b.outline
  | .comment c => .comment c.outline

/-- The outline of what an outlet takes over. -/
def Inheritance.outline : Inheritance → Inheritance
  | .template _ _ => .template "" .start
  | .outlet id _ => .outlet id .start

/-- The outline of an outlet. -/
def Outlet.outline (o : Outlet) : Outlet :=
  ⟨"", o.inheritance.map Inheritance.outline, o.blocks.map Block.outline, .start⟩

/-- The outline of a template. -/
def Template.outline (t : Template) : Template :=
  ⟨"", t.type, t.blocks.map Block.outline, .start⟩

/-- The outline of a member of a family. -/
def FamilyMember.outline : FamilyMember → FamilyMember
  | .outlet o => .outlet o.outline
  | .reference r => .reference ⟨r.outlet, "", .start⟩
  | .data d => .data d.outline
  | .link l => .link l.outline
  | .comment c => .comment c.outline

/-- The outline of a family. -/
def Family.outline (f : Family) : Family :=
  ⟨"", f.members.map FamilyMember.outline, .start⟩

/-! ## Events and catalogs -/

/-- The outline of an outlet in an event. -/
def EventEntity.outline (e : EventEntity) : EventEntity :=
  { e with role := emptied e.role, position := .start }

/-- The outline of an event. -/
def Event.outline (e : Event) : Event :=
  { e with
    type := emptied e.type
    date := e.date.map Date.outline
    status := emptied e.status
    entities := e.entities.map EventEntity.outline
    impact := e.impact.map Assignment.outline
    metadata := e.metadata.map Assignment.outline
    tags := e.tags.map Tag.outline
    comments := e.comments.map Comment.outline
    position := .start }

/-- The outline of a field of a source. -/
def SourceField.outline : SourceField → SourceField
  | .assignment a => .assignment a.outline
  | .nested a => .nested ⟨a.name, a.fields.map Field.outline, .start⟩
  | .tag t => .tag t.outline
  | .comment c => .comment c.outline

/-- The outline of a source. -/
def Source.outline (s : Source) : Source :=
  ⟨"", s.fields.map SourceField.outline, .start⟩

/-- The outline of a catalog. -/
def Catalog.outline (c : Catalog) : Catalog :=
  ⟨c.name, c.sources.map Source.outline, .start⟩

/-! ## Programs -/

/-- The outline of a statement. -/
def Statement.outline : Statement → Statement
  | .importFile d => .importFile d.outline
  | .letVariable d => .letVariable d.outline
  | .unit d => .unit d.outline
  | .vocabulary d => .vocabulary d.outline
  | .template d => .template d.outline
  | .family d => .family d.outline
  | .data d => .data d.outline
  | .link d => .link d.outline
  | .event d => .event d.outline
  | .catalog d => .catalog d.outline
  | .comment d => .comment d.outline

/-- The outline of a program. -/
def Program.outline (p : Program) : Program :=
  ⟨p.statements.map Statement.outline⟩

end Ast

end MediaLanguage
