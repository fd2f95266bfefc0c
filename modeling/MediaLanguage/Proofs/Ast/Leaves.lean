import MediaLanguage.Ast.Program
import MediaLanguage.Token.Basic

/-!
# Leaves of a syntax tree

The leaves of a tree are its numbers and the names that stand without quotes, at every depth, in the order of the
source. They are what a tree takes from the tokens as it is: a number token carries the number, a word its text. The
side of a synchronous link that gives no number is outlet zero, which is not written and counts as no leaf.
-/

namespace MediaLanguage

/-- A number, or a name without quotes. -/
inductive Leaf where
  | number (value : Number)
  | name (text : String)

/-- The leaf that a token carries, if it carries one. -/
def Token.leaf? (t : Token) : Option Leaf :=
  match t.lexeme with
  | .number x => some (.number x)
  | .identifier | .keyword _ => some (.name t.text)
  | _ => none

namespace Ast

/-! ## Expressions -/

mutual

/-- The leaves of an expression. -/
def Expr.leaves : Expr → List Leaf
  | .number value _ => [.number value]
  | .reference name _ => [.name name]
  | .object members _ => memberLeaves members
  | _ => []

/-- The leaves of a member of an object. -/
def Member.leaves : Member → List Leaf
  | .assignment name value _ => .name name :: value.leaves
  | .period name _ _ => [.name name]

/-- The leaves of the members of an object. -/
def memberLeaves : List Member → List Leaf
  | [] => []
  | m :: ms => m.leaves ++ memberLeaves ms

end

/-- The leaves of an object are those of its members. -/
theorem memberLeaves_eq_flatMap (ms : List Member) : memberLeaves ms = ms.flatMap Member.leaves := by
  induction ms with
  | nil => rfl
  | cons m ms ih => rw [memberLeaves, ih, List.flatMap_cons]

/-- The leaves of an object. -/
def ObjectLiteral.leaves (o : ObjectLiteral) : List Leaf :=
  o.members.flatMap Member.leaves

/-- An object has the same leaves as a value. -/
@[simp] theorem ObjectLiteral.leaves_toExpr (o : ObjectLiteral) : o.toExpr.leaves = o.leaves := by
  rw [toExpr, Expr.leaves, memberLeaves_eq_flatMap, leaves]

/-- The leaves of an assignment. -/
def Assignment.leaves (a : Assignment) : List Leaf :=
  .name a.name :: a.value.leaves

/-- The leaves of a field. -/
def Field.leaves : Field → List Leaf
  | .assignment a => a.leaves
  | .comment _ => []

/-! ## Imports, variables, units and vocabularies -/

/-- The leaves of a variable. -/
def Variable.leaves (v : Variable) : List Leaf :=
  .name v.name :: v.value.leaves

/-- The leaves of a unit. -/
def UnitDeclaration.leaves (u : UnitDeclaration) : List Leaf :=
  .name u.name :: u.fields.map fun f => .name f.name

/-- The leaves of the key of an entry. -/
def keyLeaves : VocabularyKey → List Leaf
  | .number value => [.number value]
  | .quoted _ => []

/-- The leaves of a body of a vocabulary. -/
def VocabularyBody.leaves (b : VocabularyBody) : List Leaf :=
  .name b.name :: b.entries.flatMap fun e => keyLeaves e.key

/-- The leaves of a vocabulary. -/
def Vocabulary.leaves (v : Vocabulary) : List Leaf :=
  .name v.name :: v.bodies.flatMap VocabularyBody.leaves

/-! ## Market data -/

/-- The leaves of a block of levels. -/
def Aggregation.leaves (a : Aggregation) : List Leaf :=
  a.fields.map fun f => .name f.name

/-- The leaves of a figure. -/
def Metric.leaves (m : Metric) : List Leaf :=
  .name m.name :: m.attributes.flatMap Assignment.leaves

/-- The leaves of a block of figures. -/
def Metrics.leaves (m : Metrics) : List Leaf :=
  m.fields.flatMap Metric.leaves

/-- The leaves of what a year holds. -/
def YearBlock.leaves : YearBlock → List Leaf
  | .metrics m => m.leaves
  | .remark _ | .comment _ => []

/-- The leaves of a year. -/
def Year.leaves (y : Year) : List Leaf :=
  .number y.year :: y.blocks.flatMap YearBlock.leaves

/-- The leaves of what the data of an outlet hold. -/
def DataBlock.leaves : DataBlock → List Leaf
  | .aggregation a => a.leaves
  | .year y => y.leaves
  | .tag _ | .comment _ => []

/-- The leaves of the data of an outlet. -/
def Data.leaves (d : Data) : List Leaf :=
  .number d.target :: d.blocks.flatMap DataBlock.leaves

/-! ## Links -/

/-- The leaves of numbers that may be missing. -/
def numberLeaves (x : Option Number) : List Leaf :=
  x.toList.map .number

/-- The leaves of names that may be missing. -/
def nameLeaves (s : Option String) : List Leaf :=
  s.toList.map .name

/-- The leaves of one side of a synchronous link. -/
def OutletSpec.leaves (s : OutletSpec) : List Leaf :=
  if s.outlet = .zero then [] else [.number s.outlet]

/-- The leaves of a diachronic link. -/
def DiachronicLink.leaves (l : DiachronicLink) : List Leaf :=
  numberLeaves l.predecessor ++ numberLeaves l.successor ++ nameLeaves l.triggeredBy

/-- The leaves of a synchronous link. -/
def SynchronousLink.leaves (l : SynchronousLink) : List Leaf :=
  l.first.toList.flatMap OutletSpec.leaves ++ l.second.toList.flatMap OutletSpec.leaves ++ nameLeaves l.createdBy

/-- The leaves of a link. -/
def Link.leaves : Link → List Leaf
  | .diachronic l => l.leaves
  | .synchronous l => l.leaves

/-! ## Outlets, templates and families -/

/-- The leaves of an identity field. -/
def IdentityField.leaves : IdentityField → List Leaf
  | .assignment a => a.leaves
  | .array a => .name a.name :: a.values.flatMap ObjectLiteral.leaves
  | .comment _ => []

/-- The leaves of a status. -/
def LifecycleEntry.leaves (e : LifecycleEntry) : List Leaf :=
  e.attributes.flatMap Field.leaves

/-- The leaves of a block. -/
def Block.leaves : Block → List Leaf
  | .identity b => b.fields.flatMap IdentityField.leaves
  | .lifecycle b => b.entries.flatMap LifecycleEntry.leaves
  | .characteristics b | .metadata b => b.fields.flatMap Field.leaves
  | .comment _ => []

/-- The leaves of what an outlet takes over. -/
def Inheritance.leaves : Inheritance → List Leaf
  | .template .. => []
  | .outlet id _ => [.number id]

/-- The leaves of an outlet. -/
def Outlet.leaves (o : Outlet) : List Leaf :=
  o.inheritance.toList.flatMap Inheritance.leaves ++ o.blocks.flatMap Block.leaves

/-- The leaves of a template. -/
def Template.leaves (t : Template) : List Leaf :=
  t.blocks.flatMap Block.leaves

/-- The leaves of a member of a family. -/
def FamilyMember.leaves : FamilyMember → List Leaf
  | .outlet o => o.leaves
  | .reference r => [.number r.outlet]
  | .data d => d.leaves
  | .link l => l.leaves
  | .comment _ => []

/-- The leaves of a family. -/
def Family.leaves (f : Family) : List Leaf :=
  f.members.flatMap FamilyMember.leaves

/-! ## Events and catalogs -/

/-- The leaves of an entity. -/
def EventEntity.leaves (e : EventEntity) : List Leaf :=
  .name e.name :: (numberLeaves e.outlet ++ numberLeaves e.stakeBefore ++ numberLeaves e.stakeAfter)

/-- The leaves of an event. -/
def Event.leaves (e : Event) : List Leaf :=
  .name e.name :: (e.entities.flatMap EventEntity.leaves ++ e.impact.flatMap Assignment.leaves
    ++ e.metadata.flatMap Assignment.leaves)

/-- The leaves of what a source holds. -/
def SourceField.leaves : SourceField → List Leaf
  | .assignment a => a.leaves
  | .nested a => .name a.name :: a.fields.flatMap Field.leaves
  | .tag _ | .comment _ => []

/-- The leaves of a source. -/
def Source.leaves (s : Source) : List Leaf :=
  s.fields.flatMap SourceField.leaves

/-- The leaves of a catalog. -/
def Catalog.leaves (c : Catalog) : List Leaf :=
  .name c.name :: c.sources.flatMap Source.leaves

/-! ## Programs -/

/-- The leaves of a statement. -/
def Statement.leaves : Statement → List Leaf
  | .letVariable d => d.leaves
  | .unit d => d.leaves
  | .vocabulary d => d.leaves
  | .template d => d.leaves
  | .family d => d.leaves
  | .data d => d.leaves
  | .link d => d.leaves
  | .event d => d.leaves
  | .catalog d => d.leaves
  | .importFile _ | .comment _ => []

/-- The leaves of a program. -/
def Program.leaves (p : Program) : List Leaf :=
  p.statements.flatMap Statement.leaves

end Ast

end MediaLanguage
