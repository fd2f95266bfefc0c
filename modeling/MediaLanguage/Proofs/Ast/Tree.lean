import MediaLanguage.Ast.Program

/-!
# Programs as trees

The nodes of a program without what they say: each has its place and its child nodes in groups, one group for each
list of child nodes and one for each child that stands alone.

* `Tree.Descends` relates a node to itself and all nodes below it.
* `Program.tree` is the tree of a program.
-/

namespace MediaLanguage

/-- A node with its place and its groups of child nodes. -/
inductive Tree where
  | node (position : Position) (groups : List (List Tree))

namespace Tree

/-- The place of a node. -/
def position : Tree → Position
  | .node position _ => position

/-- The groups of child nodes of a node. -/
def groups : Tree → List (List Tree)
  | .node _ groups => groups

/-- A node without child nodes. -/
def leaf (position : Position) : Tree :=
  .node position []

/-- A node that is `t` or stands below it. -/
inductive Descends : Tree → Tree → Prop
  | refl (t : Tree) : Descends t t
  | step {t child d : Tree} {group : List Tree} : group ∈ t.groups → child ∈ group → Descends child d → Descends t d

end Tree

namespace Ast

/-! ## Comments, dates and expressions -/

def Comment.tree (c : Comment) : Tree :=
  .leaf c.position

def Tag.tree (t : Tag) : Tree :=
  .leaf t.position

def Date.tree (d : Date) : Tree :=
  .leaf d.position

def DateRange.tree (r : DateRange) : Tree :=
  .node r.position [[r.start.tree], r.finish.toList.map Date.tree]

mutual

def Expr.tree : Expr → Tree
  | .string _ p | .number _ p | .boolean _ p | .reference _ p => .leaf p
  | .object members p => .node p [memberTrees members]

def Member.tree : Member → Tree
  | .assignment _ value p => .node p [[value.tree]]
  | .period _ range p => .node p [[range.tree]]

/-- The trees of the members of an object. -/
def memberTrees : List Member → List Tree
  | [] => []
  | m :: ms => m.tree :: memberTrees ms

end

def ObjectLiteral.tree (o : ObjectLiteral) : Tree :=
  o.toExpr.tree

def Assignment.tree (a : Assignment) : Tree :=
  .node a.position [[a.value.tree]]

def Field.tree : Field → Tree
  | .assignment a => a.tree
  | .comment c => c.tree

/-! ## Declarations -/

def Import.tree (d : Import) : Tree :=
  .leaf d.position

def Variable.tree (d : Variable) : Tree :=
  .node d.position [[d.value.tree]]

def TypeExpr.tree (t : TypeExpr) : Tree :=
  .leaf t.position

def UnitField.tree (f : UnitField) : Tree :=
  .node f.position [[f.type.tree]]

def UnitDeclaration.tree (d : UnitDeclaration) : Tree :=
  .node d.position [d.fields.map UnitField.tree]

def VocabularyEntry.tree (e : VocabularyEntry) : Tree :=
  .leaf e.position

def VocabularyBody.tree (b : VocabularyBody) : Tree :=
  .node b.position [b.entries.map VocabularyEntry.tree]

def Vocabulary.tree (d : Vocabulary) : Tree :=
  .node d.position [d.bodies.map VocabularyBody.tree]

/-! ## Blocks -/

def ArrayAssignment.tree (a : ArrayAssignment) : Tree :=
  .node a.position [a.values.map ObjectLiteral.tree]

def IdentityField.tree : IdentityField → Tree
  | .assignment a => a.tree
  | .array a => a.tree
  | .comment c => c.tree

def Identity.tree (b : Identity) : Tree :=
  .node b.position [b.fields.map IdentityField.tree]

def LifecycleEntry.tree (e : LifecycleEntry) : Tree :=
  .node e.position [[e.start.tree], e.finish.toList.map Date.tree, e.attributes.map Field.tree]

def Lifecycle.tree (b : Lifecycle) : Tree :=
  .node b.position [b.entries.map LifecycleEntry.tree]

def FieldBlock.tree (b : FieldBlock) : Tree :=
  .node b.position [b.fields.map Field.tree]

def Block.tree : Block → Tree
  | .identity b => b.tree
  | .lifecycle b => b.tree
  | .characteristics b => b.tree
  | .metadata b => b.tree
  | .comment c => c.tree

/-! ## Market data -/

def AggregationField.tree (f : AggregationField) : Tree :=
  .leaf f.position

def Aggregation.tree (a : Aggregation) : Tree :=
  .node a.position [a.fields.map AggregationField.tree]

def Metric.tree (m : Metric) : Tree :=
  .node m.position [m.attributes.map Assignment.tree]

def Metrics.tree (m : Metrics) : Tree :=
  .node m.position [m.fields.map Metric.tree]

def YearBlock.tree : YearBlock → Tree
  | .metrics m => m.tree
  | .remark c => .leaf c.position
  | .comment c => c.tree

def Year.tree (y : Year) : Tree :=
  .node y.position [y.blocks.map YearBlock.tree]

def DataBlock.tree : DataBlock → Tree
  | .tag t => t.tree
  | .aggregation a => a.tree
  | .year y => y.tree
  | .comment c => c.tree

def Data.tree (d : Data) : Tree :=
  .node d.position [d.blocks.map DataBlock.tree]

/-! ## Links, events and catalogs -/

def OutletSpec.tree (o : OutletSpec) : Tree :=
  .leaf o.position

def DiachronicLink.tree (l : DiachronicLink) : Tree :=
  .node l.position [l.eventDate.toList.map DateRange.tree, l.tags.map Tag.tree, l.comments.map Comment.tree]

def SynchronousLink.tree (l : SynchronousLink) : Tree :=
  .node l.position
    [l.first.toList.map OutletSpec.tree, l.second.toList.map OutletSpec.tree, l.periodStart.toList.map Date.tree,
     l.periodEnd.toList.map Date.tree, l.tags.map Tag.tree, l.comments.map Comment.tree]

def Link.tree : Link → Tree
  | .diachronic l => l.tree
  | .synchronous l => l.tree

def EventEntity.tree (e : EventEntity) : Tree :=
  .leaf e.position

def Event.tree (e : Event) : Tree :=
  .node e.position
    [e.date.toList.map Date.tree, e.entities.map EventEntity.tree, e.impact.map Assignment.tree,
     e.metadata.map Assignment.tree, e.tags.map Tag.tree, e.comments.map Comment.tree]

def NestedAssignment.tree (a : NestedAssignment) : Tree :=
  .node a.position [a.fields.map Field.tree]

def SourceField.tree : SourceField → Tree
  | .assignment a => a.tree
  | .nested a => a.tree
  | .tag t => t.tree
  | .comment c => c.tree

def Source.tree (s : Source) : Tree :=
  .node s.position [s.fields.map SourceField.tree]

def Catalog.tree (c : Catalog) : Tree :=
  .node c.position [c.sources.map Source.tree]

/-! ## Outlets, families and programs -/

def Inheritance.tree : Inheritance → Tree
  | .template _ p | .outlet _ p => .leaf p

def Outlet.tree (o : Outlet) : Tree :=
  .node o.position [o.inheritance.toList.map Inheritance.tree, o.blocks.map Block.tree]

def Template.tree (t : Template) : Tree :=
  .node t.position [t.blocks.map Block.tree]

def OutletReference.tree (r : OutletReference) : Tree :=
  .leaf r.position

def FamilyMember.tree : FamilyMember → Tree
  | .outlet o => o.tree
  | .reference r => r.tree
  | .data d => d.tree
  | .link l => l.tree
  | .comment c => c.tree

def Family.tree (f : Family) : Tree :=
  .node f.position [f.members.map FamilyMember.tree]

def Statement.tree : Statement → Tree
  | .importFile d => d.tree
  | .letVariable d => d.tree
  | .unit d => d.tree
  | .vocabulary d => d.tree
  | .template d => d.tree
  | .family d => d.tree
  | .data d => d.tree
  | .link d => d.tree
  | .event d => d.tree
  | .catalog d => d.tree
  | .comment d => d.tree

/-- The tree of a program, which starts where its text does. -/
def Program.tree (p : Program) : Tree :=
  .node .start [p.statements.map Statement.tree]

/-- The trees of members one by one. -/
theorem memberTrees_eq (ms : List Member) : memberTrees ms = ms.map Member.tree := by
  induction ms with
  | nil => rfl
  | cons m ms ih => rw [memberTrees, ih, List.map_cons]

end Ast

end MediaLanguage
