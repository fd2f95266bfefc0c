import MediaLanguage.Ast.Program

/-!
# Views of a syntax tree

A `View` rewrites what a reader may want to disregard in a tree: the places, the names that stand without quotes, and
the levels of market data, at every depth. Two trees that look the same through their views differ in nothing else.

* `View.plain` rewrites nothing: through it every tree is itself (`Statement.view_plain`).
* `Statement.relocate` rewrites the places alone.
-/

namespace MediaLanguage.Ast

/-- What is made of the places, the names and the levels of a tree. -/
structure View where
  place : Position → Position
  name : String → String
  level : String → String

namespace View

/-- The view that changes nothing. -/
def plain : View :=
  ⟨id, id, id⟩

/-- The view that changes places alone. -/
def moving (f : Position → Position) : View :=
  ⟨f, id, id⟩

@[simp] theorem plain_place : plain.place = id := rfl
@[simp] theorem plain_name : plain.name = id := rfl
@[simp] theorem plain_level : plain.level = id := rfl

end View

/-! ## Comments, dates and expressions -/

section Expr

variable (v : View)

/-- A comment in a view. -/
def Comment.view (c : Comment) : Comment :=
  { c with position := v.place c.position }

/-- An annotation in a view. -/
def Tag.view (t : Tag) : Tag :=
  { t with position := v.place t.position }

/-- A date in a view. -/
def Date.view : Date → Date
  | .day text position => .day text (v.place position)
  | .current position => .current (v.place position)

@[simp] theorem Date.view_day (text : String) (p : Position) : Date.view v (.day text p) = .day text (v.place p) := rfl

/-- A range of dates in a view. -/
def DateRange.view (r : DateRange) : DateRange :=
  ⟨r.start.view v, r.finish.map (Date.view v)⟩

mutual

/-- An expression in a view. -/
def Expr.view : Expr → Expr
  | .string value position => .string value (v.place position)
  | .number value position => .number value (v.place position)
  | .boolean value position => .boolean value (v.place position)
  | .reference name position => .reference (v.name name) (v.place position)
  | .object members position => .object (viewMembers members) (v.place position)

/-- A member of an object in a view. -/
def Member.view : Member → Member
  | .assignment name value position => .assignment (v.name name) value.view (v.place position)
  | .period name range position => .period (v.name name) (range.view v) (v.place position)

/-- The members of an object in a view. -/
def viewMembers : List Member → List Member
  | [] => []
  | m :: ms => m.view :: viewMembers ms

end

/-- The members of an object are seen one by one. -/
theorem viewMembers_eq_map (ms : List Member) : viewMembers v ms = ms.map (Member.view v) := by
  induction ms with
  | nil => rfl
  | cons m ms ih => rw [viewMembers, ih, List.map_cons]

/-- An object in a view. -/
def ObjectLiteral.view (o : ObjectLiteral) : ObjectLiteral :=
  ⟨o.members.map (Member.view v), v.place o.position⟩

/-- An assignment in a view. -/
def Assignment.view (a : Assignment) : Assignment :=
  ⟨v.name a.name, a.value.view v, v.place a.position⟩

/-- A field in a view. -/
def Field.view : Field → Field
  | .assignment a => .assignment (a.view v)
  | .comment c => .comment (c.view v)

end Expr

/-! ## Imports, variables, units and vocabularies -/

section Declaration

variable (v : View)

/-- An import in a view. -/
def Import.view (i : Import) : Import :=
  { i with position := v.place i.position }

/-- A variable in a view. -/
def Variable.view (x : Variable) : Variable :=
  ⟨v.name x.name, x.value.view v, v.place x.position⟩

/-- A type in a view. -/
def TypeExpr.view (t : TypeExpr) : TypeExpr :=
  { t with position := v.place t.position }

/-- A column in a view. -/
def UnitField.view (f : UnitField) : UnitField :=
  { f with name := v.name f.name, type := f.type.view v, position := v.place f.position }

/-- A unit in a view. -/
def UnitDeclaration.view (u : UnitDeclaration) : UnitDeclaration :=
  ⟨v.name u.name, u.fields.map (UnitField.view v), v.place u.position⟩

/-- An entry of a vocabulary in a view. -/
def VocabularyEntry.view (e : VocabularyEntry) : VocabularyEntry :=
  { e with position := v.place e.position }

/-- A body of a vocabulary in a view. -/
def VocabularyBody.view (b : VocabularyBody) : VocabularyBody :=
  ⟨v.name b.name, b.entries.map (VocabularyEntry.view v), v.place b.position⟩

/-- A vocabulary in a view. -/
def Vocabulary.view (x : Vocabulary) : Vocabulary :=
  ⟨v.name x.name, x.bodies.map (VocabularyBody.view v), v.place x.position⟩

end Declaration

/-! ## Market data -/

section Market

variable (v : View)

/-- A level in a view. -/
def AggregationField.view (f : AggregationField) : AggregationField :=
  ⟨v.name f.name, v.level f.value, v.place f.position⟩

/-- A block of levels in a view. -/
def Aggregation.view (a : Aggregation) : Aggregation :=
  ⟨a.fields.map (AggregationField.view v), v.place a.position⟩

/-- A figure in a view. -/
def Metric.view (m : Metric) : Metric :=
  ⟨v.name m.name, m.attributes.map (Assignment.view v), v.place m.position⟩

/-- A block of figures in a view. -/
def Metrics.view (m : Metrics) : Metrics :=
  ⟨m.fields.map (Metric.view v), v.place m.position⟩

/-- The comment field of a year in a view. -/
def YearComment.view (c : YearComment) : YearComment :=
  { c with position := v.place c.position }

/-- A block of a year in a view. -/
def YearBlock.view : YearBlock → YearBlock
  | .metrics m => .metrics (m.view v)
  | .remark c => .remark (c.view v)
  | .comment c => .comment (c.view v)

/-- A year in a view. -/
def Year.view (y : Year) : Year :=
  { y with blocks := y.blocks.map (YearBlock.view v), position := v.place y.position }

/-- A block of data in a view. -/
def DataBlock.view : DataBlock → DataBlock
  | .tag t => .tag (t.view v)
  | .aggregation a => .aggregation (a.view v)
  | .year y => .year (y.view v)
  | .comment c => .comment (c.view v)

/-- The data of an outlet in a view. -/
def Data.view (d : Data) : Data :=
  { d with blocks := d.blocks.map (DataBlock.view v), position := v.place d.position }

end Market

/-! ## Links -/

section Link

variable (v : View)

/-- One side of a link in a view. -/
def OutletSpec.view (s : OutletSpec) : OutletSpec :=
  { s with position := v.place s.position }

/-- A diachronic link in a view. -/
def DiachronicLink.view (l : DiachronicLink) : DiachronicLink :=
  { l with
    name := v.name l.name
    eventDate := l.eventDate.map (DateRange.view v)
    triggeredBy := l.triggeredBy.map v.name
    tags := l.tags.map (Tag.view v)
    comments := l.comments.map (Comment.view v)
    position := v.place l.position }

/-- A synchronous link in a view. -/
def SynchronousLink.view (l : SynchronousLink) : SynchronousLink :=
  { l with
    name := v.name l.name
    first := l.first.map (OutletSpec.view v)
    second := l.second.map (OutletSpec.view v)
    periodStart := l.periodStart.map (Date.view v)
    periodEnd := l.periodEnd.map (Date.view v)
    createdBy := l.createdBy.map v.name
    tags := l.tags.map (Tag.view v)
    comments := l.comments.map (Comment.view v)
    position := v.place l.position }

/-- A link in a view. -/
def Link.view : Link → Link
  | .diachronic l => .diachronic (l.view v)
  | .synchronous l => .synchronous (l.view v)

end Link

/-! ## Outlets, templates and families -/

section Outlet

variable (v : View)

/-- A list of objects in a view. -/
def ArrayAssignment.view (a : ArrayAssignment) : ArrayAssignment :=
  ⟨v.name a.name, a.values.map (ObjectLiteral.view v), v.place a.position⟩

/-- An identity field in a view. -/
def IdentityField.view : IdentityField → IdentityField
  | .assignment a => .assignment (a.view v)
  | .array a => .array (a.view v)
  | .comment c => .comment (c.view v)

/-- An identity block in a view. -/
def Identity.view (b : Identity) : Identity :=
  ⟨b.fields.map (IdentityField.view v), v.place b.position⟩

/-- A status in a view. -/
def LifecycleEntry.view (e : LifecycleEntry) : LifecycleEntry :=
  { e with
    start := e.start.view v
    finish := e.finish.map (Date.view v)
    attributes := e.attributes.map (Field.view v)
    position := v.place e.position }

/-- A block of statuses in a view. -/
def Lifecycle.view (b : Lifecycle) : Lifecycle :=
  ⟨b.entries.map (LifecycleEntry.view v), v.place b.position⟩

/-- A block of assignments in a view. -/
def FieldBlock.view (b : FieldBlock) : FieldBlock :=
  ⟨b.fields.map (Field.view v), v.place b.position⟩

/-- A block in a view. -/
def Block.view : Block → Block
  | .identity b => .identity (b.view v)
  | .lifecycle b => .lifecycle (b.view v)
  | .characteristics b => .characteristics (b.view v)
  | .metadata b => .metadata (b.view v)
  | .comment c => .comment (c.view v)

/-- What an outlet takes over, in a view. -/
def Inheritance.view : Inheritance → Inheritance
  | .template name position => .template name (v.place position)
  | .outlet id position => .outlet id (v.place position)

/-- An outlet in a view. -/
def Outlet.view (o : Outlet) : Outlet :=
  { o with
    inheritance := o.inheritance.map (Inheritance.view v)
    blocks := o.blocks.map (Block.view v)
    position := v.place o.position }

/-- A template in a view. -/
def Template.view (t : Template) : Template :=
  { t with blocks := t.blocks.map (Block.view v), position := v.place t.position }

/-- A mention of an outlet in a view. -/
def OutletReference.view (r : OutletReference) : OutletReference :=
  { r with position := v.place r.position }

/-- A member of a family in a view. -/
def FamilyMember.view : FamilyMember → FamilyMember
  | .outlet o => .outlet (o.view v)
  | .reference r => .reference (r.view v)
  | .data d => .data (d.view v)
  | .link l => .link (l.view v)
  | .comment c => .comment (c.view v)

/-- A family in a view. -/
def Family.view (f : Family) : Family :=
  { f with members := f.members.map (FamilyMember.view v), position := v.place f.position }

end Outlet

/-! ## Events and catalogs -/

section Event

variable (v : View)

/-- An outlet in an event in a view. -/
def EventEntity.view (e : EventEntity) : EventEntity :=
  { e with name := v.name e.name, position := v.place e.position }

/-- An event in a view. -/
def Event.view (e : Event) : Event :=
  { e with
    name := v.name e.name
    date := e.date.map (Date.view v)
    entities := e.entities.map (EventEntity.view v)
    impact := e.impact.map (Assignment.view v)
    metadata := e.metadata.map (Assignment.view v)
    tags := e.tags.map (Tag.view v)
    comments := e.comments.map (Comment.view v)
    position := v.place e.position }

/-- A group of assignments in a view. -/
def NestedAssignment.view (a : NestedAssignment) : NestedAssignment :=
  ⟨v.name a.name, a.fields.map (Field.view v), v.place a.position⟩

/-- A field of a source in a view. -/
def SourceField.view : SourceField → SourceField
  | .assignment a => .assignment (a.view v)
  | .nested a => .nested (a.view v)
  | .tag t => .tag (t.view v)
  | .comment c => .comment (c.view v)

/-- A source in a view. -/
def Source.view (s : Source) : Source :=
  { s with fields := s.fields.map (SourceField.view v), position := v.place s.position }

/-- A catalog in a view. -/
def Catalog.view (c : Catalog) : Catalog :=
  ⟨v.name c.name, c.sources.map (Source.view v), v.place c.position⟩

end Event

/-! ## Statements -/

/-- A statement in a view. -/
def Statement.view (v : View) : Statement → Statement
  | .importFile d => .importFile (d.view v)
  | .letVariable d => .letVariable (d.view v)
  | .unit d => .unit (d.view v)
  | .vocabulary d => .vocabulary (d.view v)
  | .template d => .template (d.view v)
  | .family d => .family (d.view v)
  | .data d => .data (d.view v)
  | .link d => .link (d.view v)
  | .event d => .event (d.view v)
  | .catalog d => .catalog (d.view v)
  | .comment d => .comment (d.view v)

/-- A statement with every place in it changed. -/
def Statement.relocate (f : Position → Position) : Statement → Statement :=
  Statement.view (.moving f)

/-! ## The view that changes nothing -/

section Plain

@[simp] theorem Comment.view_plain : Comment.view .plain = id := rfl

@[simp] theorem Tag.view_plain : Tag.view .plain = id := rfl

@[simp] theorem Date.view_plain : Date.view .plain = id := by
  funext d
  cases d <;> rfl

@[simp] theorem DateRange.view_plain : DateRange.view .plain = id := by
  funext r
  simp [DateRange.view]

mutual

/-- An expression is itself in the view that changes nothing. -/
theorem Expr.view_plain_apply : ∀ e : Expr, e.view .plain = e
  | .string .. | .number .. | .boolean .. | .reference .. => rfl
  | .object members position => by rw [Expr.view, viewMembers_plain members]; rfl

/-- A member is itself in the view that changes nothing. -/
theorem Member.view_plain_apply : ∀ m : Member, m.view .plain = m
  | .assignment name value position => by rw [Member.view, Expr.view_plain_apply value]; rfl
  | .period name range position => by simp [Member.view]

/-- Members are themselves in the view that changes nothing. -/
theorem viewMembers_plain : ∀ ms : List Member, viewMembers .plain ms = ms
  | [] => rfl
  | m :: ms => by rw [viewMembers, Member.view_plain_apply m, viewMembers_plain ms]

end

@[simp] theorem Expr.view_plain : Expr.view .plain = id :=
  funext Expr.view_plain_apply

@[simp] theorem Member.view_plain : Member.view .plain = id :=
  funext Member.view_plain_apply

@[simp] theorem ObjectLiteral.view_plain : ObjectLiteral.view .plain = id := by
  funext o
  simp [ObjectLiteral.view]

@[simp] theorem Assignment.view_plain : Assignment.view .plain = id := by
  funext a
  simp [Assignment.view]

@[simp] theorem Field.view_plain : Field.view .plain = id := by
  funext f
  cases f <;> simp [Field.view]

@[simp] theorem Import.view_plain : Import.view .plain = id := rfl

@[simp] theorem Variable.view_plain : Variable.view .plain = id := by
  funext x
  simp [Variable.view]

@[simp] theorem TypeExpr.view_plain : TypeExpr.view .plain = id := rfl

@[simp] theorem UnitField.view_plain : UnitField.view .plain = id := rfl

@[simp] theorem UnitDeclaration.view_plain : UnitDeclaration.view .plain = id := by
  funext u
  simp [UnitDeclaration.view]

@[simp] theorem VocabularyEntry.view_plain : VocabularyEntry.view .plain = id := rfl

@[simp] theorem VocabularyBody.view_plain : VocabularyBody.view .plain = id := by
  funext b
  simp [VocabularyBody.view]

@[simp] theorem Vocabulary.view_plain : Vocabulary.view .plain = id := by
  funext x
  simp [Vocabulary.view]

@[simp] theorem AggregationField.view_plain : AggregationField.view .plain = id := rfl

@[simp] theorem Aggregation.view_plain : Aggregation.view .plain = id := by
  funext a
  simp [Aggregation.view]

@[simp] theorem Metric.view_plain : Metric.view .plain = id := by
  funext m
  simp [Metric.view]

@[simp] theorem Metrics.view_plain : Metrics.view .plain = id := by
  funext m
  simp [Metrics.view]

@[simp] theorem YearComment.view_plain : YearComment.view .plain = id := rfl

@[simp] theorem YearBlock.view_plain : YearBlock.view .plain = id := by
  funext b
  cases b <;> simp [YearBlock.view]

@[simp] theorem Year.view_plain : Year.view .plain = id := by
  funext y
  simp [Year.view]

@[simp] theorem DataBlock.view_plain : DataBlock.view .plain = id := by
  funext b
  cases b <;> simp [DataBlock.view]

@[simp] theorem Data.view_plain : Data.view .plain = id := by
  funext d
  simp [Data.view]

@[simp] theorem OutletSpec.view_plain : OutletSpec.view .plain = id := rfl

@[simp] theorem DiachronicLink.view_plain : DiachronicLink.view .plain = id := by
  funext l
  simp [DiachronicLink.view]

@[simp] theorem SynchronousLink.view_plain : SynchronousLink.view .plain = id := by
  funext l
  simp [SynchronousLink.view]

@[simp] theorem Link.view_plain : Link.view .plain = id := by
  funext l
  cases l <;> simp [Link.view]

@[simp] theorem ArrayAssignment.view_plain : ArrayAssignment.view .plain = id := by
  funext a
  simp [ArrayAssignment.view]

@[simp] theorem IdentityField.view_plain : IdentityField.view .plain = id := by
  funext f
  cases f <;> simp [IdentityField.view]

@[simp] theorem Identity.view_plain : Identity.view .plain = id := by
  funext b
  simp [Identity.view]

@[simp] theorem LifecycleEntry.view_plain : LifecycleEntry.view .plain = id := by
  funext e
  simp [LifecycleEntry.view]

@[simp] theorem Lifecycle.view_plain : Lifecycle.view .plain = id := by
  funext b
  simp [Lifecycle.view]

@[simp] theorem FieldBlock.view_plain : FieldBlock.view .plain = id := by
  funext b
  simp [FieldBlock.view]

@[simp] theorem Block.view_plain : Block.view .plain = id := by
  funext b
  cases b <;> simp [Block.view]

@[simp] theorem Inheritance.view_plain : Inheritance.view .plain = id := by
  funext i
  cases i <;> rfl

@[simp] theorem Outlet.view_plain : Outlet.view .plain = id := by
  funext o
  simp [Outlet.view]

@[simp] theorem Template.view_plain : Template.view .plain = id := by
  funext t
  simp [Template.view]

@[simp] theorem OutletReference.view_plain : OutletReference.view .plain = id := rfl

@[simp] theorem FamilyMember.view_plain : FamilyMember.view .plain = id := by
  funext m
  cases m <;> simp [FamilyMember.view]

@[simp] theorem Family.view_plain : Family.view .plain = id := by
  funext f
  simp [Family.view]

@[simp] theorem EventEntity.view_plain : EventEntity.view .plain = id := rfl

@[simp] theorem Event.view_plain : Event.view .plain = id := by
  funext e
  simp [Event.view]

@[simp] theorem NestedAssignment.view_plain : NestedAssignment.view .plain = id := by
  funext a
  simp [NestedAssignment.view]

@[simp] theorem SourceField.view_plain : SourceField.view .plain = id := by
  funext f
  cases f <;> simp [SourceField.view]

@[simp] theorem Source.view_plain : Source.view .plain = id := by
  funext s
  simp [Source.view]

@[simp] theorem Catalog.view_plain : Catalog.view .plain = id := by
  funext c
  simp [Catalog.view]

/-- A statement is itself in the view that changes nothing. -/
@[simp] theorem Statement.view_plain : Statement.view .plain = id := by
  funext s
  cases s <;> simp [Statement.view]

/-- A statement at its own place. -/
theorem Statement.relocate_id : Statement.relocate id = id :=
  Statement.view_plain

end Plain

/-! ## Parts of one sort -/

section Lists

variable {α β : Type} {f : α → α} {g : β → β}

/-- The parts of one sort among parts that are rewritten are the parts of that sort, rewritten. -/
theorem filterMap_rewritten {select : α → Option β} (h : ∀ a, select (f a) = (select a).map g) (as : List α) :
    (as.map f).filterMap select = (as.filterMap select).map g := by
  rw [List.filterMap_map, List.map_filterMap]
  congr 1
  funext a
  exact h a

/-- What is listed for parts that are rewritten, if for each part it is what is listed for the part, rewritten. -/
theorem flatMap_rewritten {list : α → List β} (h : ∀ a, list (f a) = (list a).map g) (as : List α) :
    (as.map f).flatMap list = (as.flatMap list).map g := by
  rw [List.flatMap_map, List.map_flatMap]
  congr 1
  funext a
  exact h a

end Lists

end MediaLanguage.Ast
