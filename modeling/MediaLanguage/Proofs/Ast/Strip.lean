import MediaLanguage.Model.Lowering

/-!
# Programs without comments

A comment stands in the list of nodes around it, whatever list that is. `Program.strip drop` leaves the comments out
that `drop` picks, at every depth, and keeps all other nodes in their order.

* `filterMap_strip` and `flatMap_strip`: what is selected from a list or listed for it, if no comment counts for it.
* The parts of a program without comments are the parts of the program, without comments: its families, their outlets
  and links, and so on.
-/

namespace MediaLanguage.Ast

/-! ## Nodes without comments -/

section Strip

variable (drop : Comment → Bool)

/-- A comment, unless it is left out. -/
def Comment.strip? (c : Comment) : Option Comment :=
  if drop c then none else some c

/-- A field, unless it is a comment that is left out. -/
def Field.strip? : Field → Option Field
  | .assignment a => some (.assignment a)
  | .comment c => (c.strip? drop).map .comment

/-- A field of an identity block, unless it is a comment that is left out. -/
def IdentityField.strip? : IdentityField → Option IdentityField
  | .assignment a => some (.assignment a)
  | .array a => some (.array a)
  | .comment c => (c.strip? drop).map .comment

/-- An identity block without comments. -/
def Identity.strip (b : Identity) : Identity :=
  { b with fields := b.fields.filterMap (IdentityField.strip? drop) }

/-- A status without comments. -/
def LifecycleEntry.strip (e : LifecycleEntry) : LifecycleEntry :=
  { e with attributes := e.attributes.filterMap (Field.strip? drop) }

/-- A lifecycle without comments. -/
def Lifecycle.strip (b : Lifecycle) : Lifecycle :=
  { b with entries := b.entries.map (LifecycleEntry.strip drop) }

/-- A block of assignments without comments. -/
def FieldBlock.strip (b : FieldBlock) : FieldBlock :=
  { b with fields := b.fields.filterMap (Field.strip? drop) }

/-- A block without comments, unless it is a comment that is left out. -/
def Block.strip? : Block → Option Block
  | .identity b => some (.identity (b.strip drop))
  | .lifecycle b => some (.lifecycle (b.strip drop))
  | .characteristics b => some (.characteristics (b.strip drop))
  | .metadata b => some (.metadata (b.strip drop))
  | .comment c => (c.strip? drop).map .comment

/-- An outlet without comments. -/
def Outlet.strip (o : Outlet) : Outlet :=
  { o with blocks := o.blocks.filterMap (Block.strip? drop) }

/-- A template without comments. -/
def Template.strip (t : Template) : Template :=
  { t with blocks := t.blocks.filterMap (Block.strip? drop) }

/-- What a year holds, unless it is a comment that is left out. -/
def YearBlock.strip? : YearBlock → Option YearBlock
  | .metrics m => some (.metrics m)
  | .remark c => some (.remark c)
  | .comment c => (c.strip? drop).map .comment

/-- A year without comments; its comment field stays. -/
def Year.strip (y : Year) : Year :=
  { y with blocks := y.blocks.filterMap (YearBlock.strip? drop) }

/-- What data hold, without comments, unless it is a comment that is left out. -/
def DataBlock.strip? : DataBlock → Option DataBlock
  | .tag t => some (.tag t)
  | .aggregation a => some (.aggregation a)
  | .year y => some (.year (y.strip drop))
  | .comment c => (c.strip? drop).map .comment

/-- Data without comments. -/
def Data.strip (d : Data) : Data :=
  { d with blocks := d.blocks.filterMap (DataBlock.strip? drop) }

/-- A diachronic link without comments. -/
def DiachronicLink.strip (l : DiachronicLink) : DiachronicLink :=
  { l with comments := l.comments.filterMap (Comment.strip? drop) }

/-- A synchronous link without comments. -/
def SynchronousLink.strip (l : SynchronousLink) : SynchronousLink :=
  { l with comments := l.comments.filterMap (Comment.strip? drop) }

/-- A link without comments. -/
def Link.strip : Link → Link
  | .diachronic l => .diachronic (l.strip drop)
  | .synchronous l => .synchronous (l.strip drop)

/-- A member of a family without comments, unless it is a comment that is left out. -/
def FamilyMember.strip? : FamilyMember → Option FamilyMember
  | .outlet o => some (.outlet (o.strip drop))
  | .reference r => some (.reference r)
  | .data d => some (.data (d.strip drop))
  | .link l => some (.link (l.strip drop))
  | .comment c => (c.strip? drop).map .comment

/-- A family without comments. -/
def Family.strip (f : Family) : Family :=
  { f with members := f.members.filterMap (FamilyMember.strip? drop) }

/-- An event without comments. -/
def Event.strip (e : Event) : Event :=
  { e with comments := e.comments.filterMap (Comment.strip? drop) }

/-- A group of assignments without comments. -/
def NestedAssignment.strip (a : NestedAssignment) : NestedAssignment :=
  { a with fields := a.fields.filterMap (Field.strip? drop) }

/-- What a source holds, without comments, unless it is a comment that is left out. -/
def SourceField.strip? : SourceField → Option SourceField
  | .assignment a => some (.assignment a)
  | .nested a => some (.nested (a.strip drop))
  | .tag t => some (.tag t)
  | .comment c => (c.strip? drop).map .comment

/-- A source without comments. -/
def Source.strip (s : Source) : Source :=
  { s with fields := s.fields.filterMap (SourceField.strip? drop) }

/-- A catalog without comments. -/
def Catalog.strip (c : Catalog) : Catalog :=
  { c with sources := c.sources.map (Source.strip drop) }

/-- A statement without comments, unless it is a comment that is left out. -/
def Statement.strip? : Statement → Option Statement
  | .importFile d => some (.importFile d)
  | .letVariable d => some (.letVariable d)
  | .unit d => some (.unit d)
  | .vocabulary d => some (.vocabulary d)
  | .template d => some (.template (d.strip drop))
  | .family d => some (.family (d.strip drop))
  | .data d => some (.data (d.strip drop))
  | .link d => some (.link (d.strip drop))
  | .event d => some (.event (d.strip drop))
  | .catalog d => some (.catalog (d.strip drop))
  | .comment c => (c.strip? drop).map .comment

/-- A program without the comments that `drop` picks. -/
def Program.strip (p : Program) : Program :=
  ⟨p.statements.filterMap (Statement.strip? drop)⟩

end Strip

/-! ## Parts without comments -/

section Lists

variable {α β γ : Type} {strip? : α → Option α}

/-- What is selected from a list without comments, if no comment is selected. -/
theorem filterMap_strip {select : α → Option β} {select' : α → Option γ} {g : β → γ}
    (h : ∀ a, (strip? a).bind select' = (select a).map g) (as : List α) :
    (as.filterMap strip?).filterMap select' = (as.filterMap select).map g := by
  rw [List.filterMap_filterMap, List.map_filterMap]
  congr 1
  funext a
  exact h a

/-- What is listed for a list without comments, if nothing is listed for a comment. -/
theorem flatMap_strip {list list' : α → List β} (h : ∀ a, (strip? a).toList.flatMap list' = list a) (as : List α) :
    (as.filterMap strip?).flatMap list' = as.flatMap list := by
  induction as with
  | nil => rfl
  | cons a as ih =>
    rw [List.flatMap_cons, ← h a, ← ih]
    cases hstrip : strip? a <;> simp [hstrip]

end Lists

variable (drop : Comment → Bool)

/-- The assignments among fields are no comments. -/
@[simp] theorem assignments_strip (fields : List Field) :
    (fields.filterMap (Field.strip? drop)).filterMap Field.assignment? = fields.filterMap Field.assignment? := by
  rw [← List.map_id (fields.filterMap Field.assignment?)]
  exact filterMap_strip (fun x => by cases x <;> simp [Field.strip?, Field.assignment?]) fields

/-! ## Outlets -/

@[simp] theorem identities_strip (blocks : List Block) :
    identities (blocks.filterMap (Block.strip? drop)) = (identities blocks).map (Identity.strip drop) :=
  filterMap_strip (fun b => by cases b <;> simp [Block.strip?]) blocks

@[simp] theorem Identity.assignments_strip (b : Identity) : (b.strip drop).assignments = b.assignments := by
  have hassignments : (b.strip drop).assignments = b.assignments.map id :=
    filterMap_strip (fun x => by cases x <;> simp [IdentityField.strip?]) b.fields
  rw [hassignments, List.map_id]

/-- The first `id` of an identity block is no comment. -/
@[simp] theorem Identity.idNumber?_strip (b : Identity) : (b.strip drop).idNumber? = b.idNumber? := by
  rw [idNumber?, idNumber?, assignment?, assignment?, assignments_strip]

@[simp] theorem Outlet.idNumber?_strip (o : Outlet) : (o.strip drop).idNumber? = o.idNumber? := by
  simp [idNumber?, Outlet.strip, List.findSome?_map, Function.comp_def]

@[simp] theorem Outlet.declaredId?_strip (o : Outlet) : (o.strip drop).declaredId? = o.declaredId? := by
  rw [declaredId?, declaredId?, idNumber?_strip]

/-! ## Families and data -/

section Family

variable (f : Family)

@[simp] theorem Family.outlets_strip : (f.strip drop).outlets = f.outlets.map (Outlet.strip drop) :=
  filterMap_strip (fun m => by cases m <;> simp [FamilyMember.strip?]) f.members

@[simp] theorem Family.links_strip : (f.strip drop).links = f.links.map (Link.strip drop) :=
  filterMap_strip (fun m => by cases m <;> simp [FamilyMember.strip?]) f.members

@[simp] theorem Family.data_strip : (f.strip drop).data = f.data.map (Data.strip drop) :=
  filterMap_strip (fun m => by cases m <;> simp [FamilyMember.strip?]) f.members

end Family

@[simp] theorem Data.years_strip (d : Data) : (d.strip drop).years = d.years.map (Year.strip drop) :=
  filterMap_strip (fun b => by cases b <;> simp [DataBlock.strip?, DataBlock.year?]) d.blocks

/-- The figures of a year are no comments. -/
@[simp] theorem Year.figures_strip (y : Year) :
    (y.strip drop).blocks.flatMap YearBlock.figures = y.blocks.flatMap YearBlock.figures := by
  apply flatMap_strip
  intro b
  cases b with
  | comment c => cases h : c.strip? drop <;> simp [YearBlock.strip?, YearBlock.figures, h]
  | _ => simp [YearBlock.strip?]

@[simp] theorem Link.integers_strip (l : Link) : (l.strip drop).integers = l.integers := by
  cases l <;> rfl

/-! ## Programs -/

section Program

variable (p : Program)

@[simp] theorem Program.families_strip : (p.strip drop).families = p.families.map (Family.strip drop) :=
  filterMap_strip (fun s => by cases s <;> simp [Statement.strip?]) p.statements

@[simp] theorem Program.outlets_strip : (p.strip drop).outlets = p.outlets.map (Outlet.strip drop) := by
  simp [Program.outlets, List.flatMap_map, List.map_flatMap]

@[simp] theorem Program.imports_strip : (p.strip drop).imports = p.imports := by
  have himports : (p.strip drop).imports = p.imports.map id :=
    filterMap_strip (fun s => by cases s <;> simp [Statement.strip?]) p.statements
  rw [himports, List.map_id]

@[simp] theorem Program.bindings_strip : (p.strip drop).bindings = p.bindings := by
  have hbindings : (p.strip drop).bindings = p.bindings.map id :=
    filterMap_strip (fun s => by cases s <;> simp [Statement.strip?]) p.statements
  rw [hbindings, List.map_id]

@[simp] theorem Program.templates_strip : (p.strip drop).templates = p.templates.map (Template.strip drop) :=
  filterMap_strip (fun s => by cases s <;> simp [Statement.strip?]) p.statements

@[simp] theorem Program.units_strip : (p.strip drop).units = p.units := by
  have hunits : (p.strip drop).units = p.units.map id :=
    filterMap_strip (fun s => by cases s <;> simp [Statement.strip?]) p.statements
  rw [hunits, List.map_id]

@[simp] theorem Program.vocabularies_strip : (p.strip drop).vocabularies = p.vocabularies := by
  have hvocabularies : (p.strip drop).vocabularies = p.vocabularies.map id :=
    filterMap_strip (fun s => by cases s <;> simp [Statement.strip?]) p.statements
  rw [hvocabularies, List.map_id]

@[simp] theorem Program.looseLinks_strip : (p.strip drop).looseLinks = p.looseLinks.map (Link.strip drop) :=
  filterMap_strip (fun s => by cases s <;> simp [Statement.strip?]) p.statements

@[simp] theorem Program.looseData_strip : (p.strip drop).looseData = p.looseData.map (Data.strip drop) :=
  filterMap_strip (fun s => by cases s <;> simp [Statement.strip?]) p.statements

@[simp] theorem Program.events_strip : (p.strip drop).events = p.events.map (Event.strip drop) :=
  filterMap_strip (fun s => by cases s <;> simp [Statement.strip?]) p.statements

end Program

end MediaLanguage.Ast
