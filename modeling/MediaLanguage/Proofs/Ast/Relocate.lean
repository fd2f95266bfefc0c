import MediaLanguage.Model.Lowering
import MediaLanguage.Proofs.Ast.View
import MediaLanguage.Validation.References

/-!
# Programs that are moved

Selecting parts of a program and moving them to other places commute: the families of a program that is moved are the
families of the program, moved, and so on for every list of parts. What is read off a part without its place is the
same at every place.
-/

namespace MediaLanguage

namespace Ast

variable (f : Position → Position)

@[simp] theorem View.moving_place : (View.moving f).place = f := rfl

@[simp] theorem View.moving_name : (View.moving f).name = id := rfl

@[simp] theorem View.moving_level : (View.moving f).level = id := rfl

/-- A program with every place in it changed. -/
def Program.relocate (p : Program) : Program :=
  ⟨p.statements.map (Statement.relocate f)⟩

/-! ## Dates and expressions -/

@[simp] theorem Date.text_moving (d : Date) : (d.view (.moving f)).text = d.text := by
  cases d <;> rfl

@[simp] theorem Expr.string?_moving (e : Expr) : (e.view (.moving f)).string? = e.string? := by
  cases e <;> rfl

@[simp] theorem Expr.number?_moving (e : Expr) : (e.view (.moving f)).number? = e.number? := by
  cases e <;> rfl

@[simp] theorem ObjectLiteral.toExpr_moving (o : ObjectLiteral) :
    (o.view (.moving f)).toExpr = o.toExpr.view (.moving f) := by
  simp [ObjectLiteral.toExpr, ObjectLiteral.view, Expr.view, viewMembers_eq_map]

@[simp] theorem Field.assignment?_moving (x : Field) :
    (x.view (.moving f)).assignment? = x.assignment?.map (Assignment.view (.moving f)) := by
  cases x <;> rfl

/-- The assignments among fields that are moved. -/
theorem assignments_moving (fields : List Field) :
    (fields.map (Field.view (.moving f))).filterMap Field.assignment? =
      (fields.filterMap Field.assignment?).map (Assignment.view (.moving f)) :=
  filterMap_rewritten (Field.assignment?_moving f) fields

/-! ## Outlets -/

@[simp] theorem identities_moving (blocks : List Block) :
    identities (blocks.map (Block.view (.moving f))) = (identities blocks).map (Identity.view (.moving f)) :=
  filterMap_rewritten (fun b => by cases b <;> rfl) blocks

/-- The first `id` of an identity block is the same number at another place. -/
@[simp] theorem Identity.idNumber?_moving (b : Identity) : (b.view (.moving f)).idNumber? = b.idNumber? := by
  have hassignments : (b.view (.moving f)).assignments = b.assignments.map (Assignment.view (.moving f)) :=
    filterMap_rewritten (fun x => by cases x <;> rfl) b.fields
  rw [idNumber?, idNumber?, assignment?, assignment?, hassignments, List.find?_map]
  simp only [Function.comp_def, Assignment.view, View.moving_name, id]
  cases b.assignments.find? fun a => Text.lower a.name == "id" with
  | none => rfl
  | some a =>
    obtain ⟨name, value, position⟩ := a
    cases value <;> rfl

@[simp] theorem Outlet.idNumber?_moving (o : Outlet) : (o.view (.moving f)).idNumber? = o.idNumber? := by
  simp [idNumber?, Outlet.view, List.findSome?_map, Function.comp_def]

@[simp] theorem Outlet.declaredId?_moving (o : Outlet) : (o.view (.moving f)).declaredId? = o.declaredId? := by
  rw [declaredId?, declaredId?, idNumber?_moving]

@[simp] theorem Inheritance.template?_moving (i : Inheritance) : (i.view (.moving f)).template? = i.template? := by
  cases i <;> rfl

@[simp] theorem Inheritance.outlet?_moving (i : Inheritance) : (i.view (.moving f)).outlet? = i.outlet? := by
  cases i <;> rfl

/-- What an outlet takes over from a template is the same at another place. -/
@[simp] theorem Outlet.template?_moving (o : Outlet) :
    (o.view (.moving f)).inheritance.bind Inheritance.template? = o.inheritance.bind Inheritance.template? := by
  rw [Outlet.view]
  cases o.inheritance <;> simp

/-- The outlet that an outlet builds on is the same at another place. -/
@[simp] theorem Outlet.outlet?_moving (o : Outlet) :
    (o.view (.moving f)).inheritance.bind Inheritance.outlet? = o.inheritance.bind Inheritance.outlet? := by
  rw [Outlet.view]
  cases o.inheritance <;> simp

/-! ## Families and data -/

section Family

variable (x : Family)

@[simp] theorem Family.outlets_moving : (x.view (.moving f)).outlets = x.outlets.map (Outlet.view (.moving f)) :=
  filterMap_rewritten (fun m => by cases m <;> rfl) x.members

@[simp] theorem Family.links_moving : (x.view (.moving f)).links = x.links.map (Link.view (.moving f)) :=
  filterMap_rewritten (fun m => by cases m <;> rfl) x.members

@[simp] theorem Family.data_moving : (x.view (.moving f)).data = x.data.map (Data.view (.moving f)) :=
  filterMap_rewritten (fun m => by cases m <;> rfl) x.members

@[simp] theorem Family.comments_moving : (x.view (.moving f)).comments = x.comments.map (Comment.view (.moving f)) :=
  filterMap_rewritten (fun m => by cases m <;> rfl) x.members

end Family

@[simp] theorem YearBlock.figures_moving (b : YearBlock) :
    (b.view (.moving f)).figures = b.figures.map (Metric.view (.moving f)) := by
  cases b <;> rfl

@[simp] theorem Data.years_moving (d : Data) : (d.view (.moving f)).years = d.years.map (Year.view (.moving f)) :=
  filterMap_rewritten (fun b => by cases b <;> rfl) d.blocks

@[simp] theorem Link.integers_moving (l : Link) : (l.view (.moving f)).integers = l.integers := by
  cases l with
  | diachronic l => rfl
  | synchronous l =>
    have hside : ∀ s : Option OutletSpec,
        (s.map (OutletSpec.view (.moving f))).toList.map OutletSpec.outlet = s.toList.map OutletSpec.outlet := by
      intro s
      cases s <;> rfl
    simp [Link.view, Link.integers, SynchronousLink.view, hside]

/-! ## Programs -/

section Program

variable (p : Program)

@[simp] theorem Program.statements_relocate :
    (p.relocate f).statements = p.statements.map (Statement.view (.moving f)) := rfl

@[simp] theorem Program.families_relocate : (p.relocate f).families = p.families.map (Family.view (.moving f)) :=
  filterMap_rewritten (fun s => by cases s <;> rfl) p.statements

@[simp] theorem Program.outlets_relocate : (p.relocate f).outlets = p.outlets.map (Outlet.view (.moving f)) := by
  simp [Program.outlets, List.flatMap_map, List.map_flatMap]

@[simp] theorem Program.imports_relocate : (p.relocate f).imports = p.imports.map (Import.view (.moving f)) :=
  filterMap_rewritten (fun s => by cases s <;> rfl) p.statements

@[simp] theorem Program.bindings_relocate : (p.relocate f).bindings = p.bindings.map (Variable.view (.moving f)) :=
  filterMap_rewritten (fun s => by cases s <;> rfl) p.statements

@[simp] theorem Program.templates_relocate : (p.relocate f).templates = p.templates.map (Template.view (.moving f)) :=
  filterMap_rewritten (fun s => by cases s <;> rfl) p.statements

@[simp] theorem Program.units_relocate : (p.relocate f).units = p.units.map (UnitDeclaration.view (.moving f)) :=
  filterMap_rewritten (fun s => by cases s <;> rfl) p.statements

@[simp] theorem Program.vocabularies_relocate :
    (p.relocate f).vocabularies = p.vocabularies.map (Vocabulary.view (.moving f)) :=
  filterMap_rewritten (fun s => by cases s <;> rfl) p.statements

@[simp] theorem Program.looseLinks_relocate : (p.relocate f).looseLinks = p.looseLinks.map (Link.view (.moving f)) :=
  filterMap_rewritten (fun s => by cases s <;> rfl) p.statements

@[simp] theorem Program.looseData_relocate : (p.relocate f).looseData = p.looseData.map (Data.view (.moving f)) :=
  filterMap_rewritten (fun s => by cases s <;> rfl) p.statements

@[simp] theorem Program.events_relocate : (p.relocate f).events = p.events.map (Event.view (.moving f)) :=
  filterMap_rewritten (fun s => by cases s <;> rfl) p.statements

end Program

end Ast

end MediaLanguage
