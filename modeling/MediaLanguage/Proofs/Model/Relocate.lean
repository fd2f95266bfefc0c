import MediaLanguage.Proofs.Ast.Relocate
import MediaLanguage.Validation.Validator

/-!
# The model of a program that is moved

A model holds no places, and no part of it is chosen by one: a program has the same model wherever its parts stand
(`Program.toModel_relocate`), and the same numbers have to be integers (`Program.integers_relocate`,
`Validator.integers_relocate`). So a program that is moved is lowered to the same model, or fails on the same number
(`Program.lower_relocate`).
-/

namespace MediaLanguage

namespace Ast

variable (f : Position → Position)

/-! ## Expressions -/

mutual

/-- An expression has the same value at another place. -/
theorem Expr.lower_moving : ∀ e : Expr, (e.view (.moving f)).lower = e.lower
  | .string .. | .number .. | .boolean .. | .reference .. => rfl
  | .object members _ => by
    simp only [Expr.view, Expr.lower, lowerMembers_moving members]

/-- An object has the same fields at another place. -/
theorem lowerMembers_moving : ∀ members : List Member,
    lowerMembers (viewMembers (.moving f) members) = lowerMembers members
  | [] => rfl
  | .assignment name value _ :: members => by
    simp only [viewMembers, Member.view, lowerMembers, value.lower_moving, lowerMembers_moving members]
    rfl
  | .period name range _ :: members => by
    simp only [viewMembers, Member.view, lowerMembers, lowerMembers_moving members]
    simp [DateRange.view, Function.comp_def]

end

attribute [simp] Expr.lower_moving

@[simp] theorem ObjectLiteral.lower_moving (o : ObjectLiteral) : (o.view (.moving f)).lower = o.lower := by
  rw [lower, lower, toExpr_moving, Expr.lower_moving]

@[simp] theorem Assignment.lower_moving (a : Assignment) : (a.view (.moving f)).lower = a.lower := by
  simp [lower, Assignment.view]

@[simp] theorem lowerFields_moving (fields : List Field) :
    lowerFields (fields.map (Field.view (.moving f))) = lowerFields fields := by
  rw [lowerFields, lowerFields, assignments_moving]
  simp [Function.comp_def]

/-! ## Declarations -/

@[simp] theorem UnitDeclaration.lower_moving (u : UnitDeclaration) : (u.view (.moving f)).lower = u.lower := by
  simp [lower, UnitDeclaration.view, UnitField.view, TypeExpr.view, Function.comp_def]

@[simp] theorem Vocabulary.lower_moving (v : Vocabulary) : (v.view (.moving f)).lower = v.lower := by
  simp [lower, Vocabulary.view, VocabularyBody.view, VocabularyEntry.view, List.flatMap_map, Function.comp_def]

@[simp] theorem Block.lowerTemplate?_moving (b : Block) : (b.view (.moving f)).lowerTemplate? = b.lowerTemplate? := by
  cases b <;> simp [Block.view, lowerTemplate?, FieldBlock.view]

@[simp] theorem Template.lower_moving (t : Template) : (t.view (.moving f)).lower = t.lower := by
  simp only [lower, Template.view, View.moving_place, List.filterMap_map, Function.comp_def,
    Block.lowerTemplate?_moving]

/-! ## Outlets -/

@[simp] theorem IdentityField.lower?_moving (x : IdentityField) : (x.view (.moving f)).lower? = x.lower? := by
  cases x <;> simp [IdentityField.view, lower?, ArrayAssignment.view, Function.comp_def]

@[simp] theorem attributeText?_moving (attributes : List Assignment) (name : String) :
    attributeText? (attributes.map (Assignment.view (.moving f))) name = attributeText? attributes name := by
  rw [attributeText?, attributeText?, ← List.map_reverse, List.find?_map]
  simp only [Function.comp_def, Assignment.view, View.moving_name, id]
  cases attributes.reverse.find? fun a => Text.lower a.name == name with
  | none => rfl
  | some a => exact a.value.string?_moving f

@[simp] theorem LifecycleEntry.lower_moving (e : LifecycleEntry) : (e.view (.moving f)).lower = e.lower := by
  simp only [lower, LifecycleEntry.view, assignments_moving, attributeText?_moving]
  simp [Function.comp_def]

@[simp] theorem Block.lower?_moving (b : Block) : (b.view (.moving f)).lower? = b.lower? := by
  cases b <;>
    simp [Block.view, lower?, Identity.view, Lifecycle.view, FieldBlock.view, List.filterMap_map, Function.comp_def]

@[simp] theorem Outlet.lower_moving (o : Outlet) : (o.view (.moving f)).lower = o.lower := by
  rw [lower, lower, declaredId?_moving, template?_moving, outlet?_moving]
  simp only [Outlet.view, View.moving_place, Option.map_bind, List.filterMap_map, Function.comp_def,
    Block.lower?_moving]

/-! ## Market data -/

/-- What `read` finds in attributes, if it finds the same in an expression at another place. -/
theorem lastAttribute?_moving {α : Type} {read : Expr → Option α}
    (hread : ∀ e : Expr, read (e.view (.moving f)) = read e) (attributes : List Assignment) (name : String) :
    lastAttribute? (attributes.map (Assignment.view (.moving f))) name read = lastAttribute? attributes name read := by
  rw [lastAttribute?, lastAttribute?, List.filterMap_map]
  simp only [Function.comp_def, Assignment.view, hread, View.moving_name, id]

@[simp] theorem Metric.lower_moving (m : Metric) : (m.view (.moving f)).lower = m.lower := by
  simp [lower, Metric.view, lastAttribute?_moving]

@[simp] theorem YearBlock.remark?_moving (b : YearBlock) : (b.view (.moving f)).remark? = b.remark? := by
  cases b <;> rfl

@[simp] theorem Year.lower_moving (y : Year) : (y.view (.moving f)).lower = y.lower := by
  simp [lower, Year.view, List.filterMap_map, List.flatMap_map, List.map_flatMap, Function.comp_def]

@[simp] theorem DataBlock.levels_moving (b : DataBlock) :
    (b.view (.moving f)).levels = b.levels.map (AggregationField.view (.moving f)) := by
  cases b <;> rfl

/-- The annotations with a name, among what data hold at another place. -/
theorem DataBlock.tagNamed?_moving (name : String) (b : DataBlock) :
    (b.view (.moving f)).tagNamed? name = (b.tagNamed? name).map (Tag.view (.moving f)) := by
  cases b with
  | tag t =>
    by_cases hname : t.name == name
    · simp [DataBlock.view, tagNamed?, Tag.view, hname]
    · simp [DataBlock.view, tagNamed?, Tag.view, hname]
  | aggregation a => rfl
  | year y => rfl
  | comment c => rfl

@[simp] theorem Data.lower_moving (d : Data) : (d.view (.moving f)).lower = d.lower := by
  have htags : (d.view (.moving f)).blocks.filterMap (DataBlock.tagNamed? "maps_to") =
      (d.blocks.filterMap (DataBlock.tagNamed? "maps_to")).map (Tag.view (.moving f)) :=
    filterMap_rewritten (DataBlock.tagNamed?_moving f "maps_to") d.blocks
  have hvalue : ∀ t : Option Tag, (t.map (Tag.view (.moving f))).bind Tag.value = t.bind Tag.value := by
    intro t
    cases t <;> rfl
  rw [lower, lower, htags, List.getLast?_map, hvalue, years_moving]
  simp [Data.view, AggregationField.view, List.map_flatMap, List.flatMap_map, Function.comp_def]

/-! ## Links and events -/

@[simp] theorem tagValue?_moving (tags : List Tag) (name : String) :
    tagValue? (tags.map (Tag.view (.moving f))) name = tagValue? tags name := by
  rw [tagValue?, tagValue?, List.find?_map]
  simp only [Function.comp_def, Tag.view]
  cases tags.find? fun t => t.name == name <;> rfl

@[simp] theorem DiachronicLink.lower_moving (l : DiachronicLink) : (l.view (.moving f)).lower = l.lower := by
  have hend : ((l.eventDate.map (DateRange.view (.moving f))).bind DateRange.finish).map Date.text =
      (l.eventDate.bind DateRange.finish).map Date.text := by
    cases l.eventDate with
    | none => rfl
    | some range => simp [DateRange.view, Function.comp_def]
  simp only [lower, DiachronicLink.view, hend]
  simp [DateRange.view, Function.comp_def]

@[simp] theorem OutletSpec.lower_moving (s : OutletSpec) : (s.view (.moving f)).lower = s.lower := rfl

@[simp] theorem SynchronousLink.lower_moving (l : SynchronousLink) : (l.view (.moving f)).lower = l.lower := by
  simp [lower, SynchronousLink.view, Function.comp_def]

@[simp] theorem Link.lower_moving (l : Link) : (l.view (.moving f)).lower = l.lower := by
  cases l <;> simp [Link.view, lower]

@[simp] theorem EventEntity.lower_moving (e : EventEntity) : (e.view (.moving f)).lower = e.lower := rfl

@[simp] theorem Event.lower_moving (e : Event) : (e.view (.moving f)).lower = e.lower := by
  simp [lower, Event.view, Function.comp_def]

/-! ## Families and programs -/

@[simp] theorem Family.lower_moving (x : Family) : (x.view (.moving f)).lower = x.lower := by
  rw [lower, lower, outlets_moving, links_moving, data_moving, comments_moving]
  simp [Family.view, Comment.view, Function.comp_def]

/-- A program has the same model wherever its parts stand. -/
theorem Program.toModel_relocate (p : Program) : (p.relocate f).toModel = p.toModel := by
  simp [toModel, Import.view, Variable.view, Function.comp_def]

/-! ## Integers -/

@[simp] theorem Data.integers_moving (d : Data) : (d.view (.moving f)).integers = d.integers := by
  rw [integers, integers, years_moving]
  simp [Data.view, Year.view, Function.comp_def]

@[simp] theorem Outlet.integers_moving (o : Outlet) : (o.view (.moving f)).integers = o.integers := by
  rw [integers, integers, idNumber?_moving, outlet?_moving]

@[simp] theorem Family.integers_moving (x : Family) : (x.view (.moving f)).integers = x.integers := by
  simp [integers, List.flatMap_map]

/-- The numbers that have to be integers are the same wherever they stand. -/
theorem Program.integers_relocate (p : Program) : (p.relocate f).integers = p.integers := by
  simp [integers, List.flatMap_map, Event.view, EventEntity.view, List.filterMap_map, Function.comp_def]

/-- A program that is moved is lowered to the same model, or fails on the same number. -/
theorem Program.lower_relocate (p : Program) : (p.relocate f).lower = p.lower := by
  rw [lower, lower, integers_relocate, toModel_relocate]

@[simp] theorem Statement.referredNumbers_moving (s : Statement) :
    (s.view (.moving f)).referredNumbers = s.referredNumbers := by
  cases s with
  | family x =>
    simp only [Statement.view, referredNumbers, Family.view, List.flatMap_map]
    congr 1
    funext m
    cases m with
    | link l => exact l.integers_moving f
    | _ => rfl
  | link l => exact l.integers_moving f
  | _ => rfl

end Ast

/-- The numbers that validation turns into integers are the same wherever they stand. -/
theorem Validator.integers_relocate (f : Position → Position) (p : Ast.Program) :
    integers (p.relocate f) = integers p := by
  simp only [integers, Ast.Program.declaredNumbers, Ast.Program.baseNumbers, Ast.Program.outlets_relocate,
    Ast.Program.statements_relocate, List.filterMap_map, List.flatMap_map, Function.comp_def,
    Ast.Outlet.idNumber?_moving, Ast.Outlet.outlet?_moving, Ast.Statement.referredNumbers_moving]

end MediaLanguage
