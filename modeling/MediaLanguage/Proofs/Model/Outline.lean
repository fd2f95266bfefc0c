import MediaLanguage.Model.Lowering
import MediaLanguage.Proofs.Ast.Outline
import MediaLanguage.Proofs.Ast.View

/-!
# Outlines of models

The outline of a model is the model with its texts empty; names that a program writes without quotes are kept. The
outline of the model of a program is determined by the outline of the program (`Program.toModel_outline`).
-/

namespace MediaLanguage.Model

/-! ## Values -/

mutual

/-- The outline of a value. -/
def Value.outline : Value → Value
  | .string _ => .string ""
  | .number value => .number value
  | .boolean value => .boolean value
  | .reference name => .reference name
  | .object fields => .object (outlineFields fields)
  | .array items => .array (outlineItems items)

/-- The outlines of the fields of an object. -/
def outlineFields : List (String × Value) → List (String × Value)
  | [] => []
  | (name, value) :: fields => (name, value.outline) :: outlineFields fields

/-- The outlines of the items of an array. -/
def outlineItems : List Value → List Value
  | [] => []
  | value :: items => value.outline :: outlineItems items

end

theorem outlineItems_eq_map (items : List Value) : outlineItems items = items.map Value.outline := by
  induction items with
  | nil => rfl
  | cons value items ih => rw [outlineItems, ih, List.map_cons]

/-- The outline of an assignment. -/
def Assignment.outline (a : Assignment) : Assignment :=
  ⟨a.name, a.value.outline⟩

/-! ## Units and vocabularies -/

/-- The outline of a column. -/
def Column.outline (c : Column) : Column :=
  { c with type := c.type.outline }

/-- The outline of a unit. -/
def UnitTable.outline (u : UnitTable) : UnitTable :=
  { u with columns := u.columns.map Column.outline }

/-- The outline of an entry. -/
def VocabularyEntry.outline (e : VocabularyEntry) : VocabularyEntry :=
  ⟨e.key.outline, ""⟩

/-- The outline of a vocabulary. -/
def Vocabulary.outline (v : Vocabulary) : Vocabulary :=
  { v with entries := v.entries.map VocabularyEntry.outline }

/-! ## Market data -/

/-- The outline of a level. -/
def AggregationLevel.outline (a : AggregationLevel) : AggregationLevel :=
  { a with value := "" }

/-- The outline of a figure. -/
def Metric.outline (m : Metric) : Metric :=
  { m with unit := "", source := "", comment := emptied m.comment }

/-- The outline of a year. -/
def Year.outline (y : Year) : Year :=
  { y with metrics := y.metrics.map Metric.outline, comment := emptied y.comment }

/-- The outline of the data of an outlet. -/
def DataBlock.outline (d : DataBlock) : DataBlock :=
  { d with
    aggregation := d.aggregation.map AggregationLevel.outline
    years := d.years.map Year.outline
    mapsTo := emptied d.mapsTo }

/-! ## Links -/

/-- The outline of a diachronic link. -/
def DiachronicLink.outline (l : DiachronicLink) : DiachronicLink :=
  { l with
    name := ""
    eventStart := emptied l.eventStart
    eventEnd := emptied l.eventEnd
    relationshipType := ""
    comment := emptied l.comment
    mapsTo := emptied l.mapsTo }

/-- The outline of a synchronous link. -/
def SynchronousLink.outline (l : SynchronousLink) : SynchronousLink :=
  { l with
    name := ""
    first := { l.first with role := "" }
    second := { l.second with role := "" }
    relationshipType := ""
    periodStart := emptied l.periodStart
    periodEnd := emptied l.periodEnd
    details := emptied l.details
    mapsTo := emptied l.mapsTo }

/-- The outline of a link. -/
def Link.outline : Link → Link
  | .diachronic l => .diachronic l.outline
  | .synchronous l => .synchronous l.outline

/-! ## Outlets -/

/-- The outline of a status. -/
def Status.outline (s : Status) : Status where
  status := ""
  startDate := emptied s.startDate
  endDate := emptied s.endDate
  precisionStart := emptied s.precisionStart
  precisionEnd := emptied s.precisionEnd
  comment := emptied s.comment

/-- The outline of a block of an outlet. -/
def Block.outline : Block → Block
  | .identity fields => .identity (fields.map Assignment.outline)
  | .lifecycle statuses => .lifecycle (statuses.map Status.outline)
  | .characteristics fields => .characteristics (fields.map Assignment.outline)
  | .metadata fields => .metadata (fields.map Assignment.outline)

/-- The outline of a block of a template. -/
def TemplateBlock.outline : TemplateBlock → TemplateBlock
  | .characteristics fields => .characteristics (fields.map Assignment.outline)
  | .metadata fields => .metadata (fields.map Assignment.outline)

/-- The outline of a template. -/
def Template.outline (t : Template) : Template :=
  { t with name := "", blocks := t.blocks.map TemplateBlock.outline }

/-- The outline of an outlet. -/
def Outlet.outline (o : Outlet) : Outlet :=
  { o with name := "", templateRef := emptied o.templateRef, blocks := o.blocks.map Block.outline }

@[simp] theorem Outlet.outline_id (o : Outlet) : o.outline.id = o.id := rfl

@[simp] theorem Outlet.outline_templateRef (o : Outlet) : o.outline.templateRef = emptied o.templateRef := rfl

@[simp] theorem Outlet.outline_baseRef (o : Outlet) : o.outline.baseRef = o.baseRef := rfl

/-- The outline of a family. -/
def Family.outline (f : Family) : Family where
  name := ""
  comment := emptied f.comment
  outlets := f.outlets.map Outlet.outline
  links := f.links.map Link.outline
  data := f.data.map DataBlock.outline

/-! ## Events and programs -/

/-- The outline of an outlet in an event. -/
def EventEntity.outline (e : EventEntity) : EventEntity :=
  { e with role := "" }

/-- The outline of an event. -/
def Event.outline (e : Event) : Event :=
  { e with
    type := ""
    date := emptied e.date
    entities := e.entities.map EventEntity.outline
    impact := e.impact.map Assignment.outline
    metadata := e.metadata.map Assignment.outline
    status := emptied e.status }

/-- The outline of a model. -/
def Program.outline (p : Program) : Program where
  imports := p.imports.map fun _ => ""
  bindings := p.bindings.map Assignment.outline
  templates := p.templates.map Template.outline
  units := p.units.map UnitTable.outline
  vocabularies := p.vocabularies.map Vocabulary.outline
  families := p.families.map Family.outline
  events := p.events.map Event.outline

end MediaLanguage.Model

namespace MediaLanguage

/-! ## Outlines of what may be missing -/

section Emptied

variable {α : Type} (s : Option String) (x : Option α) (f : α → String)

@[simp] theorem emptied_none : emptied none = none := rfl

@[simp] theorem emptied_some (t : String) : emptied (some t) = some "" := rfl

@[simp] theorem emptied_emptied : emptied (emptied s) = emptied s := by
  cases s <;> rfl

/-- A text made of what may be missing is there if that is. -/
@[simp] theorem emptied_map : emptied (x.map f) = x.map fun _ => "" := by
  cases x <;> rfl

end Emptied

@[simp] theorem FieldType.outline_outline (t : FieldType) : t.outline.outline = t.outline := by
  cases t <;> simp [outline]

@[simp] theorem VocabularyKey.outline_outline (k : VocabularyKey) : k.outline.outline = k.outline := by
  cases k <;> rfl

/-! ## Outlines of lists -/

/-- What is written for each part has the same outlines if it has for every part. -/
theorem flatMap_outline {α β : Type} {f : α → α} {write write' : α → List β} {g : β → β}
    (h : ∀ a, (write' (f a)).map g = (write a).map g) (as : List α) :
    ((as.map f).flatMap write').map g = (as.flatMap write).map g := by
  rw [List.map_flatMap, List.map_flatMap, List.flatMap_map]
  congr 1
  funext a
  exact h a

namespace Ast

/-! ## Expressions -/

mutual

/-- The value of an outline has the outline of the value. -/
theorem Expr.lower_outline : ∀ e : Expr, e.outline.lower.outline = e.lower.outline
  | .string .. | .number .. | .boolean .. | .reference .. => rfl
  | .object members _ => by
    simp only [Expr.outline, Expr.lower, Model.Value.outline, lowerMembers_outline members]

/-- The fields of the outline of an object. -/
theorem lowerMembers_outline : ∀ members : List Member,
    Model.outlineFields (lowerMembers (outlineMembers members)) = Model.outlineFields (lowerMembers members)
  | [] => rfl
  | .assignment name value _ :: members => by
    simp only [outlineMembers, lowerMembers, Model.outlineFields, value.lower_outline, lowerMembers_outline members]
  | .period name range _ :: members => by
    simp only [outlineMembers, lowerMembers, Model.outlineFields, lowerMembers_outline members]
    cases hfinish : range.finish <;>
      simp [DateRange.outline, hfinish, Model.Value.outline, Model.outlineFields]

end

attribute [simp] Expr.lower_outline

@[simp] theorem ObjectLiteral.lower_outline (o : ObjectLiteral) : o.outline.lower.outline = o.lower.outline := by
  exact Expr.lower_outline o.toExpr

/-- The outline of an assignment keeps the name. -/
@[simp] theorem Assignment.lower_outline (a : Assignment) : a.outline.lower.outline = a.lower.outline := by
  simp [Assignment.lower, outline, Model.Assignment.outline]

@[simp] theorem Expr.string?_outline (e : Expr) : e.outline.string? = emptied e.string? := by
  cases e <;> rfl

@[simp] theorem Expr.number?_outline (e : Expr) : e.outline.number? = e.number? := by
  cases e <;> rfl

/-- The assignments among the outlines of fields. -/
theorem assignments_outline (fields : List Field) :
    (fields.map Field.outline).filterMap Field.assignment? =
      (fields.filterMap Field.assignment?).map Assignment.outline :=
  filterMap_rewritten (fun f => by cases f <;> rfl) fields

@[simp] theorem lowerFields_outline (fields : List Field) :
    (lowerFields (fields.map Field.outline)).map Model.Assignment.outline =
      (lowerFields fields).map Model.Assignment.outline := by
  rw [lowerFields, lowerFields, assignments_outline]
  simp [Function.comp_def]

/-! ## Declarations -/

@[simp] theorem UnitDeclaration.lower_outline (u : UnitDeclaration) : u.outline.lower.outline = u.lower.outline := by
  simp [lower, outline, UnitField.outline, Model.UnitTable.outline, Model.Column.outline, Function.comp_def]

@[simp] theorem Vocabulary.lower_outline (v : Vocabulary) : v.outline.lower.outline = v.lower.outline := by
  simp [lower, outline, VocabularyBody.outline, VocabularyEntry.outline, Model.Vocabulary.outline,
    Model.VocabularyEntry.outline, List.map_flatMap, List.flatMap_map, Function.comp_def]

theorem Block.lowerTemplate?_outline (b : Block) :
    b.outline.lowerTemplate?.map Model.TemplateBlock.outline = b.lowerTemplate?.map Model.TemplateBlock.outline := by
  cases b <;> simp [outline, lowerTemplate?, FieldBlock.outline, Model.TemplateBlock.outline]

@[simp] theorem Template.lower_outline (t : Template) : t.outline.lower.outline = t.lower.outline := by
  simp [lower, outline, Model.Template.outline, List.map_filterMap, Block.lowerTemplate?_outline]

/-! ## Outlets -/

theorem IdentityField.lower?_outline (f : IdentityField) :
    f.outline.lower?.map Model.Assignment.outline = f.lower?.map Model.Assignment.outline := by
  cases f with
  | assignment a => simp [outline, lower?]
  | array a =>
    simp [outline, lower?, Model.Assignment.outline, Model.Value.outline, Model.outlineItems_eq_map, Function.comp_def]
  | comment c => rfl

@[simp] theorem attributeText?_outline (attributes : List Assignment) (name : String) :
    attributeText? (attributes.map Assignment.outline) name = emptied (attributeText? attributes name) := by
  rw [attributeText?, attributeText?, ← List.map_reverse, List.find?_map]
  cases hfound : attributes.reverse.find? fun a => Text.lower a.name == name with
  | none => simp [Function.comp_def, Assignment.outline, hfound]
  | some a => simp [Function.comp_def, Assignment.outline, hfound]

@[simp] theorem LifecycleEntry.lower_outline (e : LifecycleEntry) : e.outline.lower.outline = e.lower.outline := by
  simp only [lower, outline, assignments_outline, attributeText?_outline]
  simp [Model.Status.outline, Function.comp_def]

theorem Block.lower?_outline (b : Block) :
    b.outline.lower?.map Model.Block.outline = b.lower?.map Model.Block.outline := by
  cases b with
  | identity b =>
    simp [outline, Identity.outline, lower?, Model.Block.outline, List.map_filterMap, IdentityField.lower?_outline]
  | lifecycle b => simp [outline, lower?, Model.Block.outline, Function.comp_def]
  | characteristics b => simp [outline, lower?, Model.Block.outline, FieldBlock.outline]
  | metadata b => simp [outline, lower?, Model.Block.outline, FieldBlock.outline]
  | comment c => rfl

/-- The first `id` of an identity block is the same number in the outline. -/
theorem Identity.idNumber?_outline (b : Identity) : b.outline.idNumber? = b.idNumber? := by
  have hassignments : b.outline.assignments = b.assignments.map Assignment.outline :=
    filterMap_rewritten (fun f => by cases f <;> rfl) b.fields
  rw [idNumber?, idNumber?, assignment?, assignment?, hassignments, List.find?_map]
  simp only [Function.comp_def, Assignment.outline]
  cases b.assignments.find? fun a => Text.lower a.name == "id" with
  | none => rfl
  | some a =>
    obtain ⟨name, value, position⟩ := a
    cases value <;> rfl

/-- An outlet has the same number in the outline. -/
@[simp] theorem Outlet.declaredId?_outline (o : Outlet) : o.outline.declaredId? = o.declaredId? := by
  have hidentities : identities o.outline.blocks = (identities o.blocks).map Identity.outline :=
    filterMap_rewritten (fun b => by cases b <;> rfl) o.blocks
  simp [declaredId?, idNumber?, hidentities, List.findSome?_map, Function.comp_def, Identity.idNumber?_outline]

@[simp] theorem Inheritance.template?_outline (i : Inheritance) : i.outline.template? = emptied i.template? := by
  cases i <;> rfl

@[simp] theorem Inheritance.outlet?_outline (i : Inheritance) : i.outline.outlet? = i.outlet? := by
  cases i <;> rfl

@[simp] theorem Outlet.lower_outline (o : Outlet) : o.outline.lower.outline = o.lower.outline := by
  have htemplate : emptied ((o.inheritance.map Inheritance.outline).bind Inheritance.template?) =
      emptied (o.inheritance.bind Inheritance.template?) := by
    cases o.inheritance <;> simp
  have houtlet : (o.inheritance.map Inheritance.outline).bind Inheritance.outlet? =
      o.inheritance.bind Inheritance.outlet? := by
    cases o.inheritance <;> simp
  simp only [lower, Model.Outlet.outline, declaredId?_outline]
  simp only [outline, htemplate, houtlet, List.map_filterMap, List.filterMap_map, Function.comp_def,
    Block.lower?_outline]

/-! ## Market data -/

/-- What `read` finds in outlines, if it finds `f x` in an outline where it finds `x`. -/
theorem lastAttribute?_outline {α : Type} {read : Expr → Option α} {f : α → α}
    (hread : ∀ e : Expr, read e.outline = (read e).map f) (attributes : List Assignment) (name : String) :
    lastAttribute? (attributes.map Assignment.outline) name read = (lastAttribute? attributes name read).map f := by
  rw [lastAttribute?, lastAttribute?, ← List.getLast?_map, List.map_filterMap, List.filterMap_map]
  congr 2
  funext a
  by_cases hname : Text.lower a.name = name
  · simp [Assignment.outline, hname, hread]
  · simp [Assignment.outline, hname]

@[simp] theorem lastAttribute?_string_outline (attributes : List Assignment) (name : String) :
    lastAttribute? (attributes.map Assignment.outline) name Expr.string? =
      emptied (lastAttribute? attributes name Expr.string?) :=
  lastAttribute?_outline Expr.string?_outline attributes name

@[simp] theorem lastAttribute?_number_outline (attributes : List Assignment) (name : String) :
    lastAttribute? (attributes.map Assignment.outline) name Expr.number? =
      lastAttribute? attributes name Expr.number? := by
  rw [lastAttribute?_outline (f := id) (fun e => by simp) attributes name, Option.map_id_fun, id]

@[simp] theorem Metric.lower_outline (m : Metric) : m.outline.lower.outline = m.lower.outline := by
  simp [lower, outline, Model.Metric.outline]

@[simp] theorem YearBlock.figures_outline (b : YearBlock) : b.outline.figures = b.figures.map Metric.outline := by
  cases b <;> rfl

@[simp] theorem YearBlock.remark?_outline (b : YearBlock) : b.outline.remark? = emptied b.remark? := by
  cases b <;> rfl

@[simp] theorem Year.lower_outline (y : Year) : y.outline.lower.outline = y.lower.outline := by
  have hremarks : (y.blocks.map YearBlock.outline).filterMap YearBlock.remark? =
      (y.blocks.filterMap YearBlock.remark?).map fun _ => "" :=
    filterMap_rewritten YearBlock.remark?_outline y.blocks
  simp only [lower, outline, Model.Year.outline, hremarks, List.getLast?_map, emptied_map]
  simp [emptied, List.map_flatMap, List.flatMap_map, Function.comp_def]

@[simp] theorem DataBlock.levels_outline (b : DataBlock) :
    b.outline.levels = b.levels.map AggregationField.outline := by
  cases b <;> rfl

@[simp] theorem Tag.value_outline (t : Tag) : t.outline.value = emptied t.value := rfl

/-- The annotations with a name, among the outlines of what data hold. -/
theorem DataBlock.tagNamed?_outline (name : String) (b : DataBlock) :
    b.outline.tagNamed? name = (b.tagNamed? name).map Tag.outline := by
  cases b with
  | tag t =>
    by_cases hname : t.name == name
    · simp [outline, tagNamed?, Tag.outline, hname]
    · simp [outline, tagNamed?, Tag.outline, hname]
  | aggregation a => rfl
  | year y => rfl
  | comment c => rfl

@[simp] theorem Data.lower_outline (d : Data) : d.outline.lower.outline = d.lower.outline := by
  have hyears : d.outline.years = d.years.map Year.outline :=
    filterMap_rewritten (fun b => by cases b <;> rfl) d.blocks
  have htags : d.outline.blocks.filterMap (DataBlock.tagNamed? "maps_to") =
      (d.blocks.filterMap (DataBlock.tagNamed? "maps_to")).map Tag.outline :=
    filterMap_rewritten (DataBlock.tagNamed?_outline "maps_to") d.blocks
  have hmaps :
      emptied (((d.blocks.filterMap (DataBlock.tagNamed? "maps_to")).map Tag.outline).getLast?.bind Tag.value) =
        emptied ((d.blocks.filterMap (DataBlock.tagNamed? "maps_to")).getLast?.bind Tag.value) := by
    rw [List.getLast?_map]
    cases (d.blocks.filterMap (DataBlock.tagNamed? "maps_to")).getLast? <;> simp
  simp only [lower, Model.DataBlock.outline, hyears, htags, hmaps]
  simp [outline, Model.AggregationLevel.outline, AggregationField.outline, List.map_flatMap, List.flatMap_map,
    Function.comp_def]

/-! ## Links and events -/

@[simp] theorem tagValue?_outline (tags : List Tag) (name : String) :
    tagValue? (tags.map Tag.outline) name = emptied (tagValue? tags name) := by
  rw [tagValue?, tagValue?, List.find?_map]
  simp only [Function.comp_def, Tag.outline]
  cases tags.find? fun t => t.name == name <;> simp

@[simp] theorem DiachronicLink.lower_outline (l : DiachronicLink) : l.outline.lower.outline = l.lower.outline := by
  have hend : emptied (((l.eventDate.map DateRange.outline).bind DateRange.finish).map Date.text) =
      emptied ((l.eventDate.bind DateRange.finish).map Date.text) := by
    cases l.eventDate with
    | none => rfl
    | some range => simp [DateRange.outline, Function.comp_def]
  simp only [lower, outline, Model.DiachronicLink.outline, hend]
  simp [Function.comp_def]

@[simp] theorem SynchronousLink.lower_outline (l : SynchronousLink) : l.outline.lower.outline = l.lower.outline := by
  have hside : ∀ s : Option OutletSpec, { ((s.map OutletSpec.outline).map OutletSpec.lower).getD {} with role := "" } =
      { (s.map OutletSpec.lower).getD {} with role := "" } := by
    intro s
    cases s <;> rfl
  simp only [lower, outline, Model.SynchronousLink.outline, hside]
  simp [Function.comp_def]

@[simp] theorem Link.lower_outline (l : Link) : l.outline.lower.outline = l.lower.outline := by
  cases l <;> simp [outline, lower, Model.Link.outline]

@[simp] theorem EventEntity.lower_outline (e : EventEntity) : e.outline.lower.outline = e.lower.outline := by
  simp [lower, outline, Model.EventEntity.outline]

@[simp] theorem Event.lower_outline (e : Event) : e.outline.lower.outline = e.lower.outline := by
  simp [lower, outline, Model.Event.outline, Function.comp_def]

/-! ## Families and programs -/

@[simp] theorem Family.lower_outline (f : Family) : f.outline.lower.outline = f.lower.outline := by
  have houtlets : f.outline.outlets = f.outlets.map Outlet.outline :=
    filterMap_rewritten (fun m => by cases m <;> rfl) f.members
  have hlinks : f.outline.links = f.links.map Link.outline :=
    filterMap_rewritten (fun m => by cases m <;> rfl) f.members
  have hdata : f.outline.data = f.data.map Data.outline :=
    filterMap_rewritten (fun m => by cases m <;> rfl) f.members
  have hcomments : f.outline.comments = f.comments.map Comment.outline :=
    filterMap_rewritten (fun m => by cases m <;> rfl) f.members
  simp [lower, Model.Family.outline, houtlets, hlinks, hdata, hcomments, Function.comp_def]

/-- The outlines of families with loose links and data are determined by the outlines of all these. -/
theorem map_outline_adopt {families families' : List Model.Family} {links links' : List Model.Link}
    {data data' : List Model.DataBlock}
    (hfamilies : families.map Model.Family.outline = families'.map Model.Family.outline)
    (hlinks : links.map Model.Link.outline = links'.map Model.Link.outline)
    (hdata : data.map Model.DataBlock.outline = data'.map Model.DataBlock.outline) :
    (adopt families links data).map Model.Family.outline = (adopt families' links' data').map Model.Family.outline := by
  have hlinksEmpty : links.isEmpty = links'.isEmpty := by simpa using congrArg List.isEmpty hlinks
  have hdataEmpty : data.isEmpty = data'.isEmpty := by simpa using congrArg List.isEmpty hdata
  unfold adopt
  rw [hlinksEmpty, hdataEmpty]
  split
  · exact hfamilies
  · cases families with
    | nil =>
      obtain rfl : families' = [] := by simpa using hfamilies.symm
      simp [globalFamily, Model.Family.outline, hlinks, hdata]
    | cons first others =>
      cases families' with
      | nil => simp at hfamilies
      | cons first' others' =>
        simp only [List.map_cons, List.cons.injEq, Model.Family.outline, Model.Family.mk.injEq] at hfamilies ⊢
        simp [hfamilies, hlinks, hdata]

/-- The outline of a program determines the outline of its model. -/
theorem Program.toModel_outline (p : Program) : p.outline.toModel.outline = p.toModel.outline := by
  have himports : p.outline.imports = p.imports.map Import.outline :=
    filterMap_rewritten (fun s => by cases s <;> rfl) p.statements
  have hbindings : p.outline.bindings = p.bindings.map Variable.outline :=
    filterMap_rewritten (fun s => by cases s <;> rfl) p.statements
  have htemplates : p.outline.templates = p.templates.map Template.outline :=
    filterMap_rewritten (fun s => by cases s <;> rfl) p.statements
  have hunits : p.outline.units = p.units.map UnitDeclaration.outline :=
    filterMap_rewritten (fun s => by cases s <;> rfl) p.statements
  have hvocabularies : p.outline.vocabularies = p.vocabularies.map Vocabulary.outline :=
    filterMap_rewritten (fun s => by cases s <;> rfl) p.statements
  have hfamilies : p.outline.families = p.families.map Family.outline :=
    filterMap_rewritten (fun s => by cases s <;> rfl) p.statements
  have hlinks : p.outline.looseLinks = p.looseLinks.map Link.outline :=
    filterMap_rewritten (fun s => by cases s <;> rfl) p.statements
  have hdata : p.outline.looseData = p.looseData.map Data.outline :=
    filterMap_rewritten (fun s => by cases s <;> rfl) p.statements
  have hevents : p.outline.events = p.events.map Event.outline :=
    filterMap_rewritten (fun s => by cases s <;> rfl) p.statements
  have hadopt : (adopt (p.outline.families.map Family.lower) (p.outline.looseLinks.map Link.lower)
        (p.outline.looseData.map Data.lower)).map Model.Family.outline =
      (adopt (p.families.map Family.lower) (p.looseLinks.map Link.lower) (p.looseData.map Data.lower)).map
        Model.Family.outline := by
    rw [hfamilies, hlinks, hdata]
    apply map_outline_adopt <;> simp [Function.comp_def]
  simp only [toModel, Model.Program.outline, hadopt, himports, hbindings, htemplates, hunits, hvocabularies, hevents]
  simp [Function.comp_def, Variable.outline, Model.Assignment.outline]

end Ast

end MediaLanguage
