import MediaLanguage.Ast.Program
import MediaLanguage.Model.Program

/-!
# From programs to models

Every part of a program becomes a part of a model; keys that have no place in a model are dropped. Links and data that
stand outside the families go into the first family, or into a family made for them if the program has none.

Numbers that the model holds as integers (`Ast.Program.integers`) have to be finite: `Ast.Program.lower` fails on a
program with another one, and only on such a program.
-/

namespace MediaLanguage.Ast

/-! ## Expressions -/

mutual

/-- The value of an expression; a period is an object with its two ends. -/
def Expr.lower : Expr → Model.Value
  | .string value _ => .string value
  | .number value _ => .number value
  | .boolean value _ => .boolean value
  | .reference name _ => .reference name
  | .object members _ => .object (lowerMembers members)

/-- The fields of an object. -/
def lowerMembers : List Member → List (String × Model.Value)
  | [] => []
  | .assignment name value _ :: members => (name, value.lower) :: lowerMembers members
  | .period name range _ :: members =>
    let bounds := ("from", Model.Value.string range.start.text) ::
      (range.finish.map fun d => ("to", Model.Value.string d.text)).toList
    (name, .object bounds) :: lowerMembers members

end

/-- The value of an object. -/
def ObjectLiteral.lower (o : ObjectLiteral) : Model.Value :=
  o.toExpr.lower

/-- The text of a string literal. -/
def Expr.string? : Expr → Option String
  | .string value _ => some value
  | _ => none

/-- The value of a number literal. -/
def Expr.number? : Expr → Option Number
  | .number value _ => some value
  | _ => none

/-- An assignment with its value. -/
def Assignment.lower (a : Assignment) : Model.Assignment :=
  ⟨a.name, a.value.lower⟩

/-- The assignments among fields. -/
def lowerFields (fields : List Field) : List Model.Assignment :=
  (fields.filterMap Field.assignment?).map Assignment.lower

/-! ## Declarations -/

/-- A unit. -/
def UnitDeclaration.lower (u : UnitDeclaration) : Model.UnitTable where
  name := u.name
  columns := u.fields.map fun f => { name := f.name, type := f.type.type, primaryKey := f.primaryKey }

/-- A vocabulary, its bodies merged; the first of them names the body. -/
def Vocabulary.lower (v : Vocabulary) : Model.Vocabulary where
  name := v.name
  bodyName := (v.bodies.head?.map VocabularyBody.name).getD v.name
  entries := v.bodies.flatMap fun b => b.entries.map fun e => ⟨e.key, e.value⟩

/-- A block of a template; a template keeps characteristics and metadata. -/
def Block.lowerTemplate? : Block → Option Model.TemplateBlock
  | .characteristics b => some (.characteristics (lowerFields b.fields))
  | .metadata b => some (.metadata (lowerFields b.fields))
  | _ => none

/-- A template. -/
def Template.lower (t : Template) : Model.Template where
  name := t.name
  type := t.type
  blocks := t.blocks.filterMap Block.lowerTemplate?

/-! ## Outlets -/

/-- A field of an identity block, unless it is a comment. -/
def IdentityField.lower? : IdentityField → Option Model.Assignment
  | .assignment a => some a.lower
  | .array a => some ⟨a.name, .array (a.values.map ObjectLiteral.lower)⟩
  | .comment _ => none

/-- The text of the last attribute with a name in lower case, if that is a string. -/
def attributeText? (attributes : List Assignment) (name : String) : Option String :=
  (attributes.reverse.find? fun a => Text.lower a.name == name).bind fun a => a.value.string?

/-- A status. -/
def LifecycleEntry.lower (e : LifecycleEntry) : Model.Status :=
  let attributes := e.attributes.filterMap Field.assignment?
  { status := e.status
    startDate := some e.start.text
    endDate := e.finish.map Date.text
    precisionStart := attributeText? attributes "precision_start"
    precisionEnd := attributeText? attributes "precision_end"
    comment := attributeText? attributes "comment" }

/-- A block of an outlet, unless it is a comment. -/
def Block.lower? : Block → Option Model.Block
  | .identity b => some (.identity (b.fields.filterMap IdentityField.lower?))
  | .lifecycle b => some (.lifecycle (b.entries.map LifecycleEntry.lower))
  | .characteristics b => some (.characteristics (lowerFields b.fields))
  | .metadata b => some (.metadata (lowerFields b.fields))
  | .comment _ => none

/-- The integer that identifies an outlet. -/
def Outlet.declaredId? (o : Outlet) : Option Int :=
  o.idNumber?.map Number.integerPart

/-- The template that a clause names. -/
def Inheritance.template? : Inheritance → Option String
  | .template name _ => some name
  | .outlet .. => none

/-- The number of the outlet that a clause names. -/
def Inheritance.outlet? : Inheritance → Option Number
  | .template .. => none
  | .outlet id _ => some id

/-- An outlet. -/
def Outlet.lower (o : Outlet) : Model.Outlet where
  name := o.name
  id := o.declaredId?
  templateRef := o.inheritance.bind Inheritance.template?
  baseRef := (o.inheritance.bind Inheritance.outlet?).map Number.integerPart
  blocks := o.blocks.filterMap Block.lower?

/-! ## Market data -/

/-- The last of the values that attributes with a name in lower case have, of those that `read` accepts. -/
def lastAttribute? {α : Type} (attributes : List Assignment) (name : String) (read : Expr → Option α) : Option α :=
  (attributes.filterMap fun a => if Text.lower a.name == name then read a.value else none).getLast?

/-- A figure. -/
def Metric.lower (m : Metric) : Model.Metric where
  name := m.name
  value := (lastAttribute? m.attributes "value" Expr.number?).getD .zero
  unit := (lastAttribute? m.attributes "unit" Expr.string?).getD ""
  source := (lastAttribute? m.attributes "source" Expr.string?).getD ""
  comment := lastAttribute? m.attributes "comment" Expr.string?

/-- The figures among the blocks of a year. -/
def YearBlock.figures : YearBlock → List Metric
  | .metrics m => m.fields
  | _ => []

/-- The comment field among the blocks of a year. -/
def YearBlock.remark? : YearBlock → Option String
  | .remark c => some c.value
  | _ => none

/-- A year; of several comment fields the last counts. -/
def Year.lower (y : Year) : Model.Year where
  year := y.year.integerPart
  metrics := (y.blocks.flatMap YearBlock.figures).map Metric.lower
  comment := (y.blocks.filterMap YearBlock.remark?).getLast?

/-- The levels among the blocks of data. -/
def DataBlock.levels : DataBlock → List AggregationField
  | .aggregation a => a.fields
  | _ => []

/-- The year that a block of data is. -/
def DataBlock.year? : DataBlock → Option Year
  | .year y => some y
  | _ => none

/-- The annotation with a name that a block of data is. -/
def DataBlock.tagNamed? (name : String) : DataBlock → Option Tag
  | .tag t => if t.name == name then some t else none
  | _ => none

/-- The years of data. -/
def Data.years (d : Data) : List Year :=
  d.blocks.filterMap DataBlock.year?

/-- The data of an outlet; of several annotations for the mapping the last counts. -/
def Data.lower (d : Data) : Model.DataBlock where
  outlet := d.target.integerPart
  aggregation := (d.blocks.flatMap DataBlock.levels).map fun f => ⟨f.name, f.value⟩
  years := d.years.map Year.lower
  mapsTo := (d.blocks.filterMap (DataBlock.tagNamed? "maps_to")).getLast?.bind Tag.value

/-! ## Links and events -/

/-- The text of the first annotation with a name. -/
def tagValue? (tags : List Tag) (name : String) : Option String :=
  (tags.find? fun t => t.name == name).bind Tag.value

/-- The integer of a number that may be missing. -/
def integerOrZero (x : Option Number) : Int :=
  (x.map Number.integerPart).getD 0

/-- A diachronic link. -/
def DiachronicLink.lower (l : DiachronicLink) : Model.DiachronicLink where
  name := l.name
  predecessor := integerOrZero l.predecessor
  successor := integerOrZero l.successor
  eventStart := l.eventDate.map fun r => r.start.text
  eventEnd := (l.eventDate.bind DateRange.finish).map Date.text
  relationshipType := l.relationshipType.getD ""
  comment := tagValue? l.tags "comment"
  mapsTo := tagValue? l.tags "maps_to"

/-- One side of a synchronous link. -/
def OutletSpec.lower (s : OutletSpec) : Model.Side where
  outlet := s.outlet.integerPart
  role := s.role.getD ""

/-- A synchronous link. -/
def SynchronousLink.lower (l : SynchronousLink) : Model.SynchronousLink where
  name := l.name
  first := (l.first.map OutletSpec.lower).getD {}
  second := (l.second.map OutletSpec.lower).getD {}
  relationshipType := l.relationshipType.getD ""
  periodStart := l.periodStart.map Date.text
  periodEnd := l.periodEnd.map Date.text
  details := l.details
  mapsTo := tagValue? l.tags "maps_to"

/-- A link. -/
def Link.lower : Link → Model.Link
  | .diachronic l => .diachronic l.lower
  | .synchronous l => .synchronous l.lower

/-- An entity of an event. -/
def EventEntity.lower (e : EventEntity) : Model.EventEntity where
  name := e.name
  outlet := integerOrZero e.outlet
  role := e.role.getD ""
  stakeBefore := e.stakeBefore
  stakeAfter := e.stakeAfter

/-- An event. -/
def Event.lower (e : Event) : Model.Event where
  name := e.name
  type := e.type.getD ""
  date := e.date.map Date.text
  entities := e.entities.map EventEntity.lower
  impact := e.impact.map Assignment.lower
  metadata := e.metadata.map Assignment.lower
  status := e.status

/-! ## Families -/

/-- The links of a family. -/
def Family.links (f : Family) : List Link :=
  f.members.filterMap fun
    | .link l => some l
    | _ => none

/-- The data of a family. -/
def Family.data (f : Family) : List Data :=
  f.members.filterMap fun
    | .data d => some d
    | _ => none

/-- The comments of a family. -/
def Family.comments (f : Family) : List Comment :=
  f.members.filterMap fun
    | .comment c => some c
    | _ => none

/-- A family, with the first of its comments. -/
def Family.lower (f : Family) : Model.Family where
  name := f.name
  comment := f.comments.head?.map Comment.text
  outlets := f.outlets.map Outlet.lower
  links := f.links.map Link.lower
  data := f.data.map Data.lower

/-! ## Programs -/

namespace Program

/-- The imports of a program. -/
def imports (p : Program) : List Import :=
  p.statements.filterMap fun
    | .importFile d => some d
    | _ => none

/-- The variables of a program. -/
def bindings (p : Program) : List Variable :=
  p.statements.filterMap fun
    | .letVariable d => some d
    | _ => none

/-- The templates of a program. -/
def templates (p : Program) : List Template :=
  p.statements.filterMap fun
    | .template d => some d
    | _ => none

/-- The units of a program. -/
def units (p : Program) : List UnitDeclaration :=
  p.statements.filterMap fun
    | .unit d => some d
    | _ => none

/-- The vocabularies of a program. -/
def vocabularies (p : Program) : List Vocabulary :=
  p.statements.filterMap fun
    | .vocabulary d => some d
    | _ => none

/-- The links outside the families. -/
def looseLinks (p : Program) : List Link :=
  p.statements.filterMap fun
    | .link d => some d
    | _ => none

/-- The data outside the families. -/
def looseData (p : Program) : List Data :=
  p.statements.filterMap fun
    | .data d => some d
    | _ => none

/-- The events of a program. -/
def events (p : Program) : List Event :=
  p.statements.filterMap fun
    | .event d => some d
    | _ => none

end Program

/-- A family for the links and data of a program without families. -/
def globalFamily (links : List Model.Link) (data : List Model.DataBlock) : Model.Family where
  name := "Global Relationships"
  comment := some "Auto-generated family for top-level relationships"
  links
  data

/-- The families with the loose links and data, which go into the first family. -/
def adopt (families : List Model.Family) (links : List Model.Link) (data : List Model.DataBlock) :
    List Model.Family :=
  if links.isEmpty && data.isEmpty then families
  else
    match families with
    | [] => [globalFamily links data]
    | first :: others => { first with links := first.links ++ links, data := first.data ++ data } :: others

/-- The model of a program; a number that should be an integer and is not finite counts as zero. -/
def Program.toModel (p : Program) : Model.Program where
  imports := p.imports.map Import.path
  bindings := p.bindings.map fun v => ⟨v.name, v.value.lower⟩
  templates := p.templates.map Template.lower
  units := p.units.map UnitDeclaration.lower
  vocabularies := p.vocabularies.map Vocabulary.lower
  families := adopt (p.families.map Family.lower) (p.looseLinks.map Link.lower) (p.looseData.map Data.lower)
  events := p.events.map Event.lower

/-! ## Integers of a program -/

/-- The numbers of data that have to be integers. -/
def Data.integers (d : Data) : List Number :=
  d.target :: d.years.map Year.year

/-- The numbers of a link that have to be integers. -/
def Link.integers : Link → List Number
  | .diachronic l => l.predecessor.toList ++ l.successor.toList
  | .synchronous l => (l.first.toList ++ l.second.toList).map OutletSpec.outlet

/-- The numbers of an outlet that have to be integers. -/
def Outlet.integers (o : Outlet) : List Number :=
  o.idNumber?.toList ++ (o.inheritance.bind Inheritance.outlet?).toList

/-- The numbers of a family that have to be integers. -/
def Family.integers (f : Family) : List Number :=
  f.outlets.flatMap Outlet.integers ++ f.links.flatMap Link.integers ++ f.data.flatMap Data.integers

/-- The numbers of a program that have to be integers. -/
def Program.integers (p : Program) : List Number :=
  p.families.flatMap Family.integers ++ p.looseLinks.flatMap Link.integers ++ p.looseData.flatMap Data.integers
    ++ p.events.flatMap fun e => e.entities.filterMap EventEntity.outlet

/-- The model of a program, if its numbers allow one. -/
def Program.lower (p : Program) : Except ConversionError Model.Program :=
  (Number.requireIntegers p.integers).map fun _ => p.toModel

end MediaLanguage.Ast
