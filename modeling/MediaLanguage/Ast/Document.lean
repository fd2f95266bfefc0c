import MediaLanguage.Ast.Program
import MediaLanguage.Json

/-!
# Syntax trees as documents

A node is an object that starts with its place; a node that stands where several kinds may stand names its own. A
missing part is `null`, and a list is an array, which may be empty.
-/

namespace MediaLanguage

/-- A place as an object. -/
def Position.toJson (p : Position) : Json :=
  .object [("line", .nat p.line), ("column", .nat p.column), ("offset", .nat p.offset)]

namespace Ast

/-- A node: its place, and its parts. -/
def nodeJson (position : Position) (parts : List (String × Json)) : Json :=
  .object (("position", position.toJson) :: parts)

/-- A node that names its kind. -/
def kindJson (position : Position) (kind : String) (parts : List (String × Json)) : Json :=
  nodeJson position (("kind", .string kind) :: parts)

/-- A text that may be missing. -/
def textJson (s : Option String) : Json :=
  .option .string s

/-! ## Expressions -/

/-- A comment as an object. -/
def Comment.toJson (c : Comment) : Json :=
  kindJson c.position "comment" [("text", .string c.text), ("is_multiline", .bool c.multiline)]

/-- An annotation as an object. -/
def Tag.toJson (t : Tag) : Json :=
  kindJson t.position "annotation" [("name", .string t.name), ("value", textJson t.value)]

/-- A date as an object; the open end has no text. -/
def Date.toJson : Date → Json
  | .day text position => nodeJson position [("value", .string text), ("is_current", .bool false)]
  | .current position => nodeJson position [("value", .string ""), ("is_current", .bool true)]

/-- A range of dates as an object. -/
def DateRange.toJson (r : DateRange) : Json :=
  nodeJson r.position [("start", r.start.toJson), ("end", .option Date.toJson r.finish)]

mutual

/-- An expression as an object. -/
def Expr.toJson : Expr → Json
  | .string value position => kindJson position "string" [("value", .string value)]
  | .number value position => kindJson position "number" [("value", .number value)]
  | .boolean value position => kindJson position "boolean" [("value", .bool value)]
  | .reference name position => kindJson position "variable" [("name", .string name)]
  | .object members position => kindJson position "object" [("fields", .array (membersJson members))]

/-- The members of an object, each as an object. -/
def membersJson : List Member → List Json
  | [] => []
  | .assignment name value position :: members =>
    kindJson position "assignment" [("name", .string name), ("value", value.toJson)] :: membersJson members
  | .period name range position :: members =>
    kindJson position "period" [("name", .string name), ("value", range.toJson)] :: membersJson members

end

/-- An assignment as an object. -/
def Assignment.toJson (a : Assignment) : Json :=
  kindJson a.position "assignment" [("name", .string a.name), ("value", a.value.toJson)]

/-- A field as an object. -/
def Field.toJson : Field → Json
  | .assignment a => a.toJson
  | .comment c => c.toJson

/-! ## Imports, variables, units and vocabularies -/

/-- An import as an object. -/
def Import.toJson (i : Import) : Json :=
  kindJson i.position "import" [("path", .string i.path)]

/-- A variable as an object. -/
def Variable.toJson (v : Variable) : Json :=
  kindJson v.position "variable" [("name", .string v.name), ("value", v.value.toJson)]

end Ast

/-- The parts of the type of a column: its kind, and what only a text and only a category have. -/
def FieldType.parts (t : FieldType) : List (String × Json) :=
  let length :=
    match t with
    | .text length => length
    | _ => none
  let values :=
    match t with
    | .category values => values
    | _ => []
  [("kind", .string t.name), ("length", .option .integer length), ("values", .list .string values)]

/-- The key of an entry: a number, or a text. -/
def VocabularyKey.toJson : VocabularyKey → Json
  | .number value => .number value
  | .quoted value => .string value

namespace Ast

/-- A type as an object. -/
def TypeExpr.toJson (t : TypeExpr) : Json :=
  nodeJson t.position t.type.parts

/-- A column as an object. -/
def UnitField.toJson (f : UnitField) : Json :=
  nodeJson f.position
    [("name", .string f.name), ("field_type", f.type.toJson), ("is_primary_key", .bool f.primaryKey)]

/-- A unit as an object. -/
def UnitDeclaration.toJson (u : UnitDeclaration) : Json :=
  kindJson u.position "unit" [("name", .string u.name), ("fields", .list UnitField.toJson u.fields)]

/-- An entry as an object. -/
def VocabularyEntry.toJson (e : VocabularyEntry) : Json :=
  nodeJson e.position [("key", e.key.toJson), ("value", .string e.value)]

/-- A body of a vocabulary as an object. -/
def VocabularyBody.toJson (b : VocabularyBody) : Json :=
  nodeJson b.position [("name", .string b.name), ("entries", .list VocabularyEntry.toJson b.entries)]

/-- A vocabulary as an object. -/
def Vocabulary.toJson (v : Vocabulary) : Json :=
  kindJson v.position "vocabulary" [("name", .string v.name), ("bodies", .list VocabularyBody.toJson v.bodies)]

/-! ## Market data -/

/-- A level as an object. -/
def AggregationField.toJson (f : AggregationField) : Json :=
  nodeJson f.position [("name", .string f.name), ("value", .string f.value)]

/-- A block of levels as an object. -/
def Aggregation.toJson (a : Aggregation) : Json :=
  kindJson a.position "aggregation" [("fields", .list AggregationField.toJson a.fields)]

/-- A figure as an object. -/
def Metric.toJson (m : Metric) : Json :=
  nodeJson m.position [("name", .string m.name), ("attributes", .list Assignment.toJson m.attributes)]

/-- A block of figures as an object. -/
def Metrics.toJson (m : Metrics) : Json :=
  kindJson m.position "metrics" [("fields", .list Metric.toJson m.fields)]

/-- A block of a year as an object. -/
def YearBlock.toJson : YearBlock → Json
  | .metrics m => m.toJson
  | .remark c => kindJson c.position "year_comment" [("value", .string c.value)]
  | .comment c => c.toJson

/-- A year as an object. -/
def Year.toJson (y : Year) : Json :=
  kindJson y.position "year" [("year", .number y.year), ("blocks", .list YearBlock.toJson y.blocks)]

/-- A block of data as an object. -/
def DataBlock.toJson : DataBlock → Json
  | .tag t => t.toJson
  | .aggregation a => a.toJson
  | .year y => y.toJson
  | .comment c => c.toJson

/-- The data of an outlet as an object. -/
def Data.toJson (d : Data) : Json :=
  kindJson d.position "data" [("target_id", .number d.target), ("blocks", .list DataBlock.toJson d.blocks)]

/-! ## Links -/

/-- One side of a link as an object. -/
def OutletSpec.toJson (s : OutletSpec) : Json :=
  nodeJson s.position [("outlet_id", .number s.outlet), ("role", textJson s.role)]

/-- A diachronic link as an object. -/
def DiachronicLink.toJson (l : DiachronicLink) : Json :=
  kindJson l.position "diachronic_link" [
    ("name", .string l.name),
    ("predecessor", .option .number l.predecessor),
    ("successor", .option .number l.successor),
    ("relationship_type", textJson l.relationshipType),
    ("event_date", .option DateRange.toJson l.eventDate),
    ("triggered_by_event", textJson l.triggeredBy),
    ("annotations", .list Tag.toJson l.tags),
    ("comments", .list Comment.toJson l.comments)]

/-- A synchronous link as an object. -/
def SynchronousLink.toJson (l : SynchronousLink) : Json :=
  kindJson l.position "synchronous_link" [
    ("name", .string l.name),
    ("outlet_1", .option OutletSpec.toJson l.first),
    ("outlet_2", .option OutletSpec.toJson l.second),
    ("relationship_type", textJson l.relationshipType),
    ("period_start", .option Date.toJson l.periodStart),
    ("period_end", .option Date.toJson l.periodEnd),
    ("details", textJson l.details),
    ("created_by_event", textJson l.createdBy),
    ("annotations", .list Tag.toJson l.tags),
    ("comments", .list Comment.toJson l.comments)]

/-- A link as an object. -/
def Link.toJson : Link → Json
  | .diachronic l => l.toJson
  | .synchronous l => l.toJson

/-! ## Outlets, templates and families -/

/-- An identity field as an object. -/
def IdentityField.toJson : IdentityField → Json
  | .assignment a => a.toJson
  | .array a =>
    kindJson a.position "array" [("name", .string a.name), ("values", .list (fun o => o.toExpr.toJson) a.values)]
  | .comment c => c.toJson

/-- An identity block as an object. -/
def Identity.toJson (b : Identity) : Json :=
  kindJson b.position "identity" [("fields", .list IdentityField.toJson b.fields)]

/-- A status as an object. -/
def LifecycleEntry.toJson (e : LifecycleEntry) : Json :=
  nodeJson e.position [("status", .string e.status), ("start", e.start.toJson),
    ("end", .option Date.toJson e.finish), ("attributes", .list Field.toJson e.attributes)]

/-- A block of statuses as an object. -/
def Lifecycle.toJson (b : Lifecycle) : Json :=
  kindJson b.position "lifecycle" [("entries", .list LifecycleEntry.toJson b.entries)]

/-- A block of assignments as an object. -/
def FieldBlock.toJson (kind : String) (b : FieldBlock) : Json :=
  kindJson b.position kind [("fields", .list Field.toJson b.fields)]

/-- A block as an object. -/
def Block.toJson : Block → Json
  | .identity b => b.toJson
  | .lifecycle b => b.toJson
  | .characteristics b => b.toJson "characteristics"
  | .metadata b => b.toJson "metadata"
  | .comment c => c.toJson

/-- What an outlet takes over, as an object. -/
def Inheritance.toJson : Inheritance → Json
  | .template name position => kindJson position "extends_template" [("template", .string name)]
  | .outlet id position => kindJson position "based_on" [("outlet_id", .number id)]

/-- An outlet as an object. -/
def Outlet.toJson (o : Outlet) : Json :=
  kindJson o.position "outlet" [("name", .string o.name), ("inheritance", .option Inheritance.toJson o.inheritance),
    ("blocks", .list Block.toJson o.blocks)]

/-- A template as an object. -/
def Template.toJson (t : Template) : Json :=
  kindJson t.position "template" [("name", .string t.name), ("template_type", .string t.type),
    ("blocks", .list Block.toJson t.blocks)]

/-- A mention of an outlet as an object. -/
def OutletReference.toJson (r : OutletReference) : Json :=
  kindJson r.position "outlet_ref" [("outlet_id", .number r.outlet), ("name", .string r.name)]

/-- A member of a family as an object. -/
def FamilyMember.toJson : FamilyMember → Json
  | .outlet o => o.toJson
  | .reference r => r.toJson
  | .data d => d.toJson
  | .link l => l.toJson
  | .comment c => c.toJson

/-- A family as an object. -/
def Family.toJson (f : Family) : Json :=
  kindJson f.position "family" [("name", .string f.name), ("members", .list FamilyMember.toJson f.members)]

/-! ## Events and catalogs -/

/-- An outlet in an event as an object. -/
def EventEntity.toJson (e : EventEntity) : Json :=
  nodeJson e.position [("name", .string e.name), ("outlet_id", .option .number e.outlet), ("role", textJson e.role),
    ("stake_before", .option .number e.stakeBefore), ("stake_after", .option .number e.stakeAfter)]

/-- An event as an object. -/
def Event.toJson (e : Event) : Json :=
  kindJson e.position "event" [
    ("name", .string e.name),
    ("event_type", textJson e.type),
    ("date", .option Date.toJson e.date),
    ("status", textJson e.status),
    ("entities", .list EventEntity.toJson e.entities),
    ("impact", .list Assignment.toJson e.impact),
    ("metadata", .list Assignment.toJson e.metadata),
    ("annotations", .list Tag.toJson e.tags),
    ("comments", .list Comment.toJson e.comments)]

/-- A group of assignments as an object. -/
def NestedAssignment.toJson (a : NestedAssignment) : Json :=
  kindJson a.position "nested" [("name", .string a.name), ("fields", .list Field.toJson a.fields)]

/-- A field of a source as an object. -/
def SourceField.toJson : SourceField → Json
  | .assignment a => a.toJson
  | .nested a => a.toJson
  | .tag t => t.toJson
  | .comment c => c.toJson

/-- A source as an object. -/
def Source.toJson (s : Source) : Json :=
  nodeJson s.position [("name", .string s.name), ("fields", .list SourceField.toJson s.fields)]

/-- A catalog as an object. -/
def Catalog.toJson (c : Catalog) : Json :=
  kindJson c.position "catalog" [("name", .string c.name), ("sources", .list Source.toJson c.sources)]

/-! ## Programs -/

/-- A statement as an object. -/
def Statement.toJson : Statement → Json
  | .importFile d => d.toJson
  | .letVariable d => d.toJson
  | .unit d => d.toJson
  | .vocabulary d => d.toJson
  | .template d => d.toJson
  | .family d => d.toJson
  | .data d => d.toJson
  | .link d => d.toJson
  | .event d => d.toJson
  | .catalog d => d.toJson
  | .comment d => d.toJson

/-- A program as an object; its place is the start of the text. -/
def Program.toJson (p : Program) : Json :=
  nodeJson .start [("statements", .list Statement.toJson p.statements)]

end Ast

end MediaLanguage
