import MediaLanguage.Ast.Document
import MediaLanguage.Model.Program

/-!
# Models as documents

A part of a model is an object with a field for each of its own; a part that may be missing is `null`.
-/

namespace MediaLanguage.Model

open Ast (textJson)

mutual

/-- A value as an object that names its kind. -/
def Value.toJson : Value → Json
  | .string value => .object [("kind", .string "string"), ("value", .string value)]
  | .number value => .object [("kind", .string "number"), ("value", .number value)]
  | .boolean value => .object [("kind", .string "boolean"), ("value", .bool value)]
  | .reference name => .object [("kind", .string "variable"), ("name", .string name)]
  | .object fields => .object [("kind", .string "object"), ("fields", .array (fieldsJson fields))]
  | .array items => .object [("kind", .string "array"), ("items", .array (itemsJson items))]

/-- The fields of an object, each as an object. -/
def fieldsJson : List (String × Value) → List Json
  | [] => []
  | (name, value) :: fields => .object [("name", .string name), ("value", value.toJson)] :: fieldsJson fields

/-- The items of an array. -/
def itemsJson : List Value → List Json
  | [] => []
  | value :: items => value.toJson :: itemsJson items

end

/-- An assignment as an object. -/
def Assignment.toJson (a : Assignment) : Json :=
  .object [("name", .string a.name), ("value", a.value.toJson)]

/-- A column as an object. -/
def Column.toJson (c : Column) : Json :=
  .object [("name", .string c.name), ("field_type", .object c.type.parts), ("is_primary_key", .bool c.primaryKey)]

/-- A unit as an object. -/
def UnitTable.toJson (u : UnitTable) : Json :=
  .object [("name", .string u.name), ("fields", .list Column.toJson u.columns)]

/-- An entry as an object. -/
def VocabularyEntry.toJson (e : VocabularyEntry) : Json :=
  .object [("key", e.key.toJson), ("value", .string e.value)]

/-- A vocabulary as an object. -/
def Vocabulary.toJson (v : Vocabulary) : Json :=
  .object [("name", .string v.name), ("body_name", .string v.bodyName),
    ("entries", .list VocabularyEntry.toJson v.entries)]

/-- A level as an object. -/
def AggregationLevel.toJson (a : AggregationLevel) : Json :=
  .object [("name", .string a.name), ("value", .string a.value)]

/-- A figure as an object. -/
def Metric.toJson (m : Metric) : Json :=
  .object [("name", .string m.name), ("value", .number m.value), ("unit", .string m.unit),
    ("source", .string m.source), ("comment", textJson m.comment)]

/-- A year as an object. -/
def Year.toJson (y : Year) : Json :=
  .object [("year", .integer y.year), ("metrics", .list Metric.toJson y.metrics), ("comment", textJson y.comment)]

/-- The data of an outlet as an object. -/
def DataBlock.toJson (d : DataBlock) : Json :=
  .object [("outlet_id", .integer d.outlet), ("aggregation", .list AggregationLevel.toJson d.aggregation),
    ("years", .list Year.toJson d.years), ("maps_to", textJson d.mapsTo)]

/-- One side of a link as an object. -/
def Side.toJson (s : Side) : Json :=
  .object [("id", .integer s.outlet), ("role", .string s.role)]

/-- A link as an object that names its sort. -/
def Link.toJson : Link → Json
  | .diachronic l => .object [
      ("kind", .string "diachronic"),
      ("name", .string l.name),
      ("predecessor", .integer l.predecessor),
      ("successor", .integer l.successor),
      ("event_start_date", textJson l.eventStart),
      ("event_end_date", textJson l.eventEnd),
      ("relationship_type", .string l.relationshipType),
      ("comment", textJson l.comment),
      ("maps_to", textJson l.mapsTo)]
  | .synchronous l => .object [
      ("kind", .string "synchronous"),
      ("name", .string l.name),
      ("outlet_1", l.first.toJson),
      ("outlet_2", l.second.toJson),
      ("relationship_type", .string l.relationshipType),
      ("period_start", textJson l.periodStart),
      ("period_end", textJson l.periodEnd),
      ("details", textJson l.details),
      ("maps_to", textJson l.mapsTo)]

/-- A status as an object. -/
def Status.toJson (s : Status) : Json :=
  .object [("status", .string s.status), ("start_date", textJson s.startDate), ("end_date", textJson s.endDate),
    ("precision_start", textJson s.precisionStart), ("precision_end", textJson s.precisionEnd),
    ("comment", textJson s.comment)]

/-- A block of assignments as an object that names its kind. -/
def assignmentsJson (kind : String) (fields : List Assignment) : Json :=
  .object [("kind", .string kind), ("fields", .list Assignment.toJson fields)]

/-- A block of an outlet as an object. -/
def Block.toJson : Block → Json
  | .identity fields => assignmentsJson "identity" fields
  | .lifecycle statuses => .object [("kind", .string "lifecycle"), ("statuses", .list Status.toJson statuses)]
  | .characteristics fields => assignmentsJson "characteristics" fields
  | .metadata fields => assignmentsJson "metadata" fields

/-- A block of a template as an object. -/
def TemplateBlock.toJson : TemplateBlock → Json
  | .characteristics fields => assignmentsJson "characteristics" fields
  | .metadata fields => assignmentsJson "metadata" fields

/-- A template as an object. -/
def Template.toJson (t : Template) : Json :=
  .object [("name", .string t.name), ("template_type", .string t.type), ("blocks", .list TemplateBlock.toJson t.blocks)]

/-- An outlet as an object. -/
def Outlet.toJson (o : Outlet) : Json :=
  .object [("name", .string o.name), ("id", .option .integer o.id), ("template_ref", textJson o.templateRef),
    ("base_ref", .option .integer o.baseRef), ("blocks", .list Block.toJson o.blocks)]

/-- A family as an object. -/
def Family.toJson (f : Family) : Json :=
  .object [("name", .string f.name), ("comment", textJson f.comment), ("outlets", .list Outlet.toJson f.outlets),
    ("relationships", .list Link.toJson f.links), ("data_blocks", .list DataBlock.toJson f.data)]

/-- An outlet in an event as an object. -/
def EventEntity.toJson (e : EventEntity) : Json :=
  .object [("name", .string e.name), ("id", .integer e.outlet), ("role", .string e.role),
    ("stake_before", .option .number e.stakeBefore), ("stake_after", .option .number e.stakeAfter)]

/-- An event as an object. -/
def Event.toJson (e : Event) : Json :=
  .object [("name", .string e.name), ("event_type", .string e.type), ("date", textJson e.date),
    ("entities", .list EventEntity.toJson e.entities), ("impact", .list Assignment.toJson e.impact),
    ("metadata", .list Assignment.toJson e.metadata), ("status", textJson e.status)]

/-- A model as an object. -/
def Program.toJson (p : Program) : Json :=
  .object [
    ("imports", .list (fun path => .object [("path", .string path)]) p.imports),
    ("variables", .list Assignment.toJson p.bindings),
    ("templates", .list Template.toJson p.templates),
    ("units", .list UnitTable.toJson p.units),
    ("vocabularies", .list Vocabulary.toJson p.vocabularies),
    ("families", .list Family.toJson p.families),
    ("events", .list Event.toJson p.events)]

end MediaLanguage.Model
