import MediaLanguage.Error
import MediaLanguage.Model.Program
import MediaLanguage.Sql.Schema
import MediaLanguage.Text.Lowercase

/-!
# The relational script of a model

The script defines the schema, a table for every unit and vocabulary, and inserts a row for every part of the model,
in the order of the model. Rows of families, templates and links are referred to by name.
-/

namespace MediaLanguage.Sql

open Model

/-! ## References -/

/-- The row of a family. -/
def familyRef (name : String) : Term :=
  .lookup "families" "name" name

/-- The row of a template. -/
def templateRef (name : String) : Term :=
  .lookup "templates" "name" name

/-- The row of a link. -/
def linkRef (name : String) : Term :=
  .lookup "relationships" "relationship_name" name

/-- The number that an outlet has in the output: its own, or zero if it has none. -/
def outletId (o : Outlet) : Int :=
  o.id.getD 0

/-! ## Units and vocabularies -/

/-- The types of columns for which the word for a type says all. -/
def columnTypes : List (String × String) :=
  [("ID", "INTEGER"), ("NUMBER", "DECIMAL(15,2)"), ("BOOLEAN", "BOOLEAN"), ("CATEGORY", "VARCHAR(100)")]

/-- The type of a column. There is none for a type that is not listed. -/
def columnType? : FieldType → Except Error String
  | .text none => .ok "TEXT"
  | .text (some length) => .ok s!"VARCHAR({length})"
  | t =>
    match columnTypes.lookup t.name with
    | some type => .ok type
    | none => .error (.generation (.unsupportedFeature s!"field type {t.name}" "sql" .start))

/-- The type of a column, if there is one. -/
def columnType (t : FieldType) : String :=
  (columnType? t).toOption.getD ""

/-- The definition of a column of a unit. -/
def unitColumn (c : Model.Column) (type : String) : TableItem :=
  .column { name := c.name, type, primaryKey := c.primaryKey, notNull := c.primaryKey }

/-- The table of a unit. -/
def unitTable (u : UnitTable) : Table where
  name := Text.lowercase u.name
  items := u.columns.map fun c => unitColumn c (columnType c.type)

/-- The table of a vocabulary. -/
def vocabularyTable (v : Vocabulary) : Table where
  name := Text.lowercase v.name
  items := [idColumn, requiredColumn "code" "VARCHAR(50)", requiredColumn "description" "TEXT",
    timeColumn "created_at"]

/-- The definition of a unit. -/
def unitScript (u : UnitTable) : Script :=
  [.comment s!"Table for unit: {u.name}", .createTable false (unitTable u), .blank]

/-- The definition of a unit whose columns have types. -/
def unitScript? (u : UnitTable) : Except Error Script := do
  let items ← u.columns.mapM fun c => (columnType? c.type).map (unitColumn c)
  return [.comment s!"Table for unit: {u.name}", .createTable false { name := Text.lowercase u.name, items }, .blank]

/-- The row of a vocabulary entry. -/
def entryRow (table : String) (e : VocabularyEntry) (index : Nat) : Statement :=
  .row table ["id", "code", "description"] [.integer index, .text e.key.text, .text e.value]

/-- The definition and the rows of a vocabulary; entries are numbered from one. -/
def vocabularyScript (v : Vocabulary) : Script :=
  [Statement.comment s!"Vocabulary table: {v.name}", .createTable false (vocabularyTable v), .blank,
    .comment s!"Insert vocabulary data for {v.name}"]
  ++ (v.entries.zipIdx 1).map (fun (e, index) => entryRow (Text.lowercase v.name) e index)
  ++ [Statement.blank]

/-! ## Templates, families and outlets -/

/-- A block of a template, in comments. -/
def templateBlockComments (template : String) (b : TemplateBlock) : Script :=
  .comment s!"Template {template} {b.kind}:" ::
    b.fields.map fun f => .comment ("  " ++ f.name ++ ": " ++ f.value.remark)

/-- The row of a template, and its blocks in comments. -/
def templateScript (t : Template) : Script :=
  [Statement.comment s!"Template: {t.name}", .row "templates" ["name", "template_type"] [.text t.name, .text t.type]]
    ++ t.blocks.flatMap (templateBlockComments t.name) ++ [Statement.blank]

/-- The row of a field of an outlet. -/
def fieldRow (table column : String) (outlet : Int) (f : Assignment) : Statement :=
  .row table ["outlet_id", column ++ "_name", column ++ "_value"] [.integer outlet, .text f.name, .ofValue f.value]

/-- The row of a status of an outlet. -/
def statusRow (outlet : Int) (s : Status) : Statement :=
  .row "outlet_lifecycle"
    ["outlet_id", "status", "start_date", "end_date", "precision_start", "precision_end", "comment"]
    [.integer outlet, .text s.status, .optional s.startDate, .optional s.endDate, .optional s.precisionStart,
      .optional s.precisionEnd, .optional s.comment]

/-- The rows of a block of an outlet. -/
def blockRows (outlet : Int) : Block → Script
  | .identity fields => fields.map (fieldRow "outlet_identity" "field" outlet)
  | .lifecycle statuses => statuses.map (statusRow outlet)
  | .characteristics fields => fields.map (fieldRow "outlet_characteristics" "characteristic" outlet)
  | .metadata fields => fields.map (fieldRow "outlet_metadata" "metadata" outlet)

/-- The row of an outlet itself. -/
def outletRow (family : String) (o : Outlet) : Statement :=
  .row "media_outlets" ["id", "name", "family_id", "template_id", "base_outlet_id"]
    [.integer (outletId o), .text o.name, familyRef family, (o.templateRef.map templateRef).getD .null,
      .optionalInteger o.baseRef]

/-- The rows of an outlet. -/
def outletScript (family : String) (o : Outlet) : Script :=
  .comment s!"Outlet: {o.name}" :: outletRow family o :: o.blocks.flatMap (blockRows (outletId o))

/-- The rows of a family and its outlets. -/
def familyScript (f : Family) : Script :=
  [Statement.comment s!"Family: {f.name}", .row "families" ["name", "comment"] [.text f.name, .optional f.comment]]
    ++ f.outlets.flatMap (outletScript f.name) ++ [Statement.blank]

/-! ## Links -/

/-- The sort of a link. -/
def linkKind : Link → String
  | .diachronic _ => "diachronic"
  | .synchronous _ => "synchronous"

/-- The row of what is particular to a link. -/
def linkDetails : Link → Statement
  | .diachronic l =>
    .row "diachronic_relationships"
      ["relationship_id", "predecessor_id", "successor_id", "event_start_date", "event_end_date",
        "relationship_subtype", "comment", "maps_to"]
      [linkRef l.name, .integer l.predecessor, .integer l.successor, .optional l.eventStart, .optional l.eventEnd,
        .text l.relationshipType, .optional l.comment, .optional l.mapsTo]
  | .synchronous l =>
    .row "synchronous_relationships"
      ["relationship_id", "outlet_1_id", "outlet_1_role", "outlet_2_id", "outlet_2_role", "relationship_subtype",
        "period_start", "period_end", "details", "maps_to"]
      [linkRef l.name, .integer l.first.outlet, .text l.first.role, .integer l.second.outlet, .text l.second.role,
        .text l.relationshipType, .optional l.periodStart, .optional l.periodEnd, .optional l.details,
        .optional l.mapsTo]

/-- The two rows of a link. -/
def linkRows (family : String) (l : Link) : Script :=
  [.row "relationships" ["relationship_name", "relationship_type", "family_id"]
      [.text l.name, .text (linkKind l), familyRef family],
    linkDetails l]

/-- The rows of all links. -/
def linkScript (p : Program) : Script :=
  .comment "RELATIONSHIPS" :: p.families.flatMap fun f => f.links.flatMap (linkRows f.name)

/-! ## Market data -/

/-- The row of a level. -/
def aggregationRow (outlet : Int) (a : AggregationLevel) : Statement :=
  .row "data_aggregation" ["outlet_id", "aggregation_name", "aggregation_value"]
    [.integer outlet, .text a.name, .text a.value]

/-- The row of a figure. -/
def metricRow (d : DataBlock) (year : Int) (m : Metric) : Statement :=
  .row "market_data"
    ["outlet_id", "data_year", "metric_name", "metric_value", "metric_unit", "data_source", "comment", "maps_to"]
    [.integer d.outlet, .integer year, .text m.name, .number m.value, .text m.unit, .text m.source,
      .optional m.comment, .optional d.mapsTo]

/-- The rows of the data of an outlet. -/
def dataRows (d : DataBlock) : Script :=
  d.aggregation.map (aggregationRow d.outlet) ++ d.years.flatMap fun y => y.metrics.map (metricRow d y.year)

/-- The rows of all data. -/
def dataScript (p : Program) : Script :=
  .comment "MARKET DATA" :: p.data.flatMap dataRows

/-! ## Events -/

/-- The row of an entity. -/
def entityRow (event : Nat) (e : EventEntity) : Statement :=
  .row "event_entities" ["event_id", "entity_name", "entity_id", "entity_role", "stake_before", "stake_after"]
    [.integer event, .text e.name, .integer e.outlet, .text e.role, .optionalNumber e.stakeBefore,
      .optionalNumber e.stakeAfter]

/-- The row of a field of an event. -/
def eventFieldRow (table column : String) (event : Nat) (f : Assignment) : Statement :=
  .row table ["event_id", column ++ "_name", column ++ "_value"] [.integer event, .text f.name, .ofValue f.value]

/-- The rows of an event with its number. -/
def eventRows (e : Event) (number : Nat) : Script :=
  Statement.row "events" ["id", "name", "event_type", "event_date", "status"]
      [.integer number, .text e.name, .text e.type, .optional e.date, .optional e.status]
    :: e.entities.map (entityRow number)
    ++ e.impact.map (eventFieldRow "event_impact" "impact" number)
    ++ e.metadata.map (eventFieldRow "event_metadata" "metadata" number)

/-- The rows of all events, which are numbered from one. -/
def eventScript (p : Program) : Script :=
  if p.events.isEmpty then []
  else
    Statement.comment "EVENTS" :: (p.events.zipIdx 1).flatMap (fun (e, number) => eventRows e number)
      ++ [Statement.blank]

/-! ## The whole script -/

/-- What the file is. -/
def headerScript : Script :=
  [.comment "Generated SQL from MediaLanguage DSL",
    .comment "This file contains CREATE TABLE statements, INSERT statements, and constraints",
    .comment "Generated for comprehensive media outlet and relationship management", .blank]

/-- The imports of a model, in comments. -/
def importScript (imports : List String) : Script :=
  if imports.isEmpty then []
  else Statement.comment "IMPORTS" :: imports.map (fun path => .comment s!"IMPORT \"{path}\"") ++ [Statement.blank]

/-- The variables of a model, in comments. -/
def variableScript (bindings : List Assignment) : Script :=
  if bindings.isEmpty then []
  else Statement.comment "VARIABLES" :: bindings.map (fun v => .comment ("LET " ++ v.name ++ " = " ++ v.value.remark))
    ++ [Statement.blank]

/-- The script of a model. -/
def script (p : Program) : Script :=
  headerScript ++ importScript p.imports ++ variableScript p.bindings ++ coreSchema
    ++ p.units.flatMap unitScript ++ p.vocabularies.flatMap vocabularyScript ++ p.templates.flatMap templateScript
    ++ p.families.flatMap familyScript ++ linkScript p ++ dataScript p ++ eventScript p

/-- The script of a model whose units can be written. -/
def emit (p : Program) : Except Error Script := do
  let units ← p.units.mapM unitScript?
  return headerScript ++ importScript p.imports ++ variableScript p.bindings ++ coreSchema ++ units.flatten
    ++ p.vocabularies.flatMap vocabularyScript ++ p.templates.flatMap templateScript
    ++ p.families.flatMap familyScript ++ linkScript p ++ dataScript p ++ eventScript p

end MediaLanguage.Sql
