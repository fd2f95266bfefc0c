import MediaLanguage.Sql.Statement

/-!
# The relational schema

Tables for outlets and their blocks, families, templates, links, market data and events, in the order of creation.
-/

namespace MediaLanguage.Sql

/-- A key column of the name `id`. -/
def idColumn : TableItem :=
  .column { name := "id", type := "INTEGER", primaryKey := true }

/-- A column without further conditions. -/
def plainColumn (name type : String) : TableItem :=
  .column { name, type }

/-- A column that must have a value. -/
def requiredColumn (name type : String) : TableItem :=
  .column { name, type, notNull := true }

/-- A column for a time, by default the time of the insertion. -/
def timeColumn (name : String) : TableItem :=
  .column { name, type := "TIMESTAMP", default := some "CURRENT_TIMESTAMP" }

/-- Outlets, with their family, their template and the outlet they build on. -/
def mediaOutletsTable : Table where
  name := "media_outlets"
  items := [
    idColumn,
    requiredColumn "name" "VARCHAR(255)",
    plainColumn "family_id" "INTEGER",
    plainColumn "template_id" "INTEGER",
    plainColumn "base_outlet_id" "INTEGER",
    timeColumn "created_at",
    timeColumn "updated_at",
    .foreignKey "family_id" "families" "id",
    .foreignKey "template_id" "templates" "id",
    .foreignKey "base_outlet_id" "media_outlets" "id"]

/-- Families of outlets. -/
def familiesTable : Table where
  name := "families"
  items := [
    idColumn,
    requiredColumn "name" "VARCHAR(255)",
    plainColumn "comment" "TEXT",
    timeColumn "created_at"]

/-- Templates, by name. -/
def templatesTable : Table where
  name := "templates"
  items := [
    idColumn,
    requiredColumn "name" "VARCHAR(255)",
    requiredColumn "template_type" "VARCHAR(100)",
    timeColumn "created_at"]

/-- Identity fields of outlets. -/
def outletIdentityTable : Table where
  name := "outlet_identity"
  items := [
    idColumn,
    requiredColumn "outlet_id" "INTEGER",
    requiredColumn "field_name" "VARCHAR(100)",
    plainColumn "field_value" "TEXT",
    .column { name := "field_type", type := "VARCHAR(50)", default := some "'string'" },
    .foreignKey "outlet_id" "media_outlets" "id"]

/-- Statuses of outlets and their times. -/
def outletLifecycleTable : Table where
  name := "outlet_lifecycle"
  items := [
    idColumn,
    requiredColumn "outlet_id" "INTEGER",
    requiredColumn "status" "VARCHAR(100)",
    plainColumn "start_date" "DATE",
    plainColumn "end_date" "DATE",
    plainColumn "precision_start" "VARCHAR(50)",
    plainColumn "precision_end" "VARCHAR(50)",
    plainColumn "comment" "TEXT",
    .foreignKey "outlet_id" "media_outlets" "id"]

/-- Characteristics of outlets. -/
def outletCharacteristicsTable : Table where
  name := "outlet_characteristics"
  items := [
    idColumn,
    requiredColumn "outlet_id" "INTEGER",
    requiredColumn "characteristic_name" "VARCHAR(100)",
    plainColumn "characteristic_value" "TEXT",
    .column { name := "characteristic_type", type := "VARCHAR(50)", default := some "'string'" },
    .foreignKey "outlet_id" "media_outlets" "id"]

/-- Metadata of outlets. -/
def outletMetadataTable : Table where
  name := "outlet_metadata"
  items := [
    idColumn,
    requiredColumn "outlet_id" "INTEGER",
    requiredColumn "metadata_name" "VARCHAR(100)",
    plainColumn "metadata_value" "TEXT",
    .column { name := "metadata_type", type := "VARCHAR(50)", default := some "'string'" },
    .foreignKey "outlet_id" "media_outlets" "id"]

/-- Links of either sort, by name. -/
def relationshipsTable : Table where
  name := "relationships"
  items := [
    idColumn,
    requiredColumn "relationship_name" "VARCHAR(255)",
    .column { name := "relationship_type", type := "VARCHAR(50)", notNull := true,
              remark := some "'diachronic' or 'synchronous'" },
    plainColumn "family_id" "INTEGER",
    timeColumn "created_at",
    .foreignKey "family_id" "families" "id"]

/-- What is particular to diachronic links. -/
def diachronicRelationshipsTable : Table where
  name := "diachronic_relationships"
  items := [
    idColumn,
    requiredColumn "relationship_id" "INTEGER",
    requiredColumn "predecessor_id" "INTEGER",
    requiredColumn "successor_id" "INTEGER",
    plainColumn "event_start_date" "DATE",
    plainColumn "event_end_date" "DATE",
    plainColumn "relationship_subtype" "VARCHAR(100)",
    plainColumn "comment" "TEXT",
    plainColumn "maps_to" "VARCHAR(255)",
    .foreignKey "relationship_id" "relationships" "id",
    .foreignKey "predecessor_id" "media_outlets" "id",
    .foreignKey "successor_id" "media_outlets" "id"]

/-- What is particular to synchronous links. -/
def synchronousRelationshipsTable : Table where
  name := "synchronous_relationships"
  items := [
    idColumn,
    requiredColumn "relationship_id" "INTEGER",
    requiredColumn "outlet_1_id" "INTEGER",
    plainColumn "outlet_1_role" "VARCHAR(100)",
    requiredColumn "outlet_2_id" "INTEGER",
    plainColumn "outlet_2_role" "VARCHAR(100)",
    plainColumn "relationship_subtype" "VARCHAR(100)",
    plainColumn "period_start" "DATE",
    plainColumn "period_end" "DATE",
    plainColumn "details" "TEXT",
    plainColumn "maps_to" "VARCHAR(255)",
    .foreignKey "relationship_id" "relationships" "id",
    .foreignKey "outlet_1_id" "media_outlets" "id",
    .foreignKey "outlet_2_id" "media_outlets" "id"]

/-- Yearly figures of outlets. -/
def marketDataTable : Table where
  name := "market_data"
  items := [
    idColumn,
    requiredColumn "outlet_id" "INTEGER",
    requiredColumn "data_year" "INTEGER",
    requiredColumn "metric_name" "VARCHAR(100)",
    plainColumn "metric_value" "DECIMAL(15,2)",
    plainColumn "metric_unit" "VARCHAR(50)",
    plainColumn "data_source" "VARCHAR(100)",
    plainColumn "comment" "TEXT",
    plainColumn "maps_to" "VARCHAR(255)",
    timeColumn "created_at",
    .foreignKey "outlet_id" "media_outlets" "id"]

/-- Levels at which figures were collected. -/
def dataAggregationTable : Table where
  name := "data_aggregation"
  items := [
    idColumn,
    requiredColumn "outlet_id" "INTEGER",
    requiredColumn "aggregation_name" "VARCHAR(100)",
    requiredColumn "aggregation_value" "VARCHAR(100)",
    .foreignKey "outlet_id" "media_outlets" "id"]

/-- Events. -/
def eventsTable : Table where
  name := "events"
  items := [
    idColumn,
    requiredColumn "name" "VARCHAR(255)",
    requiredColumn "event_type" "VARCHAR(100)",
    plainColumn "event_date" "DATE",
    plainColumn "status" "VARCHAR(100)",
    timeColumn "created_at"]

/-- Outlets that take part in events. -/
def eventEntitiesTable : Table where
  name := "event_entities"
  items := [
    idColumn,
    requiredColumn "event_id" "INTEGER",
    requiredColumn "entity_name" "VARCHAR(255)",
    requiredColumn "entity_id" "INTEGER",
    plainColumn "entity_role" "VARCHAR(100)",
    plainColumn "stake_before" "DECIMAL(10,2)",
    plainColumn "stake_after" "DECIMAL(10,2)",
    .foreignKey "event_id" "events" "id",
    .foreignKey "entity_id" "media_outlets" "id"]

/-- What events change. -/
def eventImpactTable : Table where
  name := "event_impact"
  items := [
    idColumn,
    requiredColumn "event_id" "INTEGER",
    requiredColumn "impact_name" "VARCHAR(100)",
    plainColumn "impact_value" "TEXT",
    .column { name := "impact_type", type := "VARCHAR(50)", default := some "'string'" },
    .foreignKey "event_id" "events" "id"]

/-- Metadata of events. -/
def eventMetadataTable : Table where
  name := "event_metadata"
  items := [
    idColumn,
    requiredColumn "event_id" "INTEGER",
    requiredColumn "metadata_name" "VARCHAR(100)",
    plainColumn "metadata_value" "TEXT",
    .column { name := "metadata_type", type := "VARCHAR(50)", default := some "'string'" },
    .foreignKey "event_id" "events" "id"]

/-- The tables of the schema. -/
def coreTables : List Table :=
  [mediaOutletsTable, familiesTable, templatesTable, outletIdentityTable, outletLifecycleTable,
   outletCharacteristicsTable, outletMetadataTable, relationshipsTable, diachronicRelationshipsTable,
   synchronousRelationshipsTable, marketDataTable, dataAggregationTable, eventsTable, eventEntitiesTable,
   eventImpactTable, eventMetadataTable]

/-- The definitions of all tables. -/
def coreSchema : Script :=
  [Statement.comment "CORE SCHEMA TABLES", .comment "These tables support the MediaLanguage DSL structure", .blank]
    ++ coreTables.flatMap fun t => [Statement.createTable false t, .blank]

end MediaLanguage.Sql
