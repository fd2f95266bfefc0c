import MediaLanguage.Model.Program
import MediaLanguage.Sql.Schema

/-!
# The schema of the ANMI database

Tables of outlets, yearly figures, sources, sectors and areas, and one table for each type of link. All belong to one
schema, and are defined only where they are missing.
-/

namespace MediaLanguage.Anmi

open Sql

/-- The schema that the tables belong to. -/
def schema : String := "graphv3"

/-- The name of a table with its schema. -/
def qualified (table : String) : String :=
  schema ++ "." ++ table

/-- An integer column that is the key of its table. -/
def keyColumn (name : String) : TableItem :=
  .column { name, type := "INTEGER", primaryKey := true }

/-- What does not change about an outlet. -/
def moConstantTable : Table where
  name := qualified "mo_constant"
  items := [
    keyColumn "id_mo",
    plainColumn "mo_title" "VARCHAR(120)",
    plainColumn "id_sector" "INTEGER",
    plainColumn "mandate" "INTEGER",
    plainColumn "location" "VARCHAR(25)",
    plainColumn "primary_distr_area" "INTEGER",
    plainColumn "local" "INTEGER",
    plainColumn "language" "VARCHAR(5)",
    plainColumn "start_date" "DATE",
    plainColumn "end_date" "DATE",
    plainColumn "editorial_line_s" "TEXT",
    plainColumn "comments" "TEXT"]

/-- Figures of an outlet in a year. -/
def moYearTable : Table where
  name := qualified "mo_year"
  items := [
    plainColumn "id_mo" "INTEGER",
    plainColumn "year" "INTEGER",
    plainColumn "mo_year" "INTEGER",
    plainColumn "calc" "INTEGER",
    plainColumn "circulation" "INTEGER",
    plainColumn "circulation_source" "INTEGER",
    plainColumn "unique_users" "INTEGER",
    plainColumn "unique_users_source" "INTEGER",
    plainColumn "reach_nat" "DECIMAL(5,2)",
    plainColumn "reach_nat_source" "INTEGER",
    plainColumn "reach_reg" "DECIMAL(5,2)",
    plainColumn "reach_reg_source" "INTEGER",
    plainColumn "market_share" "DECIMAL(5,2)",
    plainColumn "market_share_source" "INTEGER",
    plainColumn "comments" "TEXT",
    .primaryKey ["id_mo", "year", "mo_year"],
    .foreignKey "id_mo" (qualified "mo_constant") "id_mo"]

/-- Sources of figures. -/
def sourcesNamesTable : Table where
  name := qualified "sources_names"
  items := [
    keyColumn "id_source",
    plainColumn "source_name" "VARCHAR(100)"]

/-- Sectors. -/
def sectorsTable : Table where
  name := qualified "sectors"
  items := [
    keyColumn "id_sector",
    plainColumn "sector_name" "VARCHAR(100)"]

/-- Areas of distribution. -/
def distributionAreasTable : Table where
  name := qualified "distribution_areas"
  items := [
    keyColumn "id_area",
    plainColumn "area_name" "VARCHAR(100)"]

/-- The tables of outlets and figures. -/
def outletTables : List Table :=
  [moConstantTable, moYearTable, sourcesNamesTable, sectorsTable, distributionAreasTable]

/-! ## Links -/

/-- The table for links of one type. -/
structure LinkTable where
  /-- The type of the links. -/
  type : String
  table : String
  description : String

/-- The tables of diachronic links. -/
def diachronicTables : List LinkTable :=
  [⟨"succession", "11_succession", "Succession relationships"⟩,
   ⟨"amalgamation", "12_amalgamation", "Amalgamation relationships"⟩,
   ⟨"new_distribution_area", "13_new_distribution_area", "New distribution area relationships"⟩,
   ⟨"new_sector", "14_new_sector", "New sector relationships"⟩,
   ⟨"interruption", "15_interruption", "Interruption relationships"⟩,
   ⟨"split_off", "16_split_off", "Split-off relationships"⟩,
   ⟨"merger", "17_merger", "Merger relationships"⟩,
   ⟨"offshoot", "18_offshoot", "Offshoot relationships"⟩]

/-- The tables of synchronous links. -/
def synchronousTables : List LinkTable :=
  [⟨"main_media_outlet", "21_main_media_outlet", "Main media outlet relationships"⟩,
   ⟨"umbrella", "22_umbrella", "Umbrella relationships"⟩,
   ⟨"collaboration", "23_collaboration", "Collaboration relationships"⟩]

/-- The columns of a table of links: the two outlets, and the two ends of the time. -/
structure LinkColumns where
  left : String
  right : String
  start : String
  finish : String

/-- The columns of diachronic links. -/
def diachronicColumns : LinkColumns :=
  ⟨"id_pred", "id_succ", "e_s", "e_e"⟩

/-- The columns of synchronous links. -/
def synchronousColumns : LinkColumns :=
  ⟨"id_mo_1", "id_mo_2", "p_s", "p_e"⟩

/-- The names of the columns of a table of links. -/
def LinkColumns.names (c : LinkColumns) : List String :=
  [c.left, c.right, c.start, c.finish]

/-- The definition of a table of links. -/
def LinkTable.definition (c : LinkColumns) (t : LinkTable) : Table where
  name := qualified t.table
  items := [
    plainColumn c.left "INTEGER",
    plainColumn c.right "INTEGER",
    plainColumn c.start "DATE",
    plainColumn c.finish "DATE",
    .primaryKey [c.left, c.right],
    .foreignKey c.left (qualified "mo_constant") "id_mo",
    .foreignKey c.right (qualified "mo_constant") "id_mo"]

/-- The statements that define a table of links. -/
def LinkTable.script (c : LinkColumns) (t : LinkTable) : Script :=
  [.comment t.description, .createTable true (t.definition c), .blank]

/-! ## The whole schema -/

/-- The statements that define the tables of outlets and figures. -/
def outletSchema : Script :=
  [Statement.comment "ANMI Core Tables", .blank] ++ outletTables.flatMap fun t => [Statement.createTable true t, .blank]

/-- The statements that define the tables of links. -/
def linkSchema : Script :=
  [Statement.comment "Relationship Tables", .blank] ++ diachronicTables.flatMap (LinkTable.script diachronicColumns)
    ++ synchronousTables.flatMap (LinkTable.script synchronousColumns)

end MediaLanguage.Anmi
