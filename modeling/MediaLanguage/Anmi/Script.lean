import MediaLanguage.Anmi.Outlet

/-!
# The ANMI script of a model

The script defines the schema, lists sectors, areas and sources, and inserts the rows of outlets, figures and links.
Sources are numbered in the order in which figures name them first. Several figures of an outlet and a year share a
row: a figure whose row is there already sets its own columns.
-/

namespace MediaLanguage.Anmi

open Model Sql

/-! ## Sources -/

/-- The figures of a model, in order. -/
def metrics (p : Program) : List Metric :=
  p.data.flatMap fun d => d.years.flatMap Year.metrics

/-- The elements in the order of their first occurrence; `seen` stand in front. -/
def firstOccurrences (seen : List String) : List String → List String
  | [] => seen
  | s :: rest => firstOccurrences (if seen.contains s then seen else seen ++ [s]) rest

/-- The names of the sources of a model; a figure with an empty source has none. -/
def sourceNames (p : Program) : List String :=
  firstOccurrences [] (((metrics p).map Metric.source).filter fun s => !s.isEmpty)

/-- The sources with their numbers, from one. -/
def sources (p : Program) : List (String × Nat) :=
  (sourceNames p).zipIdx 1

/-- The number of a source. -/
def sourceId? (sources : List (String × Nat)) (name : String) : Option Nat :=
  sources.lookup name

/-! ## Vocabularies and outlets -/

/-- A vocabulary that has a table. -/
structure VocabularyTable where
  vocabulary : String
  table : String
  idColumn : String
  nameColumn : String
  title : String

/-- The vocabularies that have tables. -/
def vocabularyTables : List VocabularyTable :=
  [⟨"SECTOR", "sectors", "id_sector", "sector_name", "Populate sectors"⟩,
   ⟨"DISTRIBUTION_AREA", "distribution_areas", "id_area", "area_name", "Populate distribution areas"⟩]

/-- The row of an entry; only entries with a number have one. -/
def entryRow? (t : VocabularyTable) (e : VocabularyEntry) : Option Statement :=
  match e.key with
  | .number x =>
    some (.insert { table := qualified t.table, columns := [t.idColumn, t.nameColumn]
                    values := [.number x, .text e.value], conflict := .skip })
  | .quoted _ => none

/-- The rows of a vocabulary that has a table. -/
def vocabularyScript (v : Vocabulary) : Script :=
  match vocabularyTables.find? fun t => t.vocabulary == v.name with
  | some t => Statement.comment t.title :: v.entries.filterMap (entryRow? t) ++ [Statement.blank]
  | none => []

/-- The row of a source. -/
def sourceRow (source : String × Nat) : Statement :=
  .insert { table := qualified "sources_names", columns := ["id_source", "source_name"]
            values := [.integer source.2, .text source.1], conflict := .skip }

/-- The rows of the sources. -/
def sourceScript (p : Program) : Script :=
  if (sources p).isEmpty then []
  else Statement.comment "Populate sources" :: (sources p).map sourceRow ++ [Statement.blank]

/-- The rows of vocabularies, sources and outlets. -/
def outletScript (p : Program) : Script :=
  [Statement.comment "Media Outlet Data", .blank] ++ p.vocabularies.flatMap vocabularyScript ++ sourceScript p
    ++ [Statement.comment "Insert media outlets"] ++ p.outlets.map fun o => (OutletRow.ofOutlet o).statement

/-! ## Figures -/

/-- A column for a figure. -/
structure MetricColumn where
  metric : String
  column : String
  /-- Whether the figure loses its fraction. -/
  integer : Bool

/-- The figures that have columns. -/
def metricColumns : List MetricColumn :=
  [⟨"circulation", "circulation", true⟩, ⟨"unique_users", "unique_users", true⟩,
   ⟨"reach_national", "reach_nat", false⟩, ⟨"reach_regional", "reach_reg", false⟩,
   ⟨"market_share", "market_share", false⟩]

/-- The column of a figure. -/
def metricColumn? (m : Metric) : Option MetricColumn :=
  metricColumns.find? fun c => c.metric == m.name

/-- The columns that identify a row of figures. -/
def yearKey : List String := ["id_mo", "year", "mo_year"]

/-- The statement for a figure that has a column: a new row, or a change of the row that is there. -/
def metricUpsert (outlet year : Int) (c : MetricColumn) (value source : Term) : Statement :=
  let sourceColumn := c.column ++ "_source"
  .insert { table := qualified "mo_year"
            columns := yearKey ++ ["calc", c.column, sourceColumn]
            values := [.integer outlet, .integer year, .integer (outlet * 10000 + year), .integer 0, value, source]
            conflict := .update yearKey [(c.column, value), (sourceColumn, source)] }

/-- The statement for a figure; a figure without a column is a comment. -/
def metricStatement (sources : List (String × Nat)) (outlet year : Int) (m : Metric) : Statement :=
  match metricColumn? m with
  | none =>
    let value := m.value.text
    .comment s!"Metric '{m.name}' = {value} {m.unit} (source: {m.source})"
  | some c =>
    let value := if c.integer then Term.integer m.value.integerPart else Term.number m.value
    metricUpsert outlet year c value (.optionalInteger ((sourceId? sources m.source).map Int.ofNat))

/-- The statements for the figures of an outlet. -/
def dataStatements (sources : List (String × Nat)) (d : DataBlock) : Script :=
  d.years.flatMap fun y => y.metrics.map (metricStatement sources d.outlet y.year)

/-- The statements for all figures. -/
def dataScript (p : Program) : Script :=
  let blocks := p.data.length
  let families := p.families.length
  [Statement.blank, .comment "Market Data", .blank,
    .comment s!"Debug: Found {blocks} data blocks across {families} families"]
    ++ p.data.flatMap (dataStatements (sources p))

/-! ## Links -/

/-- The row of a link, if there is a table for its type. -/
def linkRow? : Link → Option Statement
  | .diachronic l =>
    (diachronicTables.find? fun t => t.type == l.relationshipType).map fun t =>
      .row (qualified t.table) diachronicColumns.names
        [.integer l.predecessor, .integer l.successor, .optional l.eventStart, .optional l.eventEnd]
  | .synchronous l =>
    (synchronousTables.find? fun t => t.type == l.relationshipType).map fun t =>
      .row (qualified t.table) synchronousColumns.names
        [.integer l.first.outlet, .integer l.second.outlet, .optional l.periodStart, .optional l.periodEnd]

/-- The rows of all links. -/
def linkScript (p : Program) : Script :=
  [Statement.blank, .comment "Relationships", .blank] ++ p.links.filterMap linkRow?

/-! ## The whole script -/

/-- What the file is, and the schema. -/
def headerScript : Script :=
  [.comment "Generated ANMI-compatible SQL from MediaLanguage DSL",
    .comment "This file recreates the original ANMI database schema",
    .comment "Compatible with graphv3 schema structure", .blank,
    .comment "Create schema if not exists", .createSchema schema, .blank]

/-- The definitions of all tables. -/
def tableSchema : Script :=
  outletSchema ++ linkSchema

/-- The script of a model; a number that should be an integer and is not finite counts as zero. -/
def statements (p : Program) : Script :=
  headerScript ++ tableSchema ++ outletScript p ++ dataScript p ++ linkScript p

/-- The figures that lose their fraction. -/
def integerMetrics (p : Program) : List Number :=
  ((metrics p).filter fun m => (metricColumn? m).any MetricColumn.integer).map Metric.value

/-- The numbers of a model that have to be integers. -/
def integers (p : Program) : List Number :=
  p.outlets.flatMap outletIntegers ++ integerMetrics p

/-- The script of a model, if its numbers allow one. -/
def script (p : Program) : Except ConversionError Script :=
  (Number.requireIntegers (integers p)).map fun _ => statements p

end MediaLanguage.Anmi
