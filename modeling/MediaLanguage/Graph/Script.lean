import MediaLanguage.Error
import MediaLanguage.Graph.Command
import MediaLanguage.Model.Program

/-!
# The graph script of a model

The script sets up constraints and indexes, and creates nodes for every part of the model. A part of something else is
a node of its own; a command after it finds the two nodes again by their keys and draws an edge between them.
-/

namespace MediaLanguage.Graph

open Model

/-! ## Nodes and children -/

/-- The commands for a child of a node: the child, and the edge to it from its parent, which finds the child by the
properties `key`. -/
def childCommands (parent child : Node) (key : Properties) (edge : String) : Script :=
  [.create child, .connect parent { child with properties := key }
    { source := parent.binder, type := edge, target := child.binder }]

/-- An outlet by its number. -/
def outletPattern (binder : String) (id : Int) : Node :=
  ⟨binder, "Outlet", [("id", .integer id)]⟩

/-- A template by its name. -/
def templatePattern (name : String) : Node :=
  ⟨"t", "Template", [("name", .text name)]⟩

/-- The number that an outlet has in the output: its own, or zero if it has none. -/
def outletId (o : Outlet) : Int :=
  o.id.getD 0

/-! ## Vocabularies and templates -/

/-- The nodes of an entry. -/
def entryCommands (vocabulary : String) (e : VocabularyEntry) : Script :=
  let key := ("key", Term.text e.key.text)
  let owner := ("vocab_name", Term.text vocabulary)
  childCommands ⟨"v", "Vocabulary", [("name", .text vocabulary)]⟩
    ⟨"e", "VocabularyEntry", [key, ("value", .text e.value), owner]⟩ [key, owner] "HAS_ENTRY"

/-- The nodes of a vocabulary. -/
def vocabularyScript (v : Vocabulary) : Script :=
  [Command.comment s!"Vocabulary: {v.name}",
    .create ⟨"v", "Vocabulary", [("name", .text v.name), ("body_name", .text v.bodyName), ("created_at", .now)]⟩]
  ++ v.entries.flatMap (entryCommands v.name) ++ [Command.blank]

/-- How the fields of a block are drawn: the binder and the label of a field, and the edge to it. -/
structure FieldShape where
  binder : String
  label : String
  edge : String

/-- Fields of an identity block. -/
def identityShape : FieldShape :=
  ⟨"i", "Identity", "HAS_IDENTITY"⟩

/-- Characteristics. -/
def characteristicShape : FieldShape :=
  ⟨"c", "Characteristic", "HAS_CHARACTERISTIC"⟩

/-- Metadata. -/
def metadataShape : FieldShape :=
  ⟨"m", "Metadata", "HAS_METADATA"⟩

/-- How the fields of each kind of block are drawn. -/
def fieldShapes : List (String × FieldShape) :=
  [("identity", identityShape), ("characteristics", characteristicShape), ("metadata", metadataShape)]

/-- How the fields of a kind of block are drawn. A kind that is not listed cannot be drawn. -/
def fieldShape? (kind : String) : Except Error FieldShape :=
  match fieldShapes.lookup kind with
  | some shape => .ok shape
  | none => .error (.generation (.missingKey kind))

/-- The nodes of a field of a template. -/
def templateFieldCommands (template : String) (shape : FieldShape) (f : Assignment) : Script :=
  let name := ("name", Term.text f.name)
  let owner := ("template_name", Term.text template)
  childCommands (templatePattern template)
    ⟨shape.binder, shape.label, [name, ("value", .ofValue f.value), owner]⟩ [name, owner] shape.edge

/-- The nodes of a block of a template. -/
def templateBlockCommands (template : String) : TemplateBlock → Script
  | .characteristics fields => fields.flatMap (templateFieldCommands template characteristicShape)
  | .metadata fields => fields.flatMap (templateFieldCommands template metadataShape)

/-- The nodes of a block of a template whose kind can be drawn. -/
def templateBlockCommands? (template : String) (b : TemplateBlock) : Except Error Script := do
  let shape ← fieldShape? b.kind
  return b.fields.flatMap (templateFieldCommands template shape)

/-- The node of a template itself. -/
def templateNode (t : Template) : Script :=
  [.comment s!"Template: {t.name}",
    .create ⟨"t", "Template", [("name", .text t.name), ("type", .text t.type), ("created_at", .now)]⟩]

/-- The nodes of a template. -/
def templateScript (t : Template) : Script :=
  templateNode t ++ t.blocks.flatMap (templateBlockCommands t.name) ++ [Command.blank]

/-- The nodes of a template whose blocks can be drawn. -/
def templateScript? (t : Template) : Except Error Script := do
  let blocks ← t.blocks.mapM (templateBlockCommands? t.name)
  return templateNode t ++ blocks.flatten ++ [Command.blank]

/-! ## Families and outlets -/

/-- The nodes of a field of an outlet. -/
def outletFieldCommands (outlet : Int) (shape : FieldShape) (f : Assignment) : Script :=
  let key := [("outlet_id", Term.integer outlet), ("name", .text f.name)]
  childCommands (outletPattern "o" outlet)
    ⟨shape.binder, shape.label, key ++ [("value", Term.ofValue f.value)]⟩ key shape.edge

/-- The nodes of a status. -/
def statusCommands (outlet : Int) (s : Status) : Script :=
  let key := [("outlet_id", Term.integer outlet), ("status", .text s.status)]
  childCommands (outletPattern "o" outlet)
    ⟨"l", "Lifecycle", key ++ [("start_date", Term.optionalDate s.startDate), ("end_date", .optionalDate s.endDate),
      ("precision_start", .optional s.precisionStart), ("precision_end", .optional s.precisionEnd),
      ("comment", .optional s.comment)]⟩ key "HAS_LIFECYCLE"

/-- The nodes of a block of an outlet. -/
def blockCommands (outlet : Int) : Block → Script
  | .identity fields => fields.flatMap (outletFieldCommands outlet identityShape)
  | .lifecycle statuses => statuses.flatMap (statusCommands outlet)
  | .characteristics fields => fields.flatMap (outletFieldCommands outlet characteristicShape)
  | .metadata fields => fields.flatMap (outletFieldCommands outlet metadataShape)

/-- The nodes of a block of an outlet whose kind can be drawn. -/
def blockCommands? (outlet : Int) : Block → Except Error Script
  | .lifecycle statuses => .ok (statuses.flatMap (statusCommands outlet))
  | b => do
    let shape ← fieldShape? b.kind
    return b.fields.flatMap (outletFieldCommands outlet shape)

/-- The node of an outlet itself, and the edge to it. -/
def outletNode (family : String) (o : Outlet) : Script :=
  let id := ("id", Term.integer (outletId o))
  .comment s!"Outlet: {o.name}"
    :: childCommands ⟨"f", "Family", [("name", .text family)]⟩
      ⟨"o", "Outlet", [id, ("name", .text o.name), ("template_ref", .optional o.templateRef),
        ("base_ref", .optionalInteger o.baseRef)]⟩ [id] "HAS_OUTLET"

/-- The nodes of an outlet. -/
def outletScript (family : String) (o : Outlet) : Script :=
  outletNode family o ++ o.blocks.flatMap (blockCommands (outletId o))

/-- The nodes of an outlet whose blocks can be drawn. -/
def outletScript? (family : String) (o : Outlet) : Except Error Script := do
  let blocks ← o.blocks.mapM (blockCommands? (outletId o))
  return outletNode family o ++ blocks.flatten

/-- The node of a family itself. -/
def familyNode (f : Family) : Script :=
  [.comment s!"Family: {f.name}",
    .create ⟨"f", "Family", [("name", .text f.name), ("comment", .optional f.comment), ("created_at", .now)]⟩]

/-- The nodes of a family. -/
def familyScript (f : Family) : Script :=
  familyNode f ++ f.outlets.flatMap (outletScript f.name) ++ [Command.blank]

/-- The nodes of a family whose outlets can be drawn. -/
def familyScript? (f : Family) : Except Error Script := do
  let outlets ← f.outlets.mapM (outletScript? f.name)
  return familyNode f ++ outlets.flatten ++ [Command.blank]

/-! ## Inheritance and links -/

/-- The edges from an outlet to what it takes over. -/
def inheritanceCommands (o : Outlet) : Script :=
  let self := outletPattern "o" (outletId o)
  (o.templateRef.map fun name =>
      Command.connect self (templatePattern name) { source := "o", type := "EXTENDS_TEMPLATE", target := "t" }).toList
    ++ (o.baseRef.map fun id =>
      Command.connect self (outletPattern "base" id) { source := "o", type := "BASED_ON", target := "base" }).toList

/-- The edges from all outlets to what they take over. -/
def inheritanceScript (p : Program) : Script :=
  Command.comment "INHERITANCE" :: p.outlets.flatMap inheritanceCommands ++ [Command.blank]

/-- The edge of a link. -/
def linkCommands : Link → Script
  | .diachronic l =>
    [.comment s!"Diachronic relationship: {l.name}",
      .connect (outletPattern "pred" l.predecessor) (outletPattern "succ" l.successor)
        { source := "pred", type := "DIACHRONIC_LINK", target := "succ"
          properties := [("name", .text l.name), ("relationship_type", .text l.relationshipType),
            ("event_start_date", .optionalDate l.eventStart), ("event_end_date", .optionalDate l.eventEnd),
            ("comment", .optional l.comment), ("maps_to", .optional l.mapsTo)] }]
  | .synchronous l =>
    [.comment s!"Synchronous relationship: {l.name}",
      .connect (outletPattern "o1" l.first.outlet) (outletPattern "o2" l.second.outlet)
        { source := "o1", type := "SYNCHRONOUS_LINK", target := "o2"
          properties := [("name", .text l.name), ("relationship_type", .text l.relationshipType),
            ("outlet_1_role", .text l.first.role), ("outlet_2_role", .text l.second.role),
            ("period_start", .optionalDate l.periodStart), ("period_end", .optionalDate l.periodEnd),
            ("details", .optional l.details), ("maps_to", .optional l.mapsTo)] }]

/-- The edges of all links. -/
def linkScript (p : Program) : Script :=
  .comment "RELATIONSHIPS" :: p.links.flatMap linkCommands

/-! ## Market data -/

/-- The nodes of a level. -/
def aggregationCommands (outlet : Int) (a : AggregationLevel) : Script :=
  let name := ("name", Term.text a.name)
  let owner := ("outlet_id", Term.integer outlet)
  childCommands (outletPattern "o" outlet)
    ⟨"a", "DataAggregation", [name, ("value", .text a.value), owner]⟩ [name, owner] "HAS_AGGREGATION"

/-- The properties by which the data of a year are found. -/
def yearKey (outlet year : Int) : Properties :=
  [("year", .integer year), ("outlet_id", .integer outlet)]

/-- The nodes of a figure. -/
def metricCommands (outlet year : Int) (m : Metric) : Script :=
  let name := ("name", Term.text m.name)
  let key := yearKey outlet year
  childCommands ⟨"d", "MarketData", key⟩
    ⟨"m", "Metric", [name, ("value", .number m.value), ("unit", .text m.unit), ("source", .text m.source),
      ("comment", .optional m.comment)] ++ key⟩ (name :: key) "HAS_METRIC"

/-- The nodes of a year. -/
def yearCommands (d : DataBlock) (y : Year) : Script :=
  let key := yearKey d.outlet y.year
  childCommands (outletPattern "o" d.outlet)
      ⟨"d", "MarketData", key ++ [("comment", Term.optional y.comment), ("maps_to", .optional d.mapsTo)]⟩ key "HAS_DATA"
    ++ y.metrics.flatMap (metricCommands d.outlet y.year)

/-- The nodes of the data of an outlet. -/
def dataCommands (d : DataBlock) : Script :=
  d.aggregation.flatMap (aggregationCommands d.outlet) ++ d.years.flatMap (yearCommands d)

/-- The nodes of all data. -/
def dataScript (p : Program) : Script :=
  .comment "MARKET DATA" :: p.data.flatMap dataCommands

/-! ## Events -/

/-- An event by its name. -/
def eventPattern (name : String) : Node :=
  ⟨"e", "Event", [("name", .text name)]⟩

/-- The nodes of an entity, and the edge from it to its outlet. -/
def entityCommands (event : String) (x : EventEntity) : Script :=
  let name := ("name", Term.text x.name)
  let outlet := ("entity_id", Term.integer x.outlet)
  let owner := ("event_name", Term.text event)
  childCommands (eventPattern event)
      ⟨"ee", "EventEntity", [name, outlet, ("role", .text x.role), ("stake_before", .optionalNumber x.stakeBefore),
        ("stake_after", .optionalNumber x.stakeAfter), owner]⟩ [name, owner] "HAS_ENTITY"
    ++ [Command.connect (outletPattern "o" x.outlet) ⟨"ee", "EventEntity", [outlet, owner]⟩
      { source := "ee", type := "INVOLVES", target := "o" }]

/-- Changes made by events. -/
def impactShape : FieldShape :=
  ⟨"ei", "EventImpact", "HAS_IMPACT"⟩

/-- Metadata of events. -/
def eventMetadataShape : FieldShape :=
  ⟨"em", "EventMetadata", "HAS_METADATA"⟩

/-- The nodes of a field of an event. -/
def eventFieldCommands (event : String) (shape : FieldShape) (f : Assignment) : Script :=
  let key := [("name", Term.text f.name), ("event_name", .text event)]
  childCommands (eventPattern event)
    ⟨shape.binder, shape.label, key ++ [("value", Term.ofValue f.value)]⟩ key shape.edge

/-- The nodes of an event. -/
def eventCommands (e : Event) : Script :=
  Command.create ⟨"e", "Event", [("name", .text e.name), ("type", .text e.type), ("date", .optionalDate e.date),
      ("status", .optional e.status), ("created_at", .now)]⟩
    :: e.entities.flatMap (entityCommands e.name)
    ++ e.impact.flatMap (eventFieldCommands e.name impactShape)
    ++ e.metadata.flatMap (eventFieldCommands e.name eventMetadataShape)

/-- The nodes of all events. -/
def eventScript (p : Program) : Script :=
  if p.events.isEmpty then [] else Command.comment "EVENTS" :: p.events.flatMap eventCommands ++ [Command.blank]

/-! ## The whole script -/

/-- What the file is. -/
def headerScript : Script :=
  [.comment "Generated Cypher from MediaLanguage DSL",
    .comment "This file contains CREATE statements for a property graph database",
    .comment "Represents media outlets, families, and relationships as a graph", .blank]

/-- The imports of a model, in comments. -/
def importScript (imports : List String) : Script :=
  if imports.isEmpty then []
  else Command.comment "IMPORTS" :: imports.map (fun path => .comment s!"IMPORT \"{path}\"") ++ [Command.blank]

/-- The variables of a model, in comments. -/
def variableScript (bindings : List Assignment) : Script :=
  if bindings.isEmpty then []
  else Command.comment "VARIABLES" :: bindings.map (fun v => .comment ("LET " ++ v.name ++ " = " ++ v.value.remark))
    ++ [Command.blank]

/-- The constraints and indexes. -/
def constraintScript : Script :=
  [.comment "CONSTRAINTS AND INDEXES", .comment "Create constraints for unique identifiers", .blank,
    .unique "outlet_id_unique" "o" "Outlet" "id",
    .unique "family_name_unique" "f" "Family" "name",
    .unique "template_name_unique" "t" "Template" "name",
    .unique "vocab_name_unique" "v" "Vocabulary" "name", .blank,
    .index "outlet_name_index" "o" "Outlet" "name",
    .index "family_name_index" "f" "Family" "name",
    .index "data_year_index" "d" "MarketData" "year",
    .index "metric_name_index" "m" "Metric" "name", .blank]

/-- The script of a model. -/
def script (p : Program) : Script :=
  headerScript ++ importScript p.imports ++ variableScript p.bindings ++ constraintScript
    ++ p.vocabularies.flatMap vocabularyScript ++ p.templates.flatMap templateScript
    ++ p.families.flatMap familyScript ++ inheritanceScript p ++ linkScript p ++ dataScript p ++ eventScript p

/-- The script of a model whose templates and families can be drawn. -/
def emit (p : Program) : Except Error Script := do
  let templates ← p.templates.mapM templateScript?
  let families ← p.families.mapM familyScript?
  return headerScript ++ importScript p.imports ++ variableScript p.bindings ++ constraintScript
    ++ p.vocabularies.flatMap vocabularyScript ++ templates.flatten ++ families.flatten ++ inheritanceScript p
    ++ linkScript p ++ dataScript p ++ eventScript p

end MediaLanguage.Graph
