import MediaLanguage.Graph.Script
import MediaLanguage.Proofs.Graph.Outline
import MediaLanguage.Proofs.Model.Outline

/-!
# The outline of the graph script

The texts of a model stand in literals and comments of its script and nowhere else: the outline of the model determines
the outline of the script (`map_outline_script`).
-/

namespace MediaLanguage.Graph

open Model

/-! ## Values, nodes and edges -/

@[simp] theorem Term.outline_optional (s : Option String) : (Term.optional s).outline = .optional (emptied s) := by
  cases s <;> rfl

@[simp] theorem Term.outline_optionalInteger (k : Option Int) :
    (Term.optionalInteger k).outline = .optionalInteger k := by
  cases k <;> rfl

@[simp] theorem Term.outline_optionalNumber (x : Option Number) :
    (Term.optionalNumber x).outline = .optionalNumber x := by
  cases x <;> rfl

/-- A date is a literal whether it stands for the open end or not. -/
theorem Term.outline_optionalDate (s : Option String) :
    (Term.optionalDate (emptied s)).outline = (Term.optionalDate s).outline := by
  cases s <;> rfl

@[simp] theorem Term.outline_ofValue (v : Value) : (Term.ofValue v).outline = .text "" := rfl

@[simp] theorem Properties.outline_nil : Properties.outline [] = [] := rfl

@[simp] theorem Properties.outline_cons (name : String) (value : Term) (ps : Properties) :
    Properties.outline ((name, value) :: ps) = (name, value.outline) :: Properties.outline ps := rfl

@[simp] theorem Properties.outline_append (ps qs : Properties) :
    Properties.outline (ps ++ qs) = Properties.outline ps ++ Properties.outline qs :=
  List.map_append

@[simp] theorem Node.outline_mk (binder label : String) (ps : Properties) :
    (Node.mk binder label ps).outline = ⟨binder, label, Properties.outline ps⟩ := rfl

@[simp] theorem Edge.outline_mk (source type target : String) (ps : Properties) :
    (Edge.mk source type ps target).outline = ⟨source, type, Properties.outline ps, target⟩ := rfl

@[simp] theorem Command.outline_create (n : Node) : (Command.create n).outline = .create n.outline := rfl

@[simp] theorem Command.outline_connect (first second : Node) (e : Edge) :
    (Command.connect first second e).outline = .connect first.outline second.outline e.outline := rfl

/-- The outline of the commands for a child has the outlines of what they are made of. -/
@[simp] theorem map_outline_childCommands (parent child : Node) (key : Properties) (edge : String) :
    (childCommands parent child key edge).map Command.outline =
      childCommands parent.outline child.outline (Properties.outline key) edge := rfl

@[simp] theorem outline_templatePattern (name : String) : (templatePattern name).outline = templatePattern "" := rfl

/-! ## Vocabularies and templates -/

theorem map_outline_entryCommands (vocabulary : String) (e : VocabularyEntry) :
    (entryCommands vocabulary e.outline).map Command.outline = (entryCommands vocabulary e).map Command.outline := by
  simp [entryCommands]

theorem map_outline_vocabularyScript (v : Vocabulary) :
    (vocabularyScript v.outline).map Command.outline = (vocabularyScript v).map Command.outline := by
  simp only [vocabularyScript, Vocabulary.outline, List.map_append,
    flatMap_outline (map_outline_entryCommands v.name) v.entries]

theorem map_outline_templateFieldCommands (template template' : String) (shape : FieldShape) (f : Assignment) :
    (templateFieldCommands template' shape f.outline).map Command.outline =
      (templateFieldCommands template shape f).map Command.outline := by
  simp [templateFieldCommands]

theorem map_outline_templateBlockCommands (template template' : String) (b : TemplateBlock) :
    (templateBlockCommands template' b.outline).map Command.outline =
      (templateBlockCommands template b).map Command.outline := by
  cases b with
  | characteristics fields =>
    exact flatMap_outline (map_outline_templateFieldCommands template template' characteristicShape) fields
  | metadata fields =>
    exact flatMap_outline (map_outline_templateFieldCommands template template' metadataShape) fields

theorem map_outline_templateScript (t : Template) :
    (templateScript t.outline).map Command.outline = (templateScript t).map Command.outline := by
  have hblocks := flatMap_outline (map_outline_templateBlockCommands t.name "") t.blocks
  simp only [templateScript, Template.outline, List.map_append, hblocks]
  simp [templateNode]

/-! ## Families and outlets -/

theorem map_outline_outletFieldCommands (outlet : Int) (shape : FieldShape) (f : Assignment) :
    (outletFieldCommands outlet shape f.outline).map Command.outline =
      (outletFieldCommands outlet shape f).map Command.outline := by
  simp [outletFieldCommands]

theorem map_outline_statusCommands (outlet : Int) (s : Status) :
    (statusCommands outlet s.outline).map Command.outline = (statusCommands outlet s).map Command.outline := by
  simp [statusCommands, Status.outline, Term.outline_optionalDate]

theorem map_outline_blockCommands (outlet : Int) (b : Block) :
    (blockCommands outlet b.outline).map Command.outline = (blockCommands outlet b).map Command.outline := by
  cases b with
  | identity fields => exact flatMap_outline (map_outline_outletFieldCommands outlet identityShape) fields
  | lifecycle statuses => exact flatMap_outline (map_outline_statusCommands outlet) statuses
  | characteristics fields => exact flatMap_outline (map_outline_outletFieldCommands outlet characteristicShape) fields
  | metadata fields => exact flatMap_outline (map_outline_outletFieldCommands outlet metadataShape) fields

theorem map_outline_outletScript (family family' : String) (o : Outlet) :
    (outletScript family' o.outline).map Command.outline = (outletScript family o).map Command.outline := by
  have hblocks := flatMap_outline (map_outline_blockCommands (outletId o)) o.blocks
  have hid : outletId o.outline = outletId o := rfl
  simp only [outletScript, List.map_append, hid]
  rw [Outlet.outline, hblocks]
  simp [outletNode, outletId]

theorem map_outline_familyScript (f : Family) :
    (familyScript f.outline).map Command.outline = (familyScript f).map Command.outline := by
  have houtlets := flatMap_outline (map_outline_outletScript f.name "") f.outlets
  simp only [familyScript, Family.outline, List.map_append, houtlets]
  simp [familyNode]

theorem map_outline_inheritanceCommands (o : Outlet) :
    (inheritanceCommands o.outline).map Command.outline = (inheritanceCommands o).map Command.outline := by
  cases htemplate : o.templateRef <;> cases hbase : o.baseRef <;>
    simp [inheritanceCommands, outletId, htemplate, hbase]

theorem map_outline_inheritanceScript (p : Program) :
    (inheritanceScript p.outline).map Command.outline = (inheritanceScript p).map Command.outline := by
  have houtlets : p.outline.outlets = p.outlets.map Outlet.outline := by
    simp [Program.outlets, Program.outline, Family.outline, List.flatMap_map, List.map_flatMap]
  simp only [inheritanceScript, List.cons_append, List.map_cons, List.map_append, houtlets,
    flatMap_outline map_outline_inheritanceCommands p.outlets]

/-! ## Links, market data and events -/

theorem map_outline_linkCommands (l : Link) :
    (linkCommands l.outline).map Command.outline = (linkCommands l).map Command.outline := by
  cases l <;>
    simp [linkCommands, Link.outline, DiachronicLink.outline, SynchronousLink.outline, Term.outline_optionalDate]

theorem map_outline_linkScript (p : Program) :
    (linkScript p.outline).map Command.outline = (linkScript p).map Command.outline := by
  have hlinks : p.outline.links = p.links.map Link.outline := by
    simp [Program.links, Program.outline, Family.outline, List.flatMap_map, List.map_flatMap]
  simp only [linkScript, List.map_cons, hlinks, flatMap_outline map_outline_linkCommands p.links]

theorem map_outline_dataCommands (d : DataBlock) :
    (dataCommands d.outline).map Command.outline = (dataCommands d).map Command.outline := by
  have hmetrics : ∀ (year : Int) (m : Metric), (metricCommands d.outlet year m.outline).map Command.outline =
      (metricCommands d.outlet year m).map Command.outline := by
    intro year m
    simp [metricCommands, Metric.outline]
  have hyears : ∀ y : Year, (yearCommands d.outline y.outline).map Command.outline =
      (yearCommands d y).map Command.outline := by
    intro y
    simp only [yearCommands, DataBlock.outline, Year.outline, List.map_append, flatMap_outline (hmetrics y.year)]
    simp
  have hlevels : ∀ a : AggregationLevel, (aggregationCommands d.outlet a.outline).map Command.outline =
      (aggregationCommands d.outlet a).map Command.outline := by
    intro a
    simp [aggregationCommands, AggregationLevel.outline]
  rw [dataCommands, dataCommands, List.map_append, List.map_append]
  exact congr (congrArg _ (flatMap_outline hlevels d.aggregation)) (flatMap_outline hyears d.years)

theorem map_outline_dataScript (p : Program) :
    (dataScript p.outline).map Command.outline = (dataScript p).map Command.outline := by
  have hdata : p.outline.data = p.data.map DataBlock.outline := by
    simp [Program.data, Program.outline, Family.outline, List.flatMap_map, List.map_flatMap]
  simp only [dataScript, List.map_cons, hdata, flatMap_outline map_outline_dataCommands p.data]

theorem map_outline_eventCommands (e : Event) :
    (eventCommands e.outline).map Command.outline = (eventCommands e).map Command.outline := by
  have hentities : ∀ x : EventEntity, (entityCommands e.name x.outline).map Command.outline =
      (entityCommands e.name x).map Command.outline := by
    intro x
    simp [entityCommands, EventEntity.outline]
  have hfields : ∀ (shape : FieldShape) (f : Assignment),
      (eventFieldCommands e.name shape f.outline).map Command.outline =
        (eventFieldCommands e.name shape f).map Command.outline := by
    intro shape f
    simp [eventFieldCommands]
  simp only [eventCommands, Event.outline, List.cons_append, List.map_cons, List.map_append,
    flatMap_outline hentities e.entities, flatMap_outline (hfields impactShape) e.impact,
    flatMap_outline (hfields eventMetadataShape) e.metadata]
  simp [Term.outline_optionalDate]

theorem map_outline_eventScript (p : Program) :
    (eventScript p.outline).map Command.outline = (eventScript p).map Command.outline := by
  have hempty : p.outline.events.isEmpty = p.events.isEmpty := by simp [Program.outline]
  rw [eventScript, eventScript, hempty]
  split
  · rfl
  · simp only [List.cons_append, List.map_cons, List.map_append, Program.outline,
      flatMap_outline map_outline_eventCommands p.events]

/-! ## The whole script -/

theorem map_outline_importScript (imports : List String) :
    (importScript (imports.map fun _ => "")).map Command.outline = (importScript imports).map Command.outline := by
  by_cases h : imports = [] <;> simp [importScript, h, Function.comp_def]

theorem map_outline_variableScript (bindings : List Assignment) :
    (variableScript (bindings.map Assignment.outline)).map Command.outline =
      (variableScript bindings).map Command.outline := by
  by_cases h : bindings = [] <;> simp [variableScript, h, Function.comp_def]

/-- The outline of a model determines the outline of its script. -/
theorem map_outline_script (p : Program) :
    (script p.outline).map Command.outline = (script p).map Command.outline := by
  simp only [script, List.map_append, map_outline_inheritanceScript, map_outline_linkScript, map_outline_dataScript,
    map_outline_eventScript]
  simp only [Program.outline, map_outline_importScript, map_outline_variableScript,
    flatMap_outline map_outline_vocabularyScript, flatMap_outline map_outline_templateScript,
    flatMap_outline map_outline_familyScript]

end MediaLanguage.Graph
