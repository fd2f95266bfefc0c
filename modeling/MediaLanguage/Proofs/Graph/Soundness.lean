import MediaLanguage.Graph.Script
import MediaLanguage.Proofs.Graph.Outline
import MediaLanguage.Proofs.Model.Remark

/-!
# Soundness of the graph script

The names of the script are names, and its comments stand on one line if the texts that they show do
(`isSound_script`).
-/

namespace MediaLanguage.Graph

open Lexis Model

/-! ## What the script shows -/

/-- The texts that comments of the script show. -/
def shownTexts (p : Program) : List String :=
  p.imports ++ p.bindings.flatMap (fun b => b.value.shownTexts) ++ p.templates.map Template.name
    ++ p.families.flatMap (fun f => f.name :: f.outlets.map Outlet.name) ++ p.links.map Link.name

/-- The names without quotes that the script writes outside literals. -/
def writtenNames (p : Program) : List String :=
  p.bindings.flatMap (fun b => b.name :: b.value.shownNames) ++ p.vocabularies.map Vocabulary.name

/-! ## Nodes and commands -/

@[simp] theorem Command.isSound_blank : Command.blank.IsSound := trivial

@[simp] theorem Command.isSound_comment {text : String} : (Command.comment text).IsSound ↔ OneLine text := Iff.rfl

@[simp] theorem Properties.hasNames_nil : Properties.HasNames [] :=
  fun _ h => nomatch h

@[simp] theorem Properties.hasNames_cons {name : String} {value : Term} {ps : Properties} :
    Properties.HasNames ((name, value) :: ps) ↔ IsName name ∧ Properties.HasNames ps :=
  List.forall_mem_cons

@[simp] theorem Node.hasNames_mk {binder label : String} {ps : Properties} :
    (Node.mk binder label ps).HasNames ↔
      IsName binder ∧ IsName label ∧ Properties.HasNames ps :=
  ⟨fun h => ⟨h.binder, h.label, h.properties⟩, fun ⟨binder, label, properties⟩ => ⟨binder, label, properties⟩⟩

@[simp] theorem Edge.hasNames_mk {source type target : String} {ps : Properties} :
    (Edge.mk source type ps target).HasNames ↔
      IsName source ∧ IsName type ∧ Properties.HasNames ps ∧ IsName target :=
  ⟨fun h => ⟨h.source, h.type, h.properties, h.target⟩,
    fun ⟨source, type, properties, target⟩ => ⟨source, type, properties, target⟩⟩

/-- The commands for a child are sound if the child, its parent, its key and the edge have names. -/
theorem isSound_childCommands {parent child : Node} {key : Properties} {edge : String} :
    (∀ c ∈ childCommands parent child key edge, c.IsSound) ↔
      parent.HasNames ∧ child.HasNames ∧ Properties.HasNames key ∧ IsName edge := by
  simp only [childCommands, List.forall_mem_cons, List.not_mem_nil, false_implies, implies_true, and_true]
  constructor
  · rintro ⟨hchild, hparent, hkey, hedge⟩
    exact ⟨hparent, hchild, hkey.properties, hedge.type⟩
  · rintro ⟨hparent, hchild, hkey, hedge⟩
    refine ⟨hchild, hparent, ⟨hchild.binder, hchild.label, hkey⟩, ?_⟩
    exact ⟨hparent.binder, hedge, Properties.hasNames_nil, hchild.binder⟩

/-- The pattern of an outlet, under a name. -/
theorem hasNames_outletPattern {binder : String} {id : Int} :
    (outletPattern binder id).HasNames ↔ IsName binder := by
  simp only [outletPattern, Node.hasNames_mk, Properties.hasNames_cons, Properties.hasNames_nil]
  exact ⟨fun h => h.1, fun h => ⟨h, by decide⟩⟩

/-! ## Vocabularies and templates -/

theorem isSound_entryCommands (vocabulary : String) (e : VocabularyEntry) :
    ∀ c ∈ entryCommands vocabulary e, c.IsSound := by
  simp only [entryCommands, isSound_childCommands, Node.hasNames_mk, Properties.hasNames_cons,
    Properties.hasNames_nil]
  decide

theorem isSound_vocabularyScript {v : Vocabulary} (hname : IsWord v.name) : ∀ c ∈ vocabularyScript v, c.IsSound := by
  have hcomment := (by decide : OneLine "Vocabulary: ").append hname.oneLine
  have hnode : (Node.mk "v" "Vocabulary" [("name", .text v.name), ("body_name", .text v.bodyName),
      ("created_at", .now)]).HasNames := by
    simp only [Node.hasNames_mk, Properties.hasNames_cons, Properties.hasNames_nil]
    decide
  simp only [vocabularyScript, List.forall_mem_append, List.forall_mem_cons, List.not_mem_nil, false_implies,
    implies_true, Command.isSound_blank, and_true]
  exact ⟨⟨hcomment, hnode⟩, List.forall_mem_flatMap.2 fun e _ => isSound_entryCommands v.name e⟩

/-- The names by which fields are drawn are names. -/
structure FieldShape.HasNames (shape : FieldShape) : Prop where
  binder : IsName shape.binder
  label : IsName shape.label
  edge : IsName shape.edge

theorem hasNames_identityShape : identityShape.HasNames :=
  ⟨by decide, by decide, by decide⟩

theorem hasNames_characteristicShape : characteristicShape.HasNames :=
  ⟨by decide, by decide, by decide⟩

theorem hasNames_metadataShape : metadataShape.HasNames :=
  ⟨by decide, by decide, by decide⟩

theorem isSound_templateFieldCommands (template : String) {shape : FieldShape} (h : shape.HasNames)
    (f : Assignment) : ∀ c ∈ templateFieldCommands template shape f, c.IsSound := by
  simp only [templateFieldCommands, templatePattern, isSound_childCommands, Node.hasNames_mk,
    Properties.hasNames_cons, Properties.hasNames_nil, h.binder, h.label, h.edge]
  decide

theorem isSound_templateScript {t : Template} (hname : OneLine t.name) : ∀ c ∈ templateScript t, c.IsSound := by
  have hcomment := (by decide : OneLine "Template: ").append hname
  have hnode : (Node.mk "t" "Template" [("name", .text t.name), ("type", .text t.type),
      ("created_at", .now)]).HasNames := by
    simp only [Node.hasNames_mk, Properties.hasNames_cons, Properties.hasNames_nil]
    decide
  have hblocks : ∀ c ∈ t.blocks.flatMap (templateBlockCommands t.name), c.IsSound := by
    refine List.forall_mem_flatMap.2 fun b _ => ?_
    cases b with
    | characteristics fields =>
      exact List.forall_mem_flatMap.2 fun f _ =>
        isSound_templateFieldCommands t.name hasNames_characteristicShape f
    | metadata fields =>
      exact List.forall_mem_flatMap.2 fun f _ => isSound_templateFieldCommands t.name hasNames_metadataShape f
  simp only [templateScript, templateNode, List.forall_mem_append, List.forall_mem_cons, List.not_mem_nil,
    false_implies, implies_true, Command.isSound_blank, and_true]
  exact ⟨⟨hcomment, hnode⟩, hblocks⟩

/-! ## Families and outlets -/

theorem isSound_outletFieldCommands (outlet : Int) {shape : FieldShape} (h : shape.HasNames) (f : Assignment) :
    ∀ c ∈ outletFieldCommands outlet shape f, c.IsSound := by
  simp only [outletFieldCommands, isSound_childCommands, hasNames_outletPattern, Node.hasNames_mk,
    List.cons_append, List.nil_append, Properties.hasNames_cons, Properties.hasNames_nil, h.binder, h.label,
    h.edge]
  decide

theorem isSound_statusCommands (outlet : Int) (s : Status) : ∀ c ∈ statusCommands outlet s, c.IsSound := by
  simp only [statusCommands, isSound_childCommands, hasNames_outletPattern, Node.hasNames_mk,
    List.cons_append, List.nil_append, Properties.hasNames_cons, Properties.hasNames_nil]
  decide

theorem isSound_blockCommands (outlet : Int) (b : Block) : ∀ c ∈ blockCommands outlet b, c.IsSound := by
  cases b with
  | identity fields =>
    exact List.forall_mem_flatMap.2 fun f _ => isSound_outletFieldCommands outlet hasNames_identityShape f
  | lifecycle statuses => exact List.forall_mem_flatMap.2 fun s _ => isSound_statusCommands outlet s
  | characteristics fields =>
    exact List.forall_mem_flatMap.2 fun f _ => isSound_outletFieldCommands outlet hasNames_characteristicShape f
  | metadata fields =>
    exact List.forall_mem_flatMap.2 fun f _ => isSound_outletFieldCommands outlet hasNames_metadataShape f

theorem isSound_outletScript (family : String) {o : Outlet} (hname : OneLine o.name) :
    ∀ c ∈ outletScript family o, c.IsSound := by
  have hcomment := (by decide : OneLine "Outlet: ").append hname
  simp only [outletScript, outletNode, List.cons_append, List.forall_mem_cons, List.forall_mem_append,
    isSound_childCommands, Node.hasNames_mk, Properties.hasNames_cons, Properties.hasNames_nil]
  exact ⟨hcomment, by decide, List.forall_mem_flatMap.2 fun b _ => isSound_blockCommands (outletId o) b⟩

theorem isSound_familyScript {f : Family} (hname : OneLine f.name) (houtlets : ∀ o ∈ f.outlets, OneLine o.name) :
    ∀ c ∈ familyScript f, c.IsSound := by
  have hcomment := (by decide : OneLine "Family: ").append hname
  have hnode : (Node.mk "f" "Family" [("name", .text f.name), ("comment", .optional f.comment),
      ("created_at", .now)]).HasNames := by
    simp only [Node.hasNames_mk, Properties.hasNames_cons, Properties.hasNames_nil]
    decide
  simp only [familyScript, familyNode, List.forall_mem_append, List.forall_mem_cons, List.not_mem_nil, false_implies,
    implies_true, Command.isSound_blank, and_true]
  exact ⟨⟨hcomment, hnode⟩, List.forall_mem_flatMap.2 fun o ho => isSound_outletScript f.name (houtlets o ho)⟩

theorem isSound_inheritanceScript (p : Program) : ∀ c ∈ inheritanceScript p, c.IsSound := by
  have hcommands : ∀ (o : Outlet), ∀ c ∈ inheritanceCommands o, c.IsSound := by
    intro o c hc
    obtain hc | hc := List.mem_append.1 hc
    · obtain ⟨name, -, rfl⟩ := Option.map_eq_some_iff.1 (Option.mem_toList.1 hc)
      refine ⟨hasNames_outletPattern.2 (by decide), ?_, ?_⟩
      · simp only [templatePattern, Node.hasNames_mk, Properties.hasNames_cons, Properties.hasNames_nil]
        decide
      · simp only [Edge.hasNames_mk, Properties.hasNames_nil]
        decide
    · obtain ⟨id, -, rfl⟩ := Option.map_eq_some_iff.1 (Option.mem_toList.1 hc)
      refine ⟨hasNames_outletPattern.2 (by decide), hasNames_outletPattern.2 (by decide), ?_⟩
      simp only [Edge.hasNames_mk, Properties.hasNames_nil]
      decide
  simp only [inheritanceScript, List.cons_append, List.forall_mem_cons, List.forall_mem_append, List.not_mem_nil,
    false_implies, implies_true, Command.isSound_blank, and_true]
  exact ⟨(by decide : OneLine "INHERITANCE"), List.forall_mem_flatMap.2 fun o _ => hcommands o⟩

/-! ## Links, market data and events -/

theorem isSound_linkCommands {l : Link} (hname : OneLine l.name) : ∀ c ∈ linkCommands l, c.IsSound := by
  cases l with
  | diachronic l =>
    have hcomment := (by decide : OneLine "Diachronic relationship: ").append hname
    simp only [linkCommands, List.forall_mem_cons, List.not_mem_nil, false_implies, implies_true, and_true]
    refine ⟨hcomment, hasNames_outletPattern.2 (by decide), hasNames_outletPattern.2 (by decide), ?_⟩
    simp only [Edge.hasNames_mk, Properties.hasNames_cons, Properties.hasNames_nil]
    decide
  | synchronous l =>
    have hcomment := (by decide : OneLine "Synchronous relationship: ").append hname
    simp only [linkCommands, List.forall_mem_cons, List.not_mem_nil, false_implies, implies_true, and_true]
    refine ⟨hcomment, hasNames_outletPattern.2 (by decide), hasNames_outletPattern.2 (by decide), ?_⟩
    simp only [Edge.hasNames_mk, Properties.hasNames_cons, Properties.hasNames_nil]
    decide

theorem isSound_metricCommands (outlet year : Int) (m : Metric) : ∀ c ∈ metricCommands outlet year m, c.IsSound := by
  simp only [metricCommands, yearKey, isSound_childCommands, Node.hasNames_mk, List.cons_append, List.nil_append,
    Properties.hasNames_cons, Properties.hasNames_nil]
  decide

theorem isSound_yearCommands (d : DataBlock) (y : Year) : ∀ c ∈ yearCommands d y, c.IsSound := by
  simp only [yearCommands, yearKey, List.forall_mem_append, isSound_childCommands, hasNames_outletPattern,
    Node.hasNames_mk, List.cons_append, List.nil_append, Properties.hasNames_cons,
    Properties.hasNames_nil]
  exact ⟨by decide, List.forall_mem_flatMap.2 fun m _ => isSound_metricCommands d.outlet y.year m⟩

theorem isSound_aggregationCommands (outlet : Int) (a : AggregationLevel) :
    ∀ c ∈ aggregationCommands outlet a, c.IsSound := by
  simp only [aggregationCommands, isSound_childCommands, hasNames_outletPattern, Node.hasNames_mk,
    Properties.hasNames_cons, Properties.hasNames_nil]
  decide

theorem isSound_dataScript (p : Program) : ∀ c ∈ dataScript p, c.IsSound := by
  refine List.forall_mem_cons.2 ⟨(by decide : OneLine "MARKET DATA"), List.forall_mem_flatMap.2 fun d _ => ?_⟩
  refine List.forall_mem_append.2 ⟨List.forall_mem_flatMap.2 fun a _ => ?_, List.forall_mem_flatMap.2 fun y _ => ?_⟩
  · exact isSound_aggregationCommands d.outlet a
  · exact isSound_yearCommands d y

theorem isSound_entityCommands (event : String) (x : EventEntity) : ∀ c ∈ entityCommands event x, c.IsSound := by
  have hconnect : (Command.connect (outletPattern "o" x.outlet)
      ⟨"ee", "EventEntity", [("entity_id", .integer x.outlet), ("event_name", .text event)]⟩
      { source := "ee", type := "INVOLVES", target := "o" }).IsSound := by
    refine ⟨hasNames_outletPattern.2 (by decide), ?_, ?_⟩
    · simp only [Node.hasNames_mk, Properties.hasNames_cons, Properties.hasNames_nil]
      decide
    · simp only [Edge.hasNames_mk, Properties.hasNames_nil]
      decide
  simp only [entityCommands, eventPattern, List.forall_mem_append, List.forall_mem_cons, List.not_mem_nil,
    false_implies, implies_true, and_true, isSound_childCommands, Node.hasNames_mk, Properties.hasNames_cons,
    Properties.hasNames_nil]
  exact ⟨by decide, hconnect⟩

theorem isSound_eventFieldCommands (event : String) {shape : FieldShape} (h : shape.HasNames) (f : Assignment) :
    ∀ c ∈ eventFieldCommands event shape f, c.IsSound := by
  simp only [eventFieldCommands, eventPattern, isSound_childCommands, Node.hasNames_mk, List.cons_append,
    List.nil_append, Properties.hasNames_cons, Properties.hasNames_nil, h.binder, h.label, h.edge]
  decide

theorem isSound_eventCommands (e : Event) : ∀ c ∈ eventCommands e, c.IsSound := by
  have hnode : (Node.mk "e" "Event" [("name", .text e.name), ("type", .text e.type), ("date", .optionalDate e.date),
      ("status", .optional e.status), ("created_at", .now)]).HasNames := by
    simp only [Node.hasNames_mk, Properties.hasNames_cons, Properties.hasNames_nil]
    decide
  have himpact : impactShape.HasNames := ⟨by decide, by decide, by decide⟩
  have hmetadata : eventMetadataShape.HasNames := ⟨by decide, by decide, by decide⟩
  simp only [eventCommands, List.cons_append, List.forall_mem_cons, List.forall_mem_append]
  refine ⟨hnode, ⟨?_, ?_⟩, ?_⟩
  · exact List.forall_mem_flatMap.2 fun x _ => isSound_entityCommands e.name x
  · exact List.forall_mem_flatMap.2 fun f _ => isSound_eventFieldCommands e.name himpact f
  · exact List.forall_mem_flatMap.2 fun f _ => isSound_eventFieldCommands e.name hmetadata f

theorem isSound_eventScript (p : Program) : ∀ c ∈ eventScript p, c.IsSound := by
  unfold eventScript
  split
  · exact List.forall_mem_nil _
  · simp only [List.cons_append, List.forall_mem_cons, List.forall_mem_append, List.not_mem_nil, false_implies,
      implies_true, Command.isSound_blank, and_true]
    exact ⟨(by decide : OneLine "EVENTS"), List.forall_mem_flatMap.2 fun e _ => isSound_eventCommands e⟩

/-! ## The whole script -/

theorem isSound_headerScript : ∀ c ∈ headerScript, c.IsSound := by
  simp only [headerScript, List.forall_mem_cons, List.not_mem_nil, false_implies, implies_true,
    Command.isSound_comment, Command.isSound_blank]
  decide

theorem isSound_importScript {imports : List String} (h : ∀ path ∈ imports, OneLine path) :
    ∀ c ∈ importScript imports, c.IsSound := by
  unfold importScript
  split
  · exact List.forall_mem_nil _
  · simp only [List.cons_append, List.forall_mem_cons, List.forall_mem_append, List.not_mem_nil, false_implies,
      implies_true, Command.isSound_blank, and_true]
    refine ⟨(by decide : OneLine "IMPORTS"), List.forall_mem_map.2 fun path hpath => ?_⟩
    exact ((by decide : OneLine "IMPORT \"").append (h path hpath)).append (by decide)

theorem isSound_variableScript {bindings : List Assignment}
    (htexts : ∀ b ∈ bindings, ∀ s ∈ b.value.shownTexts, OneLine s)
    (hnames : ∀ b ∈ bindings, ∀ s ∈ b.name :: b.value.shownNames, IsWord s) :
    ∀ c ∈ variableScript bindings, c.IsSound := by
  unfold variableScript
  split
  · exact List.forall_mem_nil _
  · simp only [List.cons_append, List.forall_mem_cons, List.forall_mem_append, List.not_mem_nil, false_implies,
      implies_true, Command.isSound_blank, and_true]
    refine ⟨(by decide : OneLine "VARIABLES"), List.forall_mem_map.2 fun b hb => ?_⟩
    obtain ⟨hname, hnames⟩ := List.forall_mem_cons.1 (hnames b hb)
    have hremark := Value.oneLine_remark (htexts b hb) hnames
    exact (((by decide : OneLine "LET ").append hname.oneLine).append (by decide)).append hremark

theorem isSound_constraintScript : ∀ c ∈ constraintScript, c.IsSound := by
  simp only [constraintScript, List.forall_mem_cons, List.not_mem_nil, false_implies, implies_true, Command.IsSound]
  decide

/-- The script of a model is sound if the texts that its comments show stand on one line and its names are words. -/
theorem isSound_script {p : Program} (htexts : ∀ s ∈ shownTexts p, OneLine s)
    (hnames : ∀ s ∈ writtenNames p, IsWord s) : ∀ c ∈ script p, c.IsSound := by
  simp only [shownTexts, List.forall_mem_append, List.forall_mem_flatMap, List.forall_mem_cons, List.forall_mem_map]
    at htexts
  simp only [writtenNames, List.forall_mem_append, List.forall_mem_flatMap, List.forall_mem_map] at hnames
  obtain ⟨⟨⟨⟨himports, hbindings⟩, htemplates⟩, hfamilies⟩, hlinks⟩ := htexts
  obtain ⟨hvariables, hvocabularies⟩ := hnames
  have hlinkScript : ∀ c ∈ linkScript p, c.IsSound :=
    List.forall_mem_cons.2 ⟨(by decide : OneLine "RELATIONSHIPS"),
      List.forall_mem_flatMap.2 fun l hl => isSound_linkCommands (hlinks l hl)⟩
  simp only [script, List.forall_mem_append]
  refine ⟨⟨⟨⟨⟨⟨⟨⟨⟨⟨isSound_headerScript, isSound_importScript himports⟩, ?_⟩, isSound_constraintScript⟩, ?_⟩, ?_⟩, ?_⟩,
    isSound_inheritanceScript p⟩, hlinkScript⟩, isSound_dataScript p⟩, isSound_eventScript p⟩
  · exact isSound_variableScript hbindings hvariables
  · exact List.forall_mem_flatMap.2 fun v hv => isSound_vocabularyScript (hvocabularies v hv)
  · exact List.forall_mem_flatMap.2 fun t ht => isSound_templateScript (htemplates t ht)
  · exact List.forall_mem_flatMap.2 fun f hf => isSound_familyScript (hfamilies f hf).1 (hfamilies f hf).2

end MediaLanguage.Graph
