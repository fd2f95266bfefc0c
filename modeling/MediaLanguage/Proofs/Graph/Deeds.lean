import MediaLanguage.Proofs.Graph.Parts

/-!
# The deeds of the script of a model

The script of a model draws vocabularies, templates and outlets with their parts, then the data of outlets, then events
with their parts. What stands between them draws edges that do not count, or nothing.

* `marks_part`, `marks_owner`: which keys a node is found by. Templates and outlets have fields with the same labels,
  which differ in the property that names the owner.
* `tells_script`: the script of a model tells its deeds. There is one lemma for each group of commands.
-/

namespace MediaLanguage.Graph

open Model

/-! ## The parts of a model -/

/-- An owner with its parts, which are no owners themselves. -/
structure Holding where
  owner : Owner
  parts : List Part
  owned : ∀ q ∈ parts, q.owner = owner ∧ q.asOwner? = none

/-- An owner is drawn in front of its parts. -/
def Holding.deeds (h : Holding) : List Deed :=
  .owner h.owner :: h.parts.map .part

/-- A vocabulary with its entries. -/
def vocabularyHolding (v : Vocabulary) : Holding where
  owner := .vocabulary v.name
  parts := v.entries.map fun e => .entry v.name e.key.text
  owned := List.forall_mem_map.2 fun _ _ => ⟨rfl, rfl⟩

/-- The parts that a block of a template gives. -/
def templateBlockParts (template : String) : TemplateBlock → List Part
  | .characteristics fields => fields.map fun f => .templateCharacteristic template f.name
  | .metadata fields => fields.map fun f => .templateMetadata template f.name

/-- A template with its fields. -/
def templateHolding (t : Template) : Holding where
  owner := .template t.name
  parts := t.blocks.flatMap (templateBlockParts t.name)
  owned := by
    refine List.forall_mem_flatMap.2 fun b _ => ?_
    cases b <;> exact List.forall_mem_map.2 fun _ _ => ⟨rfl, rfl⟩

/-- The parts that a block of an outlet gives. -/
def blockParts (outlet : Int) : Block → List Part
  | .identity fields => fields.map fun f => .identity outlet f.name
  | .lifecycle statuses => statuses.map fun s => .status outlet s.status
  | .characteristics fields => fields.map fun f => .characteristic outlet f.name
  | .metadata fields => fields.map fun f => .metadata outlet f.name

/-- An outlet with its fields and statuses. -/
def outletHolding (o : Outlet) : Holding where
  owner := .outlet (outletId o)
  parts := o.blocks.flatMap (blockParts (outletId o))
  owned := by
    refine List.forall_mem_flatMap.2 fun b _ => ?_
    cases b <;> exact List.forall_mem_map.2 fun _ _ => ⟨rfl, rfl⟩

/-- The data of a year, with its figures. -/
def yearParts (outlet : Int) (y : Year) : List Part :=
  .year outlet y.year :: y.metrics.map fun m => .metric outlet y.year m.name

/-- The data of an outlet. -/
def dataParts (d : DataBlock) : List Part :=
  d.aggregation.map (fun a => Part.aggregation d.outlet a.name) ++ d.years.flatMap (yearParts d.outlet)

/-- An event with its entities and fields. -/
def eventHolding (e : Event) : Holding where
  owner := .event e.name
  parts := e.entities.map (fun x => Part.entity e.name x.name) ++ e.impact.map (fun f => Part.impact e.name f.name)
    ++ e.metadata.map fun f => Part.eventMetadata e.name f.name
  owned := by
    rw [List.forall_mem_append, List.forall_mem_append]
    refine ⟨⟨?_, ?_⟩, ?_⟩ <;> exact List.forall_mem_map.2 fun _ _ => ⟨rfl, rfl⟩

/-- The owners that are drawn in front of the data, with their parts. -/
def frontHoldings (m : Program) : List Holding :=
  m.vocabularies.map vocabularyHolding ++ m.templates.map templateHolding ++ m.outlets.map outletHolding

/-- The parts of a model, in the order in which they are drawn. -/
def parts (m : Program) : List Part :=
  (frontHoldings m).flatMap Holding.parts ++ m.data.flatMap dataParts
    ++ (m.events.map eventHolding).flatMap Holding.parts

/-- The deeds of the script of a model. -/
def deeds (m : Program) : List Deed :=
  (frontHoldings m).flatMap Holding.deeds ++ (m.data.flatMap dataParts).map Deed.part
    ++ (m.events.map eventHolding).flatMap Holding.deeds

/-! ## Nodes and what finds them -/

/-- A property that nodes of the label of a part only have if they are parts of another kind of owner. -/
def Part.foreign : Part → String
  | .templateCharacteristic .. | .templateMetadata .. => "outlet_id"
  | _ => "template_name"

section Marks

variable {q r : Part} {o : Owner} {n : Node} {v : Vertex} {binder edge : String}

/-- A node that has the key of a part is found by this part alone. -/
theorem eq_of_key (look : String → Option Cell) (hlabel : r.label = q.label)
    (hkey : ∀ e ∈ q.key, look e.1 = some e.2.cell) (hforeign : look q.foreign = none)
    (hr : ∀ e ∈ r.key, look e.1 = some e.2.cell) : q = r := by
  -- what is left are pairs of one kind, and fields of a template beside fields of an outlet
  cases q <;> cases r <;> simp only [Part.label, String.reduceEq] at hlabel <;>
    simp_all [Part.key, Part.foreign, yearKey, Term.cell]

theorem fits_iff {pattern : Node} (hvalues : ∀ e ∈ pattern.properties, e.2 ≠ .null) :
    pattern.fits v ↔ pattern.label = v.label ∧ ∀ e ∈ pattern.properties, v.cells.lookup e.1 = some e.2.cell := by
  rw [Node.fits, Sketch.fits, Bool.and_eq_true, beq_iff_eq, List.all_eq_true]
  refine and_congr_right fun _ => ?_
  rw [Node.sketch, Properties.cells, List.forall_mem_map]
  refine forall₂_congr fun e he => ?_
  simp [Term.cell_eq_missing_iff, hvalues e he]

/-- What finds a part. -/
theorem fits_part :
    (q.pattern binder).fits v ↔ q.label = v.label ∧ ∀ e ∈ q.key, v.cells.lookup e.1 = some e.2.cell := by
  refine fits_iff ?_
  cases q <;> simp [Part.pattern, Part.key, yearKey]

/-- What finds an owner. -/
theorem fits_owner :
    (o.pattern binder).fits v ↔ o.label = v.label ∧ ∀ e ∈ o.key, v.cells.lookup e.1 = some e.2.cell := by
  refine fits_iff ?_
  cases o <;> simp [Owner.pattern, Owner.key, yearKey]

/-- Only the data of a year are an owner and a part. -/
theorem years_of_label (h : o.label = q.label) : ∃ id y id' y', o = .year id y ∧ q = .year id' y' := by
  cases o <;> cases q <;> simp only [Part.label, Owner.label, String.reduceEq] at h
  exact ⟨_, _, _, _, rfl, rfl⟩

/-- The properties of a node are those of what is drawn. -/
theorem lookup_vertex {key : Properties} (h : ∀ e ∈ key, n.properties.lookup e.1 = some e.2) :
    ∀ e ∈ key, n.vertex.cells.lookup e.1 = some e.2.cell := by
  intro e he
  show (Properties.cells n.properties).lookup e.1 = _
  rw [Properties.lookup_cells, h e he, Option.map_some]

/-- A node with the label and the key of a part. -/
theorem marks_part (hlabel : n.label = q.label) (hkey : ∀ e ∈ q.key, n.properties.lookup e.1 = some e.2)
    (hforeign : n.properties.lookup q.foreign = none) : n.Marks (some q) q.asOwner? := by
  have hcells := lookup_vertex hkey
  have hnone : n.vertex.cells.lookup q.foreign = none := by
    show (Properties.cells n.properties).lookup q.foreign = none
    rw [Properties.lookup_cells, hforeign, Option.map_none]
  constructor
  · intro r
    rw [fits_part]
    constructor
    · rintro ⟨hr, hlookup⟩
      have hq : q = r := eq_of_key (fun name => n.vertex.cells.lookup name) (hr.trans hlabel) hcells hnone hlookup
      rw [hq]
    · rintro ⟨⟩
      exact ⟨hlabel.symm, hcells⟩
  · intro o
    rw [fits_owner]
    constructor
    · rintro ⟨ho, hlookup⟩
      obtain ⟨id, y, id', y', rfl, rfl⟩ := years_of_label (ho.trans hlabel)
      simp_all [Part.key, Owner.key, yearKey, Term.cell, Part.asOwner?]
    · intro ho
      cases q <;> simp only [Part.asOwner?, reduceCtorEq, Option.some.injEq] at ho
      subst ho
      exact ⟨hlabel.symm, hcells⟩

/-- A node without the label of a part is no part. -/
theorem not_fits_part (h : n.label ∉ partLabels) : ¬(q.pattern binder).fits n.vertex := by
  rw [fits_part]
  rintro ⟨hlabel, -⟩
  have hsame : q.label = n.label := hlabel
  exact h (hsame ▸ q.label_mem)

/-- A node with the label and the key of an owner that is no part. -/
theorem marks_owner (hlabel : n.label = o.label) (hkey : ∀ e ∈ o.key, n.properties.lookup e.1 = some e.2)
    (hpart : o.label ∉ partLabels) : n.Marks none (some o) := by
  have hcells := lookup_vertex hkey
  constructor
  · intro r
    exact iff_of_false (not_fits_part (hlabel ▸ hpart)) (by simp)
  · intro o'
    rw [fits_owner]
    constructor
    · rintro ⟨ho, hlookup⟩
      have hsame : o'.label = o.label := ho.trans hlabel
      cases o <;> cases o' <;> simp only [Owner.label, String.reduceEq] at hsame <;>
        simp_all [Owner.key, yearKey, Term.cell]
    · rintro ⟨⟩
      exact ⟨hlabel.symm, hcells⟩

/-- A node that neither parts nor owners have the label of. -/
theorem marks_none (hpart : n.label ∉ partLabels) (howner : ∀ o : Owner, o.label ≠ n.label) : n.Marks none none := by
  constructor
  · intro r
    exact iff_of_false (not_fits_part hpart) (by simp)
  · intro o
    refine iff_of_false ?_ (by simp)
    rw [fits_owner]
    rintro ⟨ho, -⟩
    exact howner o ho

end Marks

/-! ## Parts -/

section Parts

variable {α : Type} {child : Node} {edge : String}

/-- The commands of a part tell the part. -/
theorem tells_child (q : Part) (binder : String) (hlabel : child.label = q.label)
    (hkey : ∀ e ∈ q.key, child.properties.lookup e.1 = some e.2)
    (hforeign : child.properties.lookup q.foreign = none) (hbinder : child.binder ≠ binder) (howns : owns edge) :
    Tells (childCommands (q.owner.pattern binder) child q.key edge) [.part q] :=
  .part (marks_part hlabel hkey hforeign) hlabel hbinder howns .nil

theorem Tells.flatMap_parts {l : List α} {f : α → Script} {parts : α → List Part}
    (h : ∀ x ∈ l, Tells (f x) ((parts x).map .part)) : Tells (l.flatMap f) ((l.flatMap parts).map .part) := by
  rw [List.map_flatMap]
  exact Tells.flatMap h

theorem Tells.map_parts {l : List α} {f : α → Script} {part : α → Part} (h : ∀ x, Tells (f x) [.part (part x)]) :
    Tells (l.flatMap f) ((l.map part).map .part) := by
  have hmap : l.map part = l.flatMap fun x => [part x] := List.map_eq_flatMap
  rw [hmap]
  exact Tells.flatMap_parts fun x _ => h x

theorem tells_entry (v : String) (e : VocabularyEntry) : Tells (entryCommands v e) [.part (.entry v e.key.text)] :=
  tells_child (.entry v e.key.text) "v" rfl (by simp [Part.key, List.lookup]) rfl
    (ne_of_beq_false rfl) (by decide)

theorem tells_templateBlock (t : String) (b : TemplateBlock) :
    Tells (templateBlockCommands t b) ((templateBlockParts t b).map .part) := by
  cases b with
  | characteristics fields =>
    exact Tells.map_parts fun f => tells_child (.templateCharacteristic t f.name) "t" rfl
      (by simp [Part.key, List.lookup]) rfl (ne_of_beq_false rfl) (by decide)
  | metadata fields =>
    exact Tells.map_parts fun f => tells_child (.templateMetadata t f.name) "t" rfl
      (by simp [Part.key, List.lookup]) rfl (ne_of_beq_false rfl) (by decide)

theorem tells_block (outlet : Int) (b : Block) :
    Tells (blockCommands outlet b) ((blockParts outlet b).map .part) := by
  cases b with
  | identity fields =>
    exact Tells.map_parts fun f => tells_child (.identity outlet f.name) "o" rfl
      (by simp [Part.key, List.lookup]) rfl (ne_of_beq_false rfl) (by decide)
  | lifecycle statuses =>
    exact Tells.map_parts fun s => tells_child (.status outlet s.status) "o" rfl
      (by simp [Part.key, List.lookup]) rfl (ne_of_beq_false rfl) (by decide)
  | characteristics fields =>
    exact Tells.map_parts fun f => tells_child (.characteristic outlet f.name) "o" rfl
      (by simp [Part.key, List.lookup]) rfl (ne_of_beq_false rfl) (by decide)
  | metadata fields =>
    exact Tells.map_parts fun f => tells_child (.metadata outlet f.name) "o" rfl
      (by simp [Part.key, List.lookup]) rfl (ne_of_beq_false rfl) (by decide)

/-- The data of a year are a part of their outlet, and their figures are parts of them. -/
theorem tells_year (d : DataBlock) (y : Year) : Tells (yearCommands d y) ((yearParts d.outlet y).map .part) := by
  have hyear : Tells (childCommands (outletPattern "o" d.outlet)
      ⟨"d", "MarketData",
        yearKey d.outlet y.year ++ [("comment", Term.optional y.comment), ("maps_to", .optional d.mapsTo)]⟩
      (yearKey d.outlet y.year) "HAS_DATA") [.part (.year d.outlet y.year)] :=
    tells_child (.year d.outlet y.year) "o" rfl (by simp [Part.key, yearKey, List.lookup]) rfl (ne_of_beq_false rfl)
      (by decide)
  have hmetrics : Tells (y.metrics.flatMap (metricCommands d.outlet y.year))
      ((y.metrics.map fun m => .metric d.outlet y.year m.name).map .part) :=
    Tells.map_parts fun m => tells_child (.metric d.outlet y.year m.name) "d" rfl
      (by simp [Part.key, yearKey, List.lookup]) rfl (ne_of_beq_false rfl) (by decide)
  exact hyear.append hmetrics

theorem tells_data (d : DataBlock) : Tells (dataCommands d) ((dataParts d).map .part) := by
  have hlevels : Tells (d.aggregation.flatMap (aggregationCommands d.outlet))
      ((d.aggregation.map fun a => .aggregation d.outlet a.name).map .part) :=
    Tells.map_parts fun a => tells_child (.aggregation d.outlet a.name) "o" rfl
      (by simp [Part.key, List.lookup]) rfl (ne_of_beq_false rfl) (by decide)
  rw [dataParts, List.map_append]
  exact hlevels.append (Tells.flatMap_parts fun y _ => tells_year d y)

/-- The edge from an entity to its outlet is not one of ownership. -/
theorem tells_entity (event : String) (x : EventEntity) :
    Tells (entityCommands event x) [.part (.entity event x.name)] := by
  have hinvolves : Tells [.connect (outletPattern "o" x.outlet)
      ⟨"ee", "EventEntity", [("entity_id", .integer x.outlet), ("event_name", .text event)]⟩
      { source := "ee", type := "INVOLVES", target := "o" }] [] :=
    .connect (fun howns => absurd howns (by decide)) .nil
  exact (tells_child (.entity event x.name) "e" rfl (by simp [Part.key, List.lookup]) rfl (ne_of_beq_false rfl)
    (by decide)).append hinvolves

end Parts

/-! ## Owners with their parts -/

section Holdings

variable {α : Type} {h : Holding} {n : Node} {s : Script}

theorem Tells.map_holdings {l : List α} {f : α → Script} {holding : α → Holding}
    (h : ∀ x, Tells (f x) (holding x).deeds) : Tells (l.flatMap f) ((l.map holding).flatMap Holding.deeds) := by
  rw [List.flatMap_map]
  exact Tells.flatMap fun x _ => h x

/-- An owner that is created, with what follows. -/
theorem tells_holding (hlabel : n.label = h.owner.label) (hkey : ∀ e ∈ h.owner.key, n.properties.lookup e.1 = some e.2)
    (hpart : h.owner.label ∉ partLabels) (hs : Tells s (h.parts.map .part)) : Tells (.create n :: s) h.deeds :=
  .create (marks_owner hlabel hkey hpart) (hlabel ▸ hpart) hs

theorem tells_vocabulary (v : Vocabulary) : Tells (vocabularyScript v) (vocabularyHolding v).deeds := by
  have hentries : Tells (v.entries.flatMap (entryCommands v.name) ++ [Command.blank])
      ((vocabularyHolding v).parts.map Deed.part ++ []) :=
    (Tells.map_parts (tells_entry v.name)).append (.remark (fun _ => rfl) .nil)
  rw [List.append_nil] at hentries
  exact .remark (fun _ => rfl) (tells_holding rfl (by simp [vocabularyHolding, Owner.key])
    (show "Vocabulary" ∉ partLabels by decide) hentries)

theorem tells_template (t : Template) : Tells (templateScript t) (templateHolding t).deeds := by
  have hfields : Tells (t.blocks.flatMap (templateBlockCommands t.name) ++ [Command.blank])
      ((templateHolding t).parts.map Deed.part ++ []) :=
    (Tells.flatMap_parts fun b _ => tells_templateBlock t.name b).append (.remark (fun _ => rfl) .nil)
  rw [List.append_nil] at hfields
  exact .remark (fun _ => rfl) (tells_holding rfl (by simp [templateHolding, Owner.key])
    (show "Template" ∉ partLabels by decide) hfields)

/-- The edge from a family to an outlet leads to no part. -/
theorem tells_outlet (family : String) (o : Outlet) : Tells (outletScript family o) (outletHolding o).deeds := by
  have hblocks : Tells (o.blocks.flatMap (blockCommands (outletId o))) ((outletHolding o).parts.map .part) :=
    Tells.flatMap_parts fun b _ => tells_block (outletId o) b
  exact .remark (fun _ => rfl) (tells_holding rfl (by simp [outletHolding, Owner.key])
    (show "Outlet" ∉ partLabels by decide)
    (.connect (fun _ => ⟨show "o" ≠ "f" by decide, show "Outlet" ∉ partLabels by decide⟩) hblocks))

/-- A family is no owner of parts. -/
theorem tells_family (f : Family) :
    Tells (familyScript f) ((f.outlets.map outletHolding).flatMap Holding.deeds) := by
  have houtlets : Tells (f.outlets.flatMap (outletScript f.name) ++ [Command.blank])
      ((f.outlets.map outletHolding).flatMap Holding.deeds ++ []) :=
    (Tells.map_holdings (tells_outlet f.name)).append (.remark (fun _ => rfl) .nil)
  rw [List.append_nil] at houtlets
  refine .remark (fun _ => rfl) (.create (marks_none ?_ ?_) ?_ houtlets)
  · show "Family" ∉ partLabels
    decide
  · intro o
    show o.label ≠ "Family"
    cases o <;> simp [Owner.label]
  · show "Family" ∉ partLabels
    decide

theorem tells_event (e : Event) : Tells (eventCommands e) (eventHolding e).deeds := by
  have himpact : Tells (e.impact.flatMap (eventFieldCommands e.name impactShape))
      ((e.impact.map fun f => .impact e.name f.name).map .part) :=
    Tells.map_parts fun f => tells_child (.impact e.name f.name) "e" rfl
      (by simp [Part.key, List.lookup]) rfl (ne_of_beq_false rfl) (by decide)
  have hmetadata : Tells (e.metadata.flatMap (eventFieldCommands e.name eventMetadataShape))
      ((e.metadata.map fun f => .eventMetadata e.name f.name).map .part) :=
    Tells.map_parts fun f => tells_child (.eventMetadata e.name f.name) "e" rfl
      (by simp [Part.key, List.lookup]) rfl (ne_of_beq_false rfl) (by decide)
  have hparts := ((Tells.map_parts (l := e.entities) (tells_entity e.name)).append himpact).append hmetadata
  rw [← List.map_append, ← List.map_append] at hparts
  exact tells_holding rfl (by simp [eventHolding, Owner.key]) (show "Event" ∉ partLabels by decide) hparts

end Holdings

/-! ## The whole script -/

section Scripts

variable {m : Program}

/-- Commands that draw nothing, or edges that are not of ownership. -/
def Command.isQuiet : Command → Bool
  | .create _ => false
  | .connect _ _ edge => !owns edge.type
  | .comment _ | .blank | .unique .. | .index .. => true

theorem tells_quiet {s : Script} (h : s.all Command.isQuiet) : Tells s [] := by
  induction s with
  | nil => exact .nil
  | cons c s ih =>
    rw [List.all_cons, Bool.and_eq_true] at h
    obtain ⟨hc, hs⟩ := h
    cases c with
    | create n => cases hc
    | connect first second e =>
      rw [Command.isQuiet, Bool.not_eq_true'] at hc
      exact .connect (fun howns => absurd howns (by rw [hc]; exact Bool.false_ne_true)) (ih hs)
    | comment | blank | unique | index => exact .remark (fun _ => rfl) (ih hs)

/-- What stands in front of the nodes. -/
theorem tells_front (m : Program) :
    Tells (headerScript ++ importScript m.imports ++ variableScript m.bindings ++ constraintScript) [] := by
  apply tells_quiet
  unfold headerScript importScript variableScript constraintScript
  split <;> split <;> simp [Command.isQuiet]

theorem tells_inheritance (m : Program) : Tells (inheritanceScript m) [] := by
  apply tells_quiet
  have htemplate : owns "EXTENDS_TEMPLATE" = false := rfl
  have hbase : owns "BASED_ON" = false := rfl
  simp [inheritanceScript, inheritanceCommands, Command.isQuiet, htemplate, hbase]

theorem tells_links (m : Program) : Tells (linkScript m) [] := by
  apply tells_quiet
  have hdiachronic : owns "DIACHRONIC_LINK" = false := rfl
  have hsynchronous : owns "SYNCHRONOUS_LINK" = false := rfl
  rw [linkScript, List.all_cons, List.all_flatMap, Bool.and_eq_true, List.all_eq_true]
  refine ⟨rfl, fun l _ => ?_⟩
  cases l <;> simp [linkCommands, Command.isQuiet, hdiachronic, hsynchronous]

theorem tells_events (m : Program) : Tells (eventScript m) ((m.events.map eventHolding).flatMap Holding.deeds) := by
  rw [eventScript]
  split
  · rename_i hevents
    rw [List.isEmpty_iff.1 hevents]
    exact .nil
  · have hs : Tells (m.events.flatMap eventCommands ++ [Command.blank])
        ((m.events.map eventHolding).flatMap Holding.deeds ++ []) :=
      (Tells.map_holdings tells_event).append (.remark (fun _ => rfl) .nil)
    rw [List.append_nil] at hs
    exact .remark (fun _ => rfl) hs

/-- The script of a model tells its deeds. -/
theorem tells_script (m : Program) : Tells (script m) (deeds m) := by
  have houtlets : m.families.flatMap (fun f => (f.outlets.map outletHolding).flatMap Holding.deeds) =
      (m.outlets.map outletHolding).flatMap Holding.deeds := by
    simp only [List.flatMap_map, Program.outlets, List.flatMap_assoc]
  have hfamilies := Tells.flatMap (l := m.families) fun f _ => tells_family f
  rw [houtlets] at hfamilies
  have hdata : Tells (dataScript m) ((m.data.flatMap dataParts).map .part) :=
    .remark (fun _ => rfl) (Tells.flatMap_parts fun d _ => tells_data d)
  have hscript := (((((((tells_front m).append (Tells.map_holdings (l := m.vocabularies) tells_vocabulary)).append
    (Tells.map_holdings (l := m.templates) tells_template)).append hfamilies).append (tells_inheritance m)).append
    (tells_links m)).append hdata).append (tells_events m)
  rw [script, deeds, frontHoldings, List.flatMap_append, List.flatMap_append]
  simpa only [List.append_nil, List.nil_append] using hscript

end Scripts

end MediaLanguage.Graph
