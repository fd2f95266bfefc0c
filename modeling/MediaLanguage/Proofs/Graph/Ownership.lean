import MediaLanguage.Proofs.Graph.Deeds
import MediaLanguage.Proofs.Model.Closed
import MediaLanguage.Proofs.Naming

/-!
# Every part has an owner

The graph script finds a part and its owner again by their keys before it draws the edge between them. The owner is
always there, so an edge leads to every part. It is the only one if no part with the same key is drawn behind it, and
if the owner was drawn once when the edge was.

Validation keeps the names of vocabularies and templates apart. It does not do so for keys of parts, for events, and
for outlets without a number; years, figures and fields that are given twice are accepted.

* `edgeCounts_eq_one_iff`: when the deeds of a script give one edge to every part.
* `edgeCounts_deeds_iff`: when the deeds of a model do.
* `parts_owned`: both for every text that compiles. Where the texts that comments show stand on one line, the text of
  the script draws what the script draws. A year that is given twice has two edges (`not_parts_owned_once`).
-/

namespace MediaLanguage

namespace Graph

/-! ## Owners that are drawn in front of their parts -/

/-- The owners that a deed draws. -/
def Deed.owners : Deed → List Owner
  | .owner o => [o]
  | .part q => q.asOwner?.toList

/-- The parts that a deed draws. -/
def Deed.parts : Deed → List Part
  | .owner _ => []
  | .part q => [q]

/-- Every part that is drawn is related to the owners in front of it. -/
def Each (P : List Owner → Part → Prop) : List Owner → List Deed → Prop
  | _, [] => True
  | seen, .owner o :: deeds => Each P (seen ++ [o]) deeds
  | seen, .part q :: deeds => P seen q ∧ Each P (seen ++ q.asOwner?.toList) deeds

/-- Every part has its owner in front of it. -/
def Founded : List Owner → List Deed → Prop :=
  Each fun seen q => q.owner ∈ seen

/-- Every part has its owner in front of it once. -/
def Sole : List Owner → List Deed → Prop :=
  Each fun seen q => seen.count q.owner = 1

section Deeds

variable {P : List Owner → Part → Prop} {seen : List Owner} {deeds more : List Deed} {q : Part} {ps : List Part}

theorem each_append :
    Each P seen (deeds ++ more) ↔ Each P seen deeds ∧ Each P (seen ++ deeds.flatMap Deed.owners) more := by
  induction deeds generalizing seen with
  | nil => simp [Each]
  | cons d deeds ih =>
    cases d with
    | owner o => simp [Each, ih, Deed.owners]
    | part q => simp [Each, ih, Deed.owners, and_assoc]

/-- Parts that are no owners all have the same owners in front of them. -/
theorem each_parts (h : ∀ q ∈ ps, q.asOwner? = none) : Each P seen (ps.map .part) ↔ ∀ q ∈ ps, P seen q := by
  induction ps with
  | nil => simp [Each]
  | cons q ps ih =>
    obtain ⟨hq, hps⟩ := List.forall_mem_cons.1 h
    rw [List.map_cons, Each, hq, Option.toList_none, List.append_nil, ih hps, List.forall_mem_cons]

theorem Founded.mono {others : List Owner} (h : Founded seen deeds) (hsub : seen ⊆ others) : Founded others deeds := by
  induction deeds generalizing seen others with
  | nil => trivial
  | cons d deeds ih =>
    have hmore : ∀ os, seen ++ os ⊆ others ++ os := fun os =>
      List.append_subset.2 ⟨List.subset_append_of_subset_left _ hsub, List.subset_append_right _ _⟩
    cases d with
    | owner o => exact ih h (hmore _)
    | part q => exact ⟨hsub h.1, ih h.2 (hmore _)⟩

theorem Founded.flatMap {α : Type} {l : List α} {f : α → List Deed} (h : ∀ x ∈ l, Founded seen (f x)) :
    Founded seen (l.flatMap f) := by
  induction l with
  | nil => trivial
  | cons x l ih =>
    obtain ⟨hx, hl⟩ := List.forall_mem_cons.1 h
    exact each_append.2 ⟨hx, (ih hl).mono (List.subset_append_left _ _)⟩

/-- Where no owner is drawn twice, parts have one. -/
theorem Founded.sole (h : Founded seen deeds) (hnodup : (seen ++ deeds.flatMap Deed.owners).Nodup) :
    Sole seen deeds := by
  induction deeds generalizing seen with
  | nil => trivial
  | cons d deeds ih =>
    rw [List.flatMap_cons, ← List.append_assoc] at hnodup
    cases d with
    | owner o => exact ih h hnodup
    | part q => exact ⟨List.count_eq_one_of_mem hnodup.of_append_left.of_append_left h.1, ih h.2 hnodup⟩

/-! ## Edges that parts get -/

/-- A part that is there gets edges exactly if it is drawn again. -/
theorem arrivals_eq_zero_iff (h : Founded seen deeds) :
    arrivals q seen deeds = 0 ↔ q ∉ deeds.flatMap Deed.parts := by
  induction deeds generalizing seen with
  | nil => simp [arrivals]
  | cons d deeds ih =>
    rw [List.flatMap_cons, List.mem_append, not_or]
    cases d with
    | owner o =>
      rw [arrivals, ih h]
      simp [Deed.parts]
    | part r =>
      have hpos : seen.count r.owner ≠ 0 := Nat.ne_of_gt (List.count_pos_iff.2 h.1)
      rw [arrivals, Nat.add_eq_zero_iff, ih h.2]
      refine and_congr_left fun _ => ?_
      simp only [Deed.parts, List.mem_singleton, ite_eq_right_iff, hpos, imp_false]
      exact not_congr eq_comm

/-- Every part gets an edge. -/
theorem edgeCounts_pos (h : Founded seen deeds) : ∀ n ∈ edgeCounts seen deeds, 0 < n := by
  induction deeds generalizing seen with
  | nil => simp [edgeCounts]
  | cons d deeds ih =>
    cases d with
    | owner o => exact ih h
    | part q =>
      rw [edgeCounts, List.forall_mem_cons]
      have hpos : 0 < seen.count q.owner := List.count_pos_iff.2 h.1
      exact ⟨by omega, ih h.2⟩

/-- Every part gets one edge exactly if no part is drawn twice and each has one owner. -/
theorem edgeCounts_eq_one_iff (h : Founded seen deeds) :
    (∀ n ∈ edgeCounts seen deeds, n = 1) ↔ (deeds.flatMap Deed.parts).Nodup ∧ Sole seen deeds := by
  induction deeds generalizing seen with
  | nil => simp [edgeCounts, Sole, Each]
  | cons d deeds ih =>
    cases d with
    | owner o => exact ih h
    | part q =>
      have hpos : 0 < seen.count q.owner := List.count_pos_iff.2 h.1
      have hone : seen.count q.owner + arrivals q (seen ++ q.asOwner?.toList) deeds = 1 ↔
          seen.count q.owner = 1 ∧ q ∉ deeds.flatMap Deed.parts := by
        rw [← arrivals_eq_zero_iff h.2]
        omega
      show _ ↔ (q :: deeds.flatMap Deed.parts).Nodup ∧ seen.count q.owner = 1 ∧ Sole _ deeds
      rw [edgeCounts, List.forall_mem_cons, hone, ih h.2, List.nodup_cons]
      tauto

end Deeds

/-! ## Owners with their parts -/

section Holdings

variable {seen : List Owner} {h : Holding} {hs : List Holding}

theorem Holding.owners_deeds (h : Holding) : h.deeds.flatMap Deed.owners = [h.owner] := by
  have hparts : (h.parts.map Deed.part).flatMap Deed.owners = [] := by
    rw [List.flatMap_map, List.flatMap_eq_nil_iff]
    intro q hq
    show q.asOwner?.toList = []
    rw [(h.owned q hq).2, Option.toList_none]
  rw [Holding.deeds, List.flatMap_cons, hparts]
  rfl

theorem parts_map_part (ps : List Part) : (ps.map Deed.part).flatMap Deed.parts = ps := by
  rw [List.flatMap_map]
  exact List.flatMap_singleton' ps

theorem each_deeds {P : List Owner → Part → Prop} :
    Each P seen h.deeds ↔ ∀ q ∈ h.parts, P (seen ++ [h.owner]) q :=
  each_parts fun q hq => (h.owned q hq).2

theorem founded_holdings (seen : List Owner) (hs : List Holding) : Founded seen (hs.flatMap Holding.deeds) := by
  refine Founded.flatMap fun h _ => each_deeds.2 fun q hq => ?_
  rw [(h.owned q hq).1]
  exact List.mem_append_right _ (List.mem_singleton_self _)

theorem owners_holdings (hs : List Holding) :
    (hs.flatMap Holding.deeds).flatMap Deed.owners = hs.map Holding.owner := by
  rw [List.flatMap_assoc, List.map_eq_flatMap]
  simp only [Holding.owners_deeds]

theorem parts_holdings (hs : List Holding) :
    (hs.flatMap Holding.deeds).flatMap Deed.parts = hs.flatMap Holding.parts := by
  rw [List.flatMap_assoc]
  congr 1
  funext h
  exact parts_map_part h.parts

/-- The parts of an owner have one owner, unless it has been drawn before. -/
theorem sole_deeds : Sole seen h.deeds ↔ (h.parts ≠ [] → h.owner ∉ seen) := by
  have hcount : ∀ q ∈ h.parts, (seen ++ [h.owner]).count q.owner = 1 ↔ h.owner ∉ seen := by
    intro q hq
    rw [(h.owned q hq).1, List.count_append, List.count_singleton_self, ← List.count_eq_zero]
    omega
  rw [Sole, each_deeds]
  cases hparts : h.parts with
  | nil => simp
  | cons q ps =>
    rw [hparts] at hcount
    constructor
    · intro hall _
      exact (hcount q (List.mem_cons_self ..)).1 (hall q (List.mem_cons_self ..))
    · intro hnot r hr
      exact (hcount r hr).2 (hnot (List.cons_ne_nil _ _))

/-- The parts of several owners have one owner each, unless an owner with parts has been drawn before. An owner without
parts may be drawn again. -/
theorem sole_holdings :
    Sole seen (hs.flatMap Holding.deeds) ↔
      (∀ h ∈ hs, h.parts ≠ [] → h.owner ∉ seen) ∧ hs.Pairwise fun a b => b.parts ≠ [] → a.owner ≠ b.owner := by
  induction hs generalizing seen with
  | nil => simp [Sole, Each]
  | cons h hs ih =>
    have hsplit : Sole seen ((h :: hs).flatMap Holding.deeds) ↔
        Sole seen h.deeds ∧ Sole (seen ++ h.deeds.flatMap Deed.owners) (hs.flatMap Holding.deeds) := each_append
    rw [hsplit, sole_deeds, h.owners_deeds, ih, List.forall_mem_cons, List.pairwise_cons]
    simp only [List.mem_append, List.mem_singleton, not_or]
    grind

end Holdings

/-! ## The script of a model -/

section Models

open Model

variable {m : Program}

/-- The owners that are drawn in front of the data. -/
def frontOwners (m : Program) : List Owner :=
  (m.vocabularies.map Vocabulary.name).map .vocabulary ++ (m.templates.map Template.name).map .template
    ++ (m.outlets.map outletId).map .outlet

theorem map_owner_frontHoldings (m : Program) : (frontHoldings m).map Holding.owner = frontOwners m := by
  simp [frontHoldings, frontOwners, vocabularyHolding, templateHolding, outletHolding, Function.comp_def]

/-- The parts that the deeds of a model draw are its parts. -/
theorem parts_deeds (m : Program) : (deeds m).flatMap Deed.parts = parts m := by
  rw [deeds, parts, List.flatMap_append, List.flatMap_append, parts_holdings, parts_holdings, parts_map_part]

/-- The data of an outlet are founded behind it. -/
theorem founded_data {seen : List Owner} {d : DataBlock} (h : .outlet d.outlet ∈ seen) :
    Founded seen ((dataParts d).map .part) := by
  rw [dataParts, List.map_append]
  refine each_append.2 ⟨?_, ?_⟩
  · exact (each_parts (List.forall_mem_map.2 fun _ _ => rfl)).2 (List.forall_mem_map.2 fun _ _ => h)
  · rw [List.map_flatMap]
    refine Founded.flatMap fun y _ => ⟨List.mem_append_left _ h, ?_⟩
    refine (each_parts (List.forall_mem_map.2 fun _ _ => rfl)).2 (List.forall_mem_map.2 fun _ _ => ?_)
    exact List.mem_append_right _ (List.mem_singleton_self _)

/-- The owners that are drawn with the data are their years, which are parts. -/
theorem owners_parts (ps : List Part) : (ps.map Deed.part).flatMap Deed.owners = ps.filterMap Part.asOwner? := by
  rw [List.flatMap_map, List.filterMap_eq_flatMap_toList]
  rfl

theorem mem_yearOwners {ps : List Part} {o : Owner} (h : o ∈ ps.filterMap Part.asOwner?) : ∃ id y, o = .year id y := by
  obtain ⟨q, -, hq⟩ := List.mem_filterMap.1 h
  cases q <;> cases hq
  exact ⟨_, _, rfl⟩

theorem nodup_yearOwners {ps : List Part} (h : ps.Nodup) : (ps.filterMap Part.asOwner?).Nodup := by
  refine h.filterMap fun q r o hq hr => ?_
  cases q <;> cases hq
  cases r <;> cases hr
  rfl

/-- What validation makes sure of. -/
structure Grounded (m : Program) : Prop where
  vocabularies : (m.vocabularies.map Vocabulary.name).Nodup
  templates : (m.templates.map Template.name).Nodup
  /-- Data describe outlets that are there. -/
  data : ∀ d ∈ m.data, ∃ o ∈ m.outlets, o.id = some d.outlet
  /-- Every outlet has parts, those of its identity. -/
  outlets : ∀ o ∈ m.outlets, (outletHolding o).parts ≠ []

/-- A model that keeps its parts apart. -/
structure Distinct (m : Program) : Prop where
  /-- No two parts have the same key. -/
  parts : (parts m).Nodup
  /-- No two outlets have the same number in the output. -/
  outlets : (m.outlets.map outletId).Nodup
  /-- No event with parts has the name of an event in front of it. -/
  events : m.events.Pairwise fun a b => (eventHolding b).parts ≠ [] → a.name ≠ b.name

instance (m : Program) : Decidable (Distinct m) :=
  decidable_of_iff ((parts m).Nodup ∧ (m.outlets.map outletId).Nodup ∧
      m.events.Pairwise fun a b => (eventHolding b).parts ≠ [] → a.name ≠ b.name)
    ⟨fun ⟨hparts, houtlets, hevents⟩ => ⟨hparts, houtlets, hevents⟩, fun h => ⟨h.parts, h.outlets, h.events⟩⟩

/-- The owners in front of the data, and in front of the events. -/
theorem each_script {P : List Owner → Part → Prop} :
    Each P [] (deeds m) ↔ Each P [] ((frontHoldings m).flatMap Holding.deeds) ∧
      Each P (frontOwners m) ((m.data.flatMap dataParts).map .part) ∧
      Each P (frontOwners m ++ (m.data.flatMap dataParts).filterMap Part.asOwner?)
        ((m.events.map eventHolding).flatMap Holding.deeds) := by
  rw [deeds, each_append, each_append, List.flatMap_append, owners_holdings, owners_parts, map_owner_frontHoldings,
    List.nil_append, List.nil_append, and_assoc]

theorem founded_deeds (h : Grounded m) : Founded [] (deeds m) := by
  refine each_script.2 ⟨founded_holdings _ _, ?_, founded_holdings _ _⟩
  rw [List.map_flatMap]
  refine Founded.flatMap fun d hd => founded_data ?_
  obtain ⟨o, ho, hid⟩ := h.data d hd
  have hnumber : outletId o = d.outlet := by rw [outletId, hid, Option.getD_some]
  exact List.mem_append_right _ (List.mem_map_of_mem (hnumber ▸ List.mem_map_of_mem ho))

theorem nodup_frontOwners (h : Grounded m) (houtlets : (m.outlets.map outletId).Nodup) : (frontOwners m).Nodup := by
  have hvocabularies := h.vocabularies.map fun _ _ => Owner.vocabulary.inj
  have htemplates := h.templates.map fun _ _ => Owner.template.inj
  have hnumbers := houtlets.map fun _ _ => Owner.outlet.inj
  refine (hvocabularies.append htemplates ?_).append hnumbers ?_
  · simp [List.disjoint_left]
  · simp [List.disjoint_right]

/-- Data have one owner each behind different outlets: their years are parts, and drawn once. -/
theorem sole_data (h : Grounded m) (houtlets : (m.outlets.map outletId).Nodup) (hparts : (parts m).Nodup) :
    Sole (frontOwners m) ((m.data.flatMap dataParts).map .part) := by
  refine Founded.sole (each_script.1 (founded_deeds h)).2.1 ?_
  rw [owners_parts]
  refine (nodup_frontOwners h houtlets).append (nodup_yearOwners hparts.of_append_left.of_append_right) ?_
  intro o hfront hdata
  obtain ⟨id, y, rfl⟩ := mem_yearOwners hdata
  simp [frontOwners] at hfront

/-- No event is drawn in front of the events. -/
theorem sole_events {ps : List Part} :
    Sole (frontOwners m ++ ps.filterMap Part.asOwner?) ((m.events.map eventHolding).flatMap Holding.deeds) ↔
      m.events.Pairwise fun a b => (eventHolding b).parts ≠ [] → a.name ≠ b.name := by
  have howner : ∀ a b : Event, (eventHolding a).owner ≠ (eventHolding b).owner ↔ a.name ≠ b.name := fun a b =>
    not_congr (by rw [eventHolding, eventHolding, Owner.event.injEq])
  rw [sole_holdings, List.pairwise_map]
  simp only [howner]
  refine and_iff_right (List.forall_mem_map.2 fun e _ _ hmem => ?_)
  rcases List.mem_append.1 hmem with hfront | hyear
  · simp [frontOwners, eventHolding] at hfront
  · obtain ⟨id, y, hevent⟩ := mem_yearOwners hyear
    cases hevent

/-- The outlets of a script whose parts have one owner each have different numbers. -/
theorem nodup_outletId_of_sole (h : Grounded m) (hsole : Sole [] ((frontHoldings m).flatMap Holding.deeds)) :
    (m.outlets.map outletId).Nodup := by
  have hpairwise := (List.pairwise_append.1 (sole_holdings.1 hsole).2).2.1
  rw [List.pairwise_map] at hpairwise
  refine List.pairwise_map.2 (hpairwise.imp_of_mem fun {a b} _ hb hne heq => ?_)
  exact hne (h.outlets b hb) (congrArg Owner.outlet heq)

/-- Every part of a model gets one edge exactly if the model keeps its parts apart. -/
theorem edgeCounts_deeds_iff (h : Grounded m) : (∀ n ∈ edgeCounts [] (deeds m), n = 1) ↔ Distinct m := by
  rw [edgeCounts_eq_one_iff (founded_deeds h), parts_deeds]
  constructor
  · rintro ⟨hparts, hsole⟩
    obtain ⟨hfront, -, hevents⟩ := each_script.1 hsole
    exact ⟨hparts, nodup_outletId_of_sole h hfront, sole_events.1 hevents⟩
  · rintro ⟨hparts, houtlets, hevents⟩
    refine ⟨hparts, each_script.2 ⟨?_, sole_data h houtlets hparts, sole_events.2 hevents⟩⟩
    refine (founded_holdings _ _).sole ?_
    rw [owners_holdings, map_owner_frontHoldings]
    exact nodup_frontOwners h houtlets

/-- What a script draws on an empty graph. -/
def drawing (m : Program) : Drawing :=
  Script.execute (script m) {}

theorem forall_drawing_iff (P : Nat → Prop) (m : Program) :
    (∀ j v, (drawing m).vertices[j]? = some v → v.label ∈ partLabels → P ((drawing m).incoming j)) ↔
      ∀ n ∈ edgeCounts [] (deeds m), P n := by
  have hempty : Drawing.Shows {} [] := ⟨List.forall_mem_nil _, fun _ => rfl⟩
  rw [← forall_incoming_iff P (tells_script m) hempty]
  exact forall₂_congr fun j v => by simp [drawing]

end Models

end Graph

/-! ## Texts that compile -/

section Passed

open Ast

variable {p : Program}

/-- The identity of an outlet names its number. -/
theorem id_mem_identityNames (h : p.Passes) {o : Outlet} (ho : o ∈ p.outlets) :
    "id" ∈ (identities o.blocks).flatMap Identity.names := by
  obtain ⟨f, hf, ho⟩ := List.mem_flatMap.1 ho
  obtain ⟨member, hmember, hof⟩ := List.mem_filterMap.1 ho
  cases member <;> cases hof
  have hissue := fun i => mem_ruleIssues_of_member hf hmember (i := i)
  rw [FamilyMember.check, Outlet.check, checkBlocks] at hissue
  have hblock := fun i hi => hissue i (List.mem_append_left _ (List.mem_append_left _ hi))
  have hidentity := fun i hi => hissue i (List.mem_append_right _ (List.mem_append_left _ hi))
  cases hidentities : identities o.blocks with
  | nil =>
    rw [hidentities] at hblock
    have hsome : false = true := kept_of_passed h hblock rfl
    cases hsome
  | cons first others =>
    rw [hidentities] at hidentity
    have hid := fun i hi => hidentity i (List.mem_append_left _ hi)
    exact List.contains_iff_mem.1 (kept_of_passed h hid rfl)

/-- An outlet with an identity has a part. -/
theorem parts_outletHolding_ne_nil (h : p.Passes) {o : Outlet} (ho : o ∈ p.outlets) :
    (Graph.outletHolding o.lower).parts ≠ [] := by
  obtain ⟨b, hb, hid⟩ := List.mem_flatMap.1 (id_mem_identityNames h ho)
  obtain ⟨block, hblock, hof⟩ := List.mem_filterMap.1 hb
  cases block <;> cases hof
  obtain ⟨field, hfield, hname⟩ := List.mem_filterMap.1 hid
  have hlower : ∃ a, field.lower? = some a := by
    cases field with
    | assignment | array => exact ⟨_, rfl⟩
    | comment => cases hname
  obtain ⟨a, ha⟩ := hlower
  have hfields : a ∈ b.fields.filterMap IdentityField.lower? := List.mem_filterMap.2 ⟨field, hfield, ha⟩
  have hmem : Graph.Part.identity (Graph.outletId o.lower) a.name ∈ (Graph.outletHolding o.lower).parts :=
    List.mem_flatMap.2 ⟨_, List.mem_filterMap.2 ⟨_, hblock, rfl⟩, List.mem_map_of_mem hfields⟩
  exact List.ne_nil_of_mem hmem

theorem grounded_of_passes (h : p.Passes) : Graph.Grounded p.toModel where
  vocabularies := by
    show ((p.vocabularies.map Vocabulary.lower).map Model.Vocabulary.name).Nodup
    rw [List.map_map]
    exact nodup_vocabularyNames h
  templates := by
    show ((p.templates.map Template.lower).map Model.Template.name).Nodup
    rw [List.map_map]
    exact nodup_templateNames h
  data := (closed_of_passes h).data
  outlets := by
    rw [p.outlets_toModel]
    exact List.forall_mem_map.2 fun o ho => parts_outletHolding_ne_nil h ho

/-- A text whose program passes and has a model compiles to the script of the model. -/
theorem compile_graph_of_passed {source : String} {v : Verdict} (hp : parse source = .ok p) (hv : p.validate = .ok v)
    (hpassed : v.passed = true) (hm : p.lower = .ok p.toModel) :
    compile source "cypher" = .ok (Graph.Script.render (Graph.script p.toModel)) := by
  change compile source Target.graph.name = _
  exact compile_eq_ok_iff.2 ⟨p, v, hp, hv, hpassed, hm, Target.text_graph _⟩

end Passed

/-- The text of the script of a program draws what the script draws, if its comments end with their lines. -/
theorem run_graphScript {source : String} {p : Ast.Program} (hp : parse source = .ok p)
    (h : ∀ s ∈ Graph.shownTexts p.toModel, OneLine s) :
    Graph.run (Graph.Script.render (Graph.script p.toModel)) {} = some (Graph.drawing p.toModel) :=
  Graph.run_render (isSound_graphScript hp h) {}

/-- The script that a text compiles to draws every part with an edge of ownership that leads to it. Only one leads to
each of them exactly if the model keeps its parts apart. -/
theorem parts_owned {source text : String} (h : compile source "cypher" = .ok text) :
    ∃ p m, parse source = .ok p ∧ p.lower = .ok m ∧ text = Graph.Script.render (Graph.script m) ∧
      ((∀ s ∈ Graph.shownTexts m, OneLine s) → Graph.run text {} = some (Graph.drawing m)) ∧
      (∀ j v, (Graph.drawing m).vertices[j]? = some v → v.label ∈ Graph.partLabels →
        1 ≤ (Graph.drawing m).incoming j) ∧
      ((∀ j v, (Graph.drawing m).vertices[j]? = some v → v.label ∈ Graph.partLabels →
        (Graph.drawing m).incoming j = 1) ↔ Graph.Distinct m) := by
  have hcompile : compile source Target.graph.name = .ok text := h
  obtain ⟨p, v, hp, hv, hpassed, hm, htext⟩ := compile_eq_ok_iff.1 hcompile
  have hgrounded : Graph.Grounded p.toModel := grounded_of_passes (passes_of_validate hv hpassed)
  rw [Target.text_graph] at htext
  have hrender : text = Graph.Script.render (Graph.script p.toModel) := (Except.ok.inj htext).symm
  refine ⟨p, p.toModel, hp, hm, hrender, ?_, ?_, ?_⟩
  · rw [hrender]
    exact run_graphScript hp
  · exact (Graph.forall_drawing_iff (1 ≤ ·) p.toModel).2 (Graph.edgeCounts_pos (Graph.founded_deeds hgrounded))
  · rw [Graph.forall_drawing_iff (· = 1)]
    exact Graph.edgeCounts_deeds_iff hgrounded

/-- An outlet with the same field as its template, and the same figure in two years. -/
def ownedSource : String :=
  "TEMPLATE \"T\" \x7bmetadata \x7bc = 1\x7d\x7d "
    ++ "FAMILY \"F\" \x7bOUTLET \"A\" \x7bidentity \x7bid = 1\x7d metadata \x7bc = 1\x7d\x7d "
    ++ "DATA FOR 1 \x7bYEAR 1 \x7bmetrics \x7br = \x7b\x7d\x7d\x7d YEAR 2 \x7bmetrics \x7br = \x7b\x7d\x7d\x7d\x7d\x7d"

/-- Data that give a year twice. -/
def twiceSource : String :=
  "FAMILY \"F\" \x7b OUTLET \"A\" \x7b identity \x7b id = 1; \x7d; \x7d; "
    ++ "DATA FOR 1 \x7b YEAR 2020 \x7b \x7d; YEAR 2020 \x7b \x7d; \x7d; \x7d"

/-- The programs of the two texts pass, and their comments end with their lines. The first has seven parts and keeps
them apart; the node of a year that the script of the second draws has two edges. -/
theorem drawn_of_sources :
    ((parse ownedSource).toOption.map fun p =>
      ((Validator.integers p ++ p.integers).all Number.isFinite, (Validator.run {} p).verdict.passed,
        ((Graph.parts p.toModel).length,
          decide ((∀ s ∈ Graph.shownTexts p.toModel, OneLine s) ∧ Graph.Distinct p.toModel)))) =
      some (true, true, (7, true)) ∧
    ((parse twiceSource).toOption.map fun p =>
      ((Validator.integers p ++ p.integers).all Number.isFinite, (Validator.run {} p).verdict.passed,
        ((Graph.drawing p.toModel).vertices[3]?.map Graph.Vertex.label,
          decide ((∀ s ∈ Graph.shownTexts p.toModel, OneLine s) ∧ (Graph.drawing p.toModel).incoming 3 = 2)))) =
      some (true, true, (some "MarketData", true)) := by
  have hfirst : ownedSource.toList = _ :=
    toList_append_of (toList_append_of String.toList_ofList String.toList_ofList) String.toList_ofList
  have hsecond : twiceSource.toList = _ := toList_append_of String.toList_ofList String.toList_ofList
  rw [parse_of_toList hfirst, parse_of_toList hsecond]
  decide +kernel

/-- Each of the parts has one owner. -/
theorem parts_owned_ownedSource :
    ∃ text p m, compile ownedSource "cypher" = .ok text ∧ parse ownedSource = .ok p ∧ p.lower = .ok m ∧
      text = Graph.Script.render (Graph.script m) ∧ (Graph.parts m).length = 7 ∧
      Graph.run text {} = some (Graph.drawing m) ∧
      ∀ j v, (Graph.drawing m).vertices[j]? = some v → v.label ∈ Graph.partLabels →
        (Graph.drawing m).incoming j = 1 := by
  obtain ⟨p, v, hp, hv, hpassed, hm, hsaid⟩ := exists_model_of_source drawn_of_sources.1
  obtain ⟨hlength, hdecide⟩ := Prod.mk.inj hsaid
  obtain ⟨hshown, hdistinct⟩ := of_decide_eq_true hdecide
  have hcompile := compile_graph_of_passed hp hv hpassed hm
  obtain ⟨p', m, hp', hm', htext, hrun, -, hone⟩ := parts_owned hcompile
  obtain rfl : p = p' := Except.ok.inj (hp.symm.trans hp')
  obtain rfl : p.toModel = m := Except.ok.inj (hm.symm.trans hm')
  exact ⟨_, p, _, hcompile, hp, hm, rfl, hlength, hrun hshown, hone.2 hdistinct⟩

/-- Not every part that the text of a script draws has one owner. -/
theorem not_parts_owned_once :
    ¬∀ source text g, compile source "cypher" = .ok text → Graph.run text {} = some g →
      ∀ j v, g.vertices[j]? = some v → v.label ∈ Graph.partLabels → g.incoming j = 1 := by
  intro hone
  obtain ⟨p, v, hp, hv, hpassed, hm, hsaid⟩ := exists_model_of_source drawn_of_sources.2
  obtain ⟨hlabel, hdecide⟩ := Prod.mk.inj hsaid
  obtain ⟨hshown, htwo⟩ := of_decide_eq_true hdecide
  obtain ⟨w, hw, hlabel⟩ := Option.map_eq_some_iff.1 hlabel
  have hcompile := compile_graph_of_passed hp hv hpassed hm
  have hincoming := hone _ _ _ hcompile (run_graphScript hp hshown) 3 w hw (by rw [hlabel]; decide)
  rw [htwo] at hincoming
  cases hincoming

end MediaLanguage
