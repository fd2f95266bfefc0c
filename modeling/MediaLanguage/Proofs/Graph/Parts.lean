import MediaLanguage.Graph.Script
import MediaLanguage.Proofs.Graph.Execution

/-!
# Parts and their owners

A script draws a part of something else in two commands: one creates the part, the next finds the part and its owner
again by their keys and draws an edge between them. What counts for these edges is told by a list of deeds, which says
in which order owners and parts are drawn (`Tells`).

* `incoming_of_tells`: how many edges of ownership a script adds to a part that is there.
* `forall_incoming_iff`: how many each part has that the script itself draws. An edge is added for every owner with the
  right key that is there, when the part is drawn and whenever a part with the same key is drawn behind it
  (`edgeCounts`).
-/

namespace MediaLanguage.Graph

/-! ## Keys -/

/-- Something that has parts, with what it is found by. -/
inductive Owner where
  | vocabulary (name : String)
  | template (name : String)
  | outlet (id : Int)
  | year (outlet year : Int)
  | event (name : String)
deriving DecidableEq

/-- A part of something else, with what it is found by. -/
inductive Part where
  | entry (vocabulary key : String)
  | templateCharacteristic (template name : String)
  | templateMetadata (template name : String)
  | identity (outlet : Int) (name : String)
  | characteristic (outlet : Int) (name : String)
  | metadata (outlet : Int) (name : String)
  | status (outlet : Int) (status : String)
  | aggregation (outlet : Int) (name : String)
  | year (outlet year : Int)
  | metric (outlet year : Int) (name : String)
  | entity (event name : String)
  | impact (event name : String)
  | eventMetadata (event name : String)
deriving DecidableEq

namespace Owner

/-- The label of the nodes of an owner. -/
def label : Owner → String
  | .vocabulary _ => "Vocabulary"
  | .template _ => "Template"
  | .outlet _ => "Outlet"
  | .year .. => "MarketData"
  | .event _ => "Event"

/-- The properties by which an owner is found. -/
def key : Owner → Properties
  | .vocabulary name | .template name | .event name => [("name", .text name)]
  | .outlet id => [("id", .integer id)]
  | .year id y => yearKey id y

/-- The pattern that finds an owner. -/
def pattern (o : Owner) (binder : String) : Node :=
  ⟨binder, o.label, o.key⟩

end Owner

namespace Part

/-- The label of the nodes of a part. -/
def label : Part → String
  | .entry .. => "VocabularyEntry"
  | .templateCharacteristic .. | .characteristic .. => "Characteristic"
  | .templateMetadata .. | .metadata .. => "Metadata"
  | .identity .. => "Identity"
  | .status .. => "Lifecycle"
  | .aggregation .. => "DataAggregation"
  | .year .. => "MarketData"
  | .metric .. => "Metric"
  | .entity .. => "EventEntity"
  | .impact .. => "EventImpact"
  | .eventMetadata .. => "EventMetadata"

/-- The properties by which a part is found. -/
def key : Part → Properties
  | .entry v k => [("key", .text k), ("vocab_name", .text v)]
  | .templateCharacteristic t name | .templateMetadata t name => [("name", .text name), ("template_name", .text t)]
  | .identity id name | .characteristic id name | .metadata id name =>
    [("outlet_id", .integer id), ("name", .text name)]
  | .status id name => [("outlet_id", .integer id), ("status", .text name)]
  | .aggregation id name => [("name", .text name), ("outlet_id", .integer id)]
  | .year id y => yearKey id y
  | .metric id y name => ("name", .text name) :: yearKey id y
  | .entity e name | .impact e name | .eventMetadata e name => [("name", .text name), ("event_name", .text e)]

/-- What a part is a part of. -/
def owner : Part → Owner
  | .entry v _ => .vocabulary v
  | .templateCharacteristic t _ | .templateMetadata t _ => .template t
  | .identity id _ | .characteristic id _ | .metadata id _ | .status id _ | .aggregation id _ | .year id _ => .outlet id
  | .metric id y _ => .year id y
  | .entity e _ | .impact e _ | .eventMetadata e _ => .event e

/-- The owner that a part is itself: the data of a year have figures. -/
def asOwner? : Part → Option Owner
  | .year id y => some (.year id y)
  | _ => none

/-- The pattern that finds a part. -/
def pattern (q : Part) (binder : String) : Node :=
  ⟨binder, q.label, q.key⟩

theorem asOwner?_ne (q : Part) : q.asOwner? ≠ some q.owner := by
  cases q <;> simp [asOwner?, owner]

end Part

/-- The labels of parts. -/
def partLabels : List String :=
  ["Identity", "Lifecycle", "Characteristic", "Metadata", "VocabularyEntry", "DataAggregation", "MarketData", "Metric",
    "EventEntity", "EventImpact", "EventMetadata"]

theorem Part.label_mem (q : Part) : q.label ∈ partLabels := by
  cases q <;> simp [Part.label, partLabels]

/-- A node that the pattern of one part finds, or of none, and the pattern of one owner, or of none. -/
structure Node.Marks (n : Node) (part? : Option Part) (owner? : Option Owner) : Prop where
  part : ∀ q, (q.pattern "").fits n.vertex ↔ part? = some q
  owner : ∀ o, (o.pattern "").fits n.vertex ↔ owner? = some o

/-! ## What a script tells -/

/-- Something that a script does: it draws an owner, or a part with its edge. -/
inductive Deed where
  | owner (o : Owner)
  | part (q : Part)

/-- The deeds of a script. -/
inductive Tells : Script → List Deed → Prop
  | nil : Tells [] []
  /-- A command that draws nothing. -/
  | remark {c : Command} {s : Script} {deeds : List Deed} :
      (∀ g, c.execute g = g) → Tells s deeds → Tells (c :: s) deeds
  /-- Edges that are not of ownership, or do not lead to parts. -/
  | connect {first second : Node} {e : Edge} {s : Script} {deeds : List Deed} :
      (owns e.type → e.target ≠ first.binder ∧ second.label ∉ partLabels) → Tells s deeds →
      Tells (.connect first second e :: s) deeds
  /-- A node that is no part, and may be an owner. -/
  | create {n : Node} {o? : Option Owner} {s : Script} {deeds : List Deed} :
      n.Marks none o? → n.label ∉ partLabels → Tells s deeds →
      Tells (.create n :: s) (o?.toList.map Deed.owner ++ deeds)
  /-- A part, and its edge. -/
  | part {q : Part} {binder edge : String} {child : Node} {s : Script} {deeds : List Deed} :
      child.Marks (some q) q.asOwner? → child.label = q.label → child.binder ≠ binder → owns edge → Tells s deeds →
      Tells (childCommands (q.owner.pattern binder) child q.key edge ++ s) (.part q :: deeds)

section Tales

variable {s t : Script} {deeds more : List Deed}

theorem Tells.append (hs : Tells s deeds) (ht : Tells t more) : Tells (s ++ t) (deeds ++ more) := by
  induction hs with
  | nil => exact ht
  | remark hc _ ih => exact .remark hc ih
  | connect hc _ ih => exact .connect hc ih
  | create hn hlabel _ ih =>
    rw [List.append_assoc]
    exact .create hn hlabel ih
  | part hchild hlabel hbinder howns _ ih =>
    rw [List.append_assoc]
    exact .part hchild hlabel hbinder howns ih

theorem Tells.flatMap {α : Type} {l : List α} {f : α → Script} {d : α → List Deed} (h : ∀ x ∈ l, Tells (f x) (d x)) :
    Tells (l.flatMap f) (l.flatMap d) := by
  induction l with
  | nil => exact .nil
  | cons x l ih =>
    obtain ⟨hx, hl⟩ := List.forall_mem_cons.1 h
    exact hx.append (ih hl)

end Tales

/-! ## Edges that parts get -/

/-- The edges of ownership that deeds add to a part that is there, behind the owners that have been drawn: whenever a
part with the same key is drawn, one for each owner that it finds. -/
def arrivals (q : Part) : List Owner → List Deed → Nat
  | _, [] => 0
  | seen, .owner o :: deeds => arrivals q (seen ++ [o]) deeds
  | seen, .part r :: deeds => (if r = q then seen.count r.owner else 0) + arrivals q (seen ++ r.asOwner?.toList) deeds

/-- The edges of ownership of each part that is drawn. -/
def edgeCounts : List Owner → List Deed → List Nat
  | _, [] => []
  | seen, .owner o :: deeds => edgeCounts (seen ++ [o]) deeds
  | seen, .part q :: deeds =>
    (seen.count q.owner + arrivals q (seen ++ q.asOwner?.toList) deeds) :: edgeCounts (seen ++ q.asOwner?.toList) deeds

/-- A drawing that has the owners that have been drawn. -/
structure Drawing.Shows (g : Drawing) (seen : List Owner) : Prop where
  sound : g.Sound
  count : ∀ o, g.vertices.countP (Owner.pattern o "").fits = seen.count o

/-- A node that is drawn for a part. -/
def Vertex.IsPart (v : Vertex) (q : Part) : Prop :=
  ∀ r : Part, (r.pattern "").fits v ↔ q = r

/-- An owner that is drawn, if there is one. -/
theorem arrivals_owners (q : Part) (seen : List Owner) (o? : Option Owner) (deeds : List Deed) :
    arrivals q seen (o?.toList.map Deed.owner ++ deeds) = arrivals q (seen ++ o?.toList) deeds := by
  cases o? with
  | none => rw [Option.toList_none, List.map_nil, List.nil_append, List.append_nil]
  | some o => rfl

theorem edgeCounts_owners (seen : List Owner) (o? : Option Owner) (deeds : List Deed) :
    edgeCounts seen (o?.toList.map Deed.owner ++ deeds) = edgeCounts (seen ++ o?.toList) deeds := by
  cases o? with
  | none => rw [Option.toList_none, List.map_nil, List.nil_append, List.append_nil]
  | some o => rfl

section Drawings

variable {g : Drawing} {seen : List Owner} {s : Script} {deeds : List Deed} {q r : Part} {n child : Node} {j : Nat}
  {v : Vertex} {binder edge : String}

theorem Vertex.IsPart.label (h : v.IsPart q) : v.label = q.label :=
  (Node.label_of_fits ((h q).2 rfl)).symm

/-- Behind a node that is created the owner is there that it is. -/
theorem Drawing.Shows.create (h : g.Shows seen) {part? : Option Part} {o? : Option Owner} (hn : n.Marks part? o?) :
    ((Command.create n).execute g).Shows (seen ++ o?.toList) := by
  refine ⟨h.sound.execute _, fun o => ?_⟩
  show (g.vertices ++ [n.vertex]).countP _ = _
  rw [List.countP_append, List.count_append, h.count o, List.countP_singleton]
  congr 1
  by_cases hfits : (o.pattern "").fits n.vertex
  · obtain rfl := (hn.owner o).1 hfits
    simp [hfits]
  · have hne : o? ≠ some o := mt (hn.owner o).2 hfits
    rw [if_neg hfits, eq_comm, List.count_eq_zero, Option.mem_toList]
    exact hne

theorem Drawing.Shows.connect (h : g.Shows seen) (first second : Node) (e : Edge) :
    ((Command.connect first second e).execute g).Shows seen :=
  ⟨h.sound.execute _, h.count⟩

/-- The edges that the command of a part draws: to every node of the same part, from every owner. -/
theorem incoming_connect_part (h : g.Shows (seen ++ q.asOwner?.toList)) (hlabel : child.label = q.label)
    (hbinder : child.binder ≠ binder) (howns : owns edge) (hv : g.vertices[j]? = some v) (hr : v.IsPart r) :
    ((Command.connect (q.owner.pattern binder) { child with properties := q.key }
      { source := binder, type := edge, target := child.binder }).execute g).incoming j =
      g.incoming j + if q = r then seen.count q.owner else 0 := by
  have hcount : g.vertices.countP (q.owner.pattern binder).fits = seen.count q.owner := by
    have hself : q.asOwner?.toList.count q.owner = 0 := by
      rw [List.count_eq_zero, Option.mem_toList]
      exact q.asOwner?_ne
    have hshows := h.count q.owner
    rw [List.count_append, hself, Nat.add_zero] at hshows
    exact hshows
  have hfits : Node.fits { child with properties := q.key } v = (q.pattern "").fits v := by
    rw [Node.fits, Node.fits, Sketch.fits, Sketch.fits, Node.sketch, hlabel]
    rfl
  rw [incoming_connect howns hbinder hv, hcount, hfits]
  congr 1
  exact if_congr ((hr q).trans eq_comm) rfl rfl

/-- The commands of a part: what becomes of a node that is there, and of the node of the part itself. -/
theorem incoming_childCommands (h : g.Shows seen) (hchild : child.Marks (some q) q.asOwner?)
    (hlabel : child.label = q.label) (hbinder : child.binder ≠ binder) (howns : owns edge) :
    (Script.execute (childCommands (q.owner.pattern binder) child q.key edge) g).Shows (seen ++ q.asOwner?.toList) ∧
      (∀ j v, g.vertices[j]? = some v → v.IsPart r →
        (Script.execute (childCommands (q.owner.pattern binder) child q.key edge) g).incoming j =
          g.incoming j + if q = r then seen.count q.owner else 0) ∧
      (Script.execute (childCommands (q.owner.pattern binder) child q.key edge) g).incoming g.vertices.length =
        seen.count q.owner := by
  have hcreated := h.create hchild
  refine ⟨hcreated.connect _ _ _, ?_, ?_⟩
  · intro j v hv hr
    exact incoming_connect_part hcreated hlabel hbinder howns (getElem?_execute hv _) hr
  · have hv : ((Command.create child).execute g).vertices[g.vertices.length]? = some child.vertex := getElem?_create
    have hpart : child.vertex.IsPart q := fun r => by rw [hchild.part r, Option.some.injEq]
    have hincoming := incoming_connect_part hcreated hlabel hbinder howns hv hpart
    have hnone : ((Command.create child).execute g).incoming g.vertices.length = 0 := h.sound.incoming_length
    rw [hnone, Nat.zero_add, if_pos rfl] at hincoming
    exact hincoming

/-- What the deeds of a script add to a part that is there. -/
theorem incoming_of_tells (h : Tells s deeds) (hg : g.Shows seen) (hv : g.vertices[j]? = some v) (hr : v.IsPart r) :
    (Script.execute s g).incoming j = g.incoming j + arrivals r seen deeds := by
  induction h generalizing g seen with
  | nil => rfl
  | remark hc _ ih =>
    rw [execute_cons, hc]
    exact ih hg hv
  | connect hc _ ih =>
    have hnot : ∀ second : Node, second.label ∉ partLabels → ¬second.fits v := by
      intro second hlabel hfits
      exact hlabel (by rw [Node.label_of_fits hfits, hr.label]; exact r.label_mem)
    rw [execute_cons, ih (hg.connect _ _ _) (getElem?_execute hv _),
      incoming_connect_of_not (fun howns => ⟨(hc howns).1, hnot _ (hc howns).2⟩) hv]
  | create hn hlabel _ ih =>
    rw [execute_cons, ih (hg.create hn) (getElem?_execute hv _), arrivals_owners]
    rfl
  | part hchild hlabel hbinder howns _ ih =>
    obtain ⟨hshows, hold, -⟩ := incoming_childCommands (r := r) hg hchild hlabel hbinder howns
    rw [execute_append, ih hshows (getElem?_executeAll hv _), hold _ _ hv hr, arrivals, Nat.add_assoc]

/-- The edges of the parts that a script draws are those that its deeds say. -/
theorem forall_incoming_iff (P : Nat → Prop) (h : Tells s deeds) (hg : g.Shows seen) :
    (∀ j v, g.vertices.length ≤ j → (Script.execute s g).vertices[j]? = some v → v.label ∈ partLabels →
      P ((Script.execute s g).incoming j)) ↔ ∀ n ∈ edgeCounts seen deeds, P n := by
  induction h generalizing g seen with
  | nil =>
    refine iff_of_true ?_ (fun n hn => by cases hn)
    intro j v hj hv
    have hlt := (List.getElem?_eq_some_iff.1 hv).1
    exact absurd hlt (Nat.not_lt.2 hj)
  | remark hc _ ih =>
    simp only [execute_cons, hc]
    exact ih hg
  | connect hc _ ih => exact ih (hg.connect _ _ _)
  | @create n o? s deeds hn hlabel _ ih =>
    have hlength : ((Command.create n).execute g).vertices.length = g.vertices.length + 1 := List.length_append
    have hnew : ((Command.create n).execute g).vertices[g.vertices.length]? = some n.vertex := getElem?_create
    rw [edgeCounts_owners, ← ih (hg.create hn), hlength, execute_cons]
    constructor
    · intro hall j v hj
      exact hall j v (by omega)
    · intro hall j v hj hv hpart
      rcases Nat.eq_or_lt_of_le hj with rfl | hj
      · rw [getElem?_executeAll hnew] at hv
        obtain rfl := Option.some.inj hv
        exact absurd hpart hlabel
      · exact hall j v hj hv hpart
  | @part q binder edge child s deeds hchild hlabel hbinder howns htells ih =>
    obtain ⟨hshows, -, hown⟩ := incoming_childCommands (r := q) hg hchild hlabel hbinder howns
    have hlength : (Script.execute (childCommands (q.owner.pattern binder) child q.key edge) g).vertices.length =
        g.vertices.length + 1 := List.length_append
    have hnew : (Script.execute (childCommands (q.owner.pattern binder) child q.key edge) g).vertices[
        g.vertices.length]? = some child.vertex := getElem?_create
    have hpart : child.vertex.IsPart q := fun r => by rw [hchild.part r, Option.some.injEq]
    have hincoming := incoming_of_tells htells hshows hnew hpart
    rw [hown] at hincoming
    rw [edgeCounts, List.forall_mem_cons, ← ih hshows, hlength, execute_append, ← hincoming]
    constructor
    · intro hall
      refine ⟨hall _ _ (Nat.le_refl _) (getElem?_executeAll hnew _) ?_, fun j v hj => hall j v (by omega)⟩
      rw [hpart.label]
      exact q.label_mem
    · rintro ⟨hfirst, hrest⟩ j v hj hv hv'
      rcases Nat.eq_or_lt_of_le hj with rfl | hj
      · exact hfirst
      · exact hrest j v hj hv hv'

end Drawings

end MediaLanguage.Graph
