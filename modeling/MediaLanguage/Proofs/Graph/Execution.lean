import Mathlib
import MediaLanguage.Proofs.Graph.Reader

/-!
# What commands draw

A drawing has nodes, and edges between them. A command adds a node, or finds the nodes that match two patterns and adds
an edge for every pair of them. Nodes and edges are only added, so a node keeps its place. The text of a script draws
what is read in it.

* `incoming_connect`: a command that draws edges of ownership adds one to each node that its second pattern matches for
  every node that its first pattern matches.
* `incoming_connect_of_not`: other edges do not count.
* `run_render`: the text of a script draws what the script draws.
-/

namespace MediaLanguage.Graph

/-- A node that is drawn. -/
structure Vertex where
  label : String
  cells : List (String × Cell)

/-- An edge that is drawn, between nodes by their places. -/
structure Arrow where
  source : Nat
  type : String
  cells : List (String × Cell)
  target : Nat

/-- Nodes and edges. -/
structure Drawing where
  vertices : List Vertex := []
  arrows : List Arrow := []

/-- The node that is drawn. -/
def Sketch.vertex (n : Sketch) : Vertex :=
  ⟨n.label, n.cells⟩

/-- Whether a node has the label and the properties of a pattern; a missing value is equal to none. -/
def Sketch.fits (pattern : Sketch) (v : Vertex) : Bool :=
  pattern.label == v.label &&
    pattern.cells.all fun (name, value) => value != .missing && v.cells.lookup name == some value

/-- The edge of a command between the nodes at two places, which the patterns with the binders `first` and another have
found. -/
def Stroke.arrow (e : Stroke) (first : String) (i j : Nat) : Arrow where
  source := if e.source = first then i else j
  type := e.type
  cells := e.cells
  target := if e.target = first then i else j

/-- The places of the nodes that a pattern matches. -/
def Drawing.found (g : Drawing) (pattern : Sketch) : List Nat :=
  (g.vertices.zipIdx.filter fun v => pattern.fits v.1).map Prod.snd

/-- The drawing after what a command asks for. -/
def Action.execute (g : Drawing) : Action → Drawing
  | .prepare => g
  | .create n => { g with vertices := g.vertices ++ [n.vertex] }
  | .connect first second edge =>
    { g with
      arrows := g.arrows ++ (g.found first).flatMap fun i => (g.found second).map fun j => edge.arrow first.binder i j }

/-- The drawing after the text of a script, if it can be read. -/
def run (text : String) (g : Drawing) : Option Drawing :=
  (readActions text).map fun actions => actions.foldl Action.execute g

/-! ## Commands -/

/-- The node that a command creates. -/
def Node.vertex (n : Node) : Vertex :=
  n.sketch.vertex

/-- Whether a node has the label and the properties of a pattern. -/
def Node.fits (pattern : Node) (v : Vertex) : Bool :=
  pattern.sketch.fits v

/-- The drawing after a command. Comments and blank lines draw nothing. -/
def Command.execute (g : Drawing) (c : Command) : Drawing :=
  (c.action?.map (Action.execute g)).getD g

/-- The drawing after a script. -/
def Script.execute (s : Script) (g : Drawing) : Drawing :=
  s.foldl Command.execute g

/-- Whether an edge is one of ownership. -/
def owns (type : String) : Bool :=
  "HAS_".toList.isPrefixOf type.toList

/-- How many edges of ownership lead to a node. -/
def Drawing.incoming (g : Drawing) (j : Nat) : Nat :=
  g.arrows.countP fun a => owns a.type && a.target == j

/-- The edges lead to nodes that are there. -/
def Drawing.Sound (g : Drawing) : Prop :=
  ∀ a ∈ g.arrows, a.target < g.vertices.length

section Drawings

variable {g : Drawing} {s t : Script} {c : Command} {n first second : Node} {e : Edge} {j : Nat} {v : Vertex}

@[simp] theorem execute_nil : Script.execute [] g = g := rfl

@[simp] theorem execute_cons : Script.execute (c :: s) g = Script.execute s (c.execute g) := rfl

theorem execute_append : Script.execute (s ++ t) g = Script.execute t (Script.execute s g) :=
  List.foldl_append

/-- The text of a script draws what the script draws. -/
theorem run_render (h : ∀ c ∈ s, c.IsSound) (g : Drawing) : run (Script.render s) g = some (Script.execute s g) := by
  rw [run, readActions_render h, Option.map_some, Script.execute, Option.some.injEq]
  clear h
  induction s generalizing g with
  | nil => rfl
  | cons c s ih =>
    rw [List.foldl_cons, ← ih, Command.execute]
    cases hc : c.action? <;> simp [hc]

/-! ## Nodes that are found -/

theorem Node.label_of_fits {pattern : Node} (h : pattern.fits v) : pattern.label = v.label := by
  rw [fits, Sketch.fits, Bool.and_eq_true, beq_iff_eq] at h
  exact h.1

theorem length_found (g : Drawing) (pattern : Node) :
    (g.found pattern.sketch).length = g.vertices.countP pattern.fits := by
  have hvertices : g.vertices.zipIdx.map Prod.fst = g.vertices := List.zipIdx_map_fst 0 g.vertices
  rw [Drawing.found, List.length_map, ← List.countP_eq_length_filter]
  conv_rhs => rw [← hvertices, List.countP_map]
  rfl

theorem mem_found {pattern : Sketch} : j ∈ g.found pattern ↔ ∃ v, g.vertices[j]? = some v ∧ pattern.fits v := by
  unfold Drawing.found
  constructor
  · intro h
    obtain ⟨⟨v, _⟩, hv, rfl⟩ := List.mem_map.1 h
    obtain ⟨hmem, hfits⟩ := List.mem_filter.1 hv
    exact ⟨v, List.mem_zipIdx_iff_getElem?.1 hmem, hfits⟩
  · rintro ⟨v, hv, hfits⟩
    exact List.mem_map.2 ⟨(v, j), List.mem_filter.2 ⟨List.mem_zipIdx_iff_getElem?.2 hv, hfits⟩, rfl⟩

theorem nodup_found (pattern : Sketch) : (g.found pattern).Nodup := by
  have hplaces : (g.vertices.zipIdx.map Prod.snd).Nodup := by
    rw [List.zipIdx_map_snd]
    exact List.nodup_range'
  exact hplaces.sublist (List.filter_sublist.map _)

/-- A node is found once, if the pattern matches it. -/
theorem count_found {pattern : Sketch} (hv : g.vertices[j]? = some v) :
    (g.found pattern).count j = if pattern.fits v then 1 else 0 := by
  by_cases hfits : pattern.fits v
  · rw [if_pos hfits]
    exact List.count_eq_one_of_mem (nodup_found pattern) (mem_found.2 ⟨v, hv, hfits⟩)
  · rw [if_neg hfits, List.count_eq_zero]
    intro hmem
    obtain ⟨w, hw, hfits'⟩ := mem_found.1 hmem
    rw [hv] at hw
    obtain rfl := Option.some.inj hw
    exact hfits hfits'

/-! ## Edges that are added -/

/-- The edges that a command adds. -/
theorem incoming_execute_connect :
    ((Command.connect first second e).execute g).incoming j =
      g.incoming j + ((g.found first.sketch).map fun i => (g.found second.sketch).countP fun k =>
        owns e.type && (if e.target = first.binder then i else k) == j).sum := by
  show (g.arrows ++ _).countP _ = g.incoming j + _
  rw [List.countP_append, List.countP_flatMap]
  congr 2
  refine List.map_congr_left fun i _ => ?_
  rw [Function.comp_apply, List.countP_map]
  rfl

/-- Edges of ownership that go to what the second pattern finds. -/
theorem incoming_connect (howns : owns e.type) (htarget : e.target ≠ first.binder) (hv : g.vertices[j]? = some v) :
    ((Command.connect first second e).execute g).incoming j =
      g.incoming j + if second.fits v then g.vertices.countP first.fits else 0 := by
  have hcount : (g.found second.sketch).countP (fun k => owns e.type && k == j) = if second.fits v then 1 else 0 := by
    simp only [howns, Bool.true_and]
    exact count_found hv
  simp only [incoming_execute_connect, if_neg htarget, hcount]
  rw [List.map_const', List.sum_replicate, length_found]
  by_cases hfits : second.fits v <;> simp [hfits]

/-- Other edges, and edges of ownership that go elsewhere. -/
theorem incoming_connect_of_not (h : owns e.type → e.target ≠ first.binder ∧ ¬second.fits v)
    (hv : g.vertices[j]? = some v) : ((Command.connect first second e).execute g).incoming j = g.incoming j := by
  by_cases howns : owns e.type
  · obtain ⟨htarget, hfits⟩ := h howns
    rw [incoming_connect howns htarget hv, if_neg hfits, Nat.add_zero]
  · rw [incoming_execute_connect]
    simp [howns]

/-- Edges lead to nodes that are there. -/
theorem Drawing.Sound.execute (h : g.Sound) (c : Command) : (c.execute g).Sound := by
  cases c with
  | comment | blank | unique | index => exact h
  | create n =>
    intro a ha
    have hlt := h a ha
    show a.target < (g.vertices ++ [n.vertex]).length
    rw [List.length_append]
    omega
  | connect first second e =>
    have hplace : ∀ pattern : Sketch, ∀ k ∈ g.found pattern, k < g.vertices.length := by
      intro pattern k hk
      obtain ⟨v, hv, -⟩ := mem_found.1 hk
      exact (List.getElem?_eq_some_iff.1 hv).1
    intro a ha
    rcases List.mem_append.1 ha with ha | ha
    · exact h a ha
    · obtain ⟨i, hi, ha⟩ := List.mem_flatMap.1 ha
      obtain ⟨k, hk, rfl⟩ := List.mem_map.1 ha
      show (if e.target = first.binder then i else k) < g.vertices.length
      split
      · exact hplace first.sketch i hi
      · exact hplace second.sketch k hk

/-- No edge leads to a node that is not there yet. -/
theorem Drawing.Sound.incoming_length (h : g.Sound) : g.incoming g.vertices.length = 0 := by
  rw [Drawing.incoming, List.countP_eq_zero]
  intro a ha
  have hlt := h a ha
  simp [Nat.ne_of_lt hlt]

/-- A node that is created has the next place. -/
theorem getElem?_create : ((Command.create n).execute g).vertices[g.vertices.length]? = some n.vertex := by
  show (g.vertices ++ [n.vertex])[g.vertices.length]? = _
  rw [List.getElem?_append_right (Nat.le_refl _), Nat.sub_self]
  rfl

/-- A node keeps its place. -/
theorem getElem?_execute (hv : g.vertices[j]? = some v) (c : Command) : (c.execute g).vertices[j]? = some v := by
  cases c with
  | comment | blank | unique | index | connect => exact hv
  | create n =>
    show (g.vertices ++ [n.vertex])[j]? = some v
    rw [List.getElem?_append_left (List.getElem?_eq_some_iff.1 hv).1, hv]

theorem getElem?_executeAll (hv : g.vertices[j]? = some v) (s : Script) :
    (Script.execute s g).vertices[j]? = some v := by
  induction s generalizing g with
  | nil => exact hv
  | cons c s ih => exact ih (getElem?_execute hv c)

end Drawings

end MediaLanguage.Graph
