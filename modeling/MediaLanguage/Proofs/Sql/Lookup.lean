import MediaLanguage.Proofs.Model.Links
import MediaLanguage.Proofs.Outcome

/-!
# Rows that are looked up by name

The relational script refers to families, templates and links by their names: a row holds a lookup where the number of
another row belongs. `finds` lists the lookups of a script, each with the number of rows in front of it that it finds.

* `backed_script`: every lookup of a model that is closed finds a row, for each section is behind those it refers to.
* `rows_script`: how many rows there are for a name.
* `finds_eq_one_iff`: every lookup finds one row exactly if no two links have the same name.
-/

namespace MediaLanguage.Sql

open Model

/-! ## Lookups and rows -/

/-- What is looked up: the row of a table with a text in a column. -/
structure Lookup where
  table : String
  column : String
  value : String
deriving DecidableEq

/-- The lookup that a value is. -/
def Term.lookup? : Term → Option Lookup
  | .lookup table column value => some ⟨table, column, value⟩
  | _ => none

/-- The values that a clause sets. -/
def Conflict.terms : Conflict → List Term
  | .fail | .skip => []
  | .update _ changes => changes.map Prod.snd

/-- The lookups in a statement. -/
def Statement.lookups : Statement → List Lookup
  | .insert i => (i.values ++ i.conflict.terms).filterMap Term.lookup?
  | _ => []

/-- Whether a lookup finds the row that a statement inserts. -/
def Statement.carries (q : Lookup) : Statement → Bool
  | .insert i => i.table == q.table && (i.columns.zip i.values).lookup q.column == some (.text q.value)
  | _ => false

/-- The number of rows of a script that a lookup finds. -/
def Script.rows (s : Script) (q : Lookup) : Nat :=
  s.countP (Statement.carries q)

/-- The lookups of a script behind another, each with the number of rows in front of it that it finds. -/
def Script.finds (before : Script) : Script → List (Lookup × Nat)
  | [] => []
  | st :: s => st.lookups.map (fun q => (q, Script.rows before q)) ++ Script.finds (before ++ [st]) s

section Rows

variable {q : Lookup} {a b s before : Script}

@[simp] theorem rows_append : Script.rows (a ++ b) q = Script.rows a q + Script.rows b q :=
  List.countP_append

theorem rows_cons {st : Statement} :
    Script.rows (st :: s) q = (if st.carries q then 1 else 0) + Script.rows s q := by
  rw [Script.rows, List.countP_cons, Nat.add_comm]
  rfl

theorem rows_eq_zero (h : ∀ st ∈ s, st.carries q = false) : Script.rows s q = 0 := by
  rw [Script.rows, List.countP_eq_zero]
  intro st hst
  rw [h st hst]
  exact Bool.false_ne_true

/-- The rows of parts each of which has one row to find or none. -/
theorem rows_flatMap {α : Type} {part : α → Script} {found : α → Bool}
    (h : ∀ x, Script.rows (part x) q = if found x then 1 else 0) (xs : List α) :
    Script.rows (xs.flatMap part) q = xs.countP found := by
  induction xs with
  | nil => rfl
  | cons x xs ih => rw [List.flatMap_cons, rows_append, ih, h, List.countP_cons, Nat.add_comm]

/-- A lookup of a script stands in one of its statements, and finds rows in front of it. -/
theorem mem_finds {x : Lookup × Nat} : x ∈ Script.finds before s ↔
    ∃ l st r, s = l ++ st :: r ∧ x.1 ∈ st.lookups ∧ x.2 = Script.rows (before ++ l) x.1 := by
  induction s generalizing before with
  | nil => simp [Script.finds]
  | cons first s ih =>
    rw [Script.finds, List.mem_append, List.mem_map, ih]
    constructor
    · rintro (⟨q, hq, rfl⟩ | ⟨l, st, r, rfl, hlookup, hrows⟩)
      · exact ⟨[], first, s, rfl, hq, by rw [List.append_nil]⟩
      · refine ⟨first :: l, st, r, rfl, hlookup, ?_⟩
        rw [hrows, List.append_assoc]
        rfl
    · rintro ⟨l, st, r, hsplit, hlookup, hrows⟩
      cases l with
      | nil =>
        obtain ⟨rfl, -⟩ := List.cons.inj hsplit
        rw [List.append_nil] at hrows
        exact .inl ⟨x.1, hlookup, Prod.ext rfl hrows.symm⟩
      | cons head l =>
        obtain ⟨rfl, htail⟩ := List.cons.inj hsplit
        refine .inr ⟨l, st, r, htail, hlookup, ?_⟩
        rw [hrows, List.append_assoc]
        rfl

theorem finds_append : Script.finds before (a ++ b) = Script.finds before a ++ Script.finds (before ++ a) b := by
  induction a generalizing before with
  | nil => rw [List.nil_append, List.append_nil]; rfl
  | cons st a ih => rw [List.cons_append, Script.finds, Script.finds, ih, List.append_assoc, List.append_assoc]; rfl

/-- A lookup finds at most the rows that there are. -/
theorem le_rows_of_mem_finds {x : Lookup × Nat} (h : x ∈ Script.finds before s) :
    x.2 ≤ Script.rows (before ++ s) x.1 := by
  obtain ⟨l, st, r, rfl, -, hrows⟩ := mem_finds.1 h
  rw [hrows, ← List.append_assoc, rows_append (a := before ++ l)]
  exact Nat.le_add_right ..

end Rows

/-! ## Lookups that find a row -/

/-- The lookup of a family. -/
def familyLookup (name : String) : Lookup := ⟨"families", "name", name⟩

/-- The lookup of a template. -/
def templateLookup (name : String) : Lookup := ⟨"templates", "name", name⟩

/-- The lookup of a link. -/
def linkLookup (name : String) : Lookup := ⟨"relationships", "relationship_name", name⟩

/-- The lookups by name. -/
inductive ByName : Lookup → Prop
  | family (name : String) : ByName (familyLookup name)
  | template (name : String) : ByName (templateLookup name)
  | link (name : String) : ByName (linkLookup name)

/-- Every lookup of a script behind another is by name and finds a row. -/
def Backed (before s : Script) : Prop :=
  ∀ x ∈ Script.finds before s, ByName x.1 ∧ 1 ≤ x.2

section Backed

variable {a b s before : Script}

theorem backed_append (h : Backed before a) (h' : Backed (before ++ a) b) : Backed before (a ++ b) := by
  rw [Backed, finds_append, List.forall_mem_append]
  exact ⟨h, h'⟩

/-- Rows in front of a script back all that it looks up. -/
theorem backed_of_rows (h : ∀ st ∈ s, ∀ q ∈ st.lookups, ByName q ∧ 1 ≤ Script.rows before q) : Backed before s := by
  intro x hx
  obtain ⟨l, st, r, rfl, hlookup, hrows⟩ := mem_finds.1 hx
  obtain ⟨hname, hbefore⟩ := h st (List.mem_append_right _ List.mem_cons_self) x.1 hlookup
  refine ⟨hname, ?_⟩
  rw [hrows, rows_append]
  omega

/-- A script without lookups. -/
theorem backed_of_silent (h : ∀ st ∈ s, st.lookups = []) : Backed before s := by
  refine backed_of_rows fun st hst q hq => ?_
  rw [h st hst] at hq
  cases hq

/-- A script in parts, each of which is backed behind all that is in front of the first. -/
theorem backed_flatMap {α : Type} {part : α → Script} {xs : List α} {base : Script}
    (h : ∀ x ∈ xs, ∀ more, Backed (base ++ more) (part x)) (more : Script) :
    Backed (base ++ more) (xs.flatMap part) := by
  induction xs generalizing more with
  | nil => exact List.forall_mem_nil _
  | cons x xs ih =>
    obtain ⟨hfirst, hrest⟩ := List.forall_mem_cons.1 h
    rw [List.flatMap_cons]
    refine backed_append (hfirst more) ?_
    rw [List.append_assoc]
    exact ih hrest (more ++ part x)

end Backed

/-! ## Statements without names -/

/-- A statement that looks nothing up and gives no row a name. -/
def Statement.Nameless (st : Statement) : Prop :=
  st.lookups = [] ∧ ∀ q, ByName q → st.carries q = false

section Nameless

@[simp] theorem nameless_comment (text : String) : (Statement.comment text).Nameless := ⟨rfl, fun _ _ => rfl⟩

@[simp] theorem nameless_blank : Statement.blank.Nameless := ⟨rfl, fun _ _ => rfl⟩

@[simp] theorem nameless_createTable (onlyIfMissing : Bool) (table : Table) :
    (Statement.createTable onlyIfMissing table).Nameless := ⟨rfl, fun _ _ => rfl⟩

variable {table : String} {columns : List String} {values : List Term}

/-- The tables whose rows have names. -/
def namedTables : List String := ["families", "templates", "relationships"]

/-- A row of another table is not looked up by name. -/
theorem carries_of_notMem (h : table ∉ namedTables) {q : Lookup} (hq : ByName q) :
    (Statement.row table columns values).carries q = false := by
  have htable : table ≠ q.table := by
    rintro rfl
    cases hq <;> exact h (by simp [namedTables, familyLookup, templateLookup, linkLookup])
  simp [Statement.row, Statement.carries, htable]

/-- A row of another table, without lookups. -/
theorem nameless_row (h : table ∉ namedTables) (hvalues : ∀ v ∈ values, v.lookup? = none) :
    (Statement.row table columns values).Nameless := by
  refine ⟨?_, fun q hq => carries_of_notMem h hq⟩
  simpa [Statement.row, Statement.lookups, Conflict.terms, List.filterMap_eq_nil_iff] using hvalues

/-- A script of such statements. -/
def Script.Nameless (s : Script) : Prop :=
  ∀ st ∈ s, st.Nameless

variable {α : Type} {st : Statement} {a b s : Script} {xs : List α}

@[simp] theorem nameless_nil : Script.Nameless [] :=
  List.forall_mem_nil _

@[simp] theorem nameless_cons : Script.Nameless (st :: s) ↔ st.Nameless ∧ Script.Nameless s :=
  List.forall_mem_cons

@[simp] theorem nameless_append : Script.Nameless (a ++ b) ↔ Script.Nameless a ∧ Script.Nameless b :=
  List.forall_mem_append

@[simp] theorem nameless_flatMap {part : α → Script} :
    Script.Nameless (xs.flatMap part) ↔ ∀ x ∈ xs, Script.Nameless (part x) :=
  List.forall_mem_flatMap

@[simp] theorem nameless_map {row : α → Statement} : Script.Nameless (xs.map row) ↔ ∀ x ∈ xs, (row x).Nameless :=
  List.forall_mem_map

end Nameless

/-- Missing values are no lookups. -/
@[simp] theorem lookup?_optional (x : Option String) : (Term.optional x).lookup? = none := by
  cases x <;> rfl

@[simp] theorem lookup?_optionalInteger (x : Option Int) : (Term.optionalInteger x).lookup? = none := by
  cases x <;> rfl

@[simp] theorem lookup?_optionalNumber (x : Option Number) : (Term.optionalNumber x).lookup? = none := by
  cases x <;> rfl

@[simp] theorem lookup?_lookup (table column value : String) :
    (Term.lookup table column value).lookup? = some ⟨table, column, value⟩ := rfl

@[simp] theorem lookup?_text (x : String) : (Term.text x).lookup? = none := rfl

@[simp] theorem lookup?_integer (x : Int) : (Term.integer x).lookup? = none := rfl

@[simp] theorem lookup?_number (x : Number) : (Term.number x).lookup? = none := rfl

@[simp] theorem lookup?_ofValue (v : Value) : (Term.ofValue v).lookup? = none := rfl

/-- The script up to the templates. -/
def openingScript (p : Program) : Script :=
  headerScript ++ importScript p.imports ++ variableScript p.bindings ++ coreSchema
    ++ p.units.flatMap unitScript ++ p.vocabularies.flatMap vocabularyScript

theorem script_eq (p : Program) : script p =
    openingScript p ++ p.templates.flatMap templateScript ++ p.families.flatMap familyScript ++ linkScript p
      ++ (dataScript p ++ eventScript p) := by
  simp [script, openingScript]

/-- The rows of vocabularies have no column for a name, whatever their tables are called. -/
theorem nameless_entryRow (table : String) (e : VocabularyEntry) (index : Nat) :
    (entryRow table e index).Nameless := by
  refine ⟨rfl, fun q hq => ?_⟩
  cases hq <;> exact Bool.and_false _

theorem nameless_openingScript (p : Program) : Script.Nameless (openingScript p) := by
  have himports : Script.Nameless (importScript p.imports) := by
    unfold importScript
    split <;> simp
  have hbindings : Script.Nameless (variableScript p.bindings) := by
    unfold variableScript
    split <;> simp
  simp [openingScript, himports, hbindings, headerScript, coreSchema, unitScript, vocabularyScript, nameless_entryRow]

theorem nameless_dataScript (p : Program) : Script.Nameless (dataScript p) := by
  have haggregation : ∀ outlet a, (aggregationRow outlet a).Nameless := by
    intro outlet a
    exact nameless_row (by decide) (by simp)
  have hmetric : ∀ d year m, (metricRow d year m).Nameless := by
    intro d year m
    exact nameless_row (by decide) (by simp)
  simp [dataScript, dataRows, haggregation, hmetric]

theorem nameless_eventScript (p : Program) : Script.Nameless (eventScript p) := by
  have hentity : ∀ event e, (entityRow event e).Nameless := by
    intro event e
    exact nameless_row (by decide) (by simp)
  have himpact : ∀ event f, (eventFieldRow "event_impact" "impact" event f).Nameless := by
    intro event f
    exact nameless_row (by decide) (by simp)
  have hmetadata : ∀ event f, (eventFieldRow "event_metadata" "metadata" event f).Nameless := by
    intro event f
    exact nameless_row (by decide) (by simp)
  have hevent : ∀ e number, Script.Nameless (eventRows e number) := by
    intro e number
    simp only [eventRows, List.cons_append, nameless_cons, nameless_append, nameless_map]
    exact ⟨nameless_row (by decide) (by simp), ⟨fun e _ => hentity number e, fun f _ => himpact number f⟩,
      fun f _ => hmetadata number f⟩
  unfold eventScript
  split
  · exact nameless_nil
  · simp [hevent]

/-! ## Rows with names -/

section Sections

variable {q : Lookup}

theorem Script.Nameless.rows {s : Script} (h : Script.Nameless s) (hq : ByName q) : Script.rows s q = 0 :=
  rows_eq_zero fun st hst => (h st hst).2 q hq

theorem Script.Nameless.backed {s : Script} (h : Script.Nameless s) (before : Script) : Backed before s :=
  backed_of_silent fun st hst => (h st hst).1

/-- Texts are compared by what they say. -/
@[simp] theorem text_beq_text (a b : String) : (Term.text a == Term.text b) = decide (a = b) := by
  rw [beq_eq_decide]
  simp

/-- The blocks of a template stand in comments. -/
theorem nameless_templateBlocks (t : Template) :
    Script.Nameless (t.blocks.flatMap (templateBlockComments t.name) ++ [Statement.blank]) := by
  simp [templateBlockComments]

/-- A template has a row for its name. -/
theorem rows_templateScript (hq : ByName q) (t : Template) :
    Script.rows (templateScript t) q = if decide (q = templateLookup t.name) then 1 else 0 := by
  have hrow : (Statement.row "templates" ["name", "template_type"] [.text t.name, .text t.type]).carries q =
      decide (q = templateLookup t.name) := by
    cases hq <;> simp [Statement.row, Statement.carries, familyLookup, templateLookup, linkLookup, eq_comm]
  rw [templateScript, List.append_assoc, rows_append, (nameless_templateBlocks t).rows hq, rows_cons,
    rows_cons, hrow]
  simp [Script.rows, Statement.carries]

/-- The parts of an outlet have no names. -/
theorem nameless_blockRows (outlet : Int) (b : Block) : Script.Nameless (blockRows outlet b) := by
  cases b <;> simp only [blockRows, nameless_map] <;> intro f _ <;> exact nameless_row (by decide) (by simp)

/-- An outlet is not looked up by name. -/
theorem rows_outletScript (hq : ByName q) (family : String) (o : Outlet) :
    Script.rows (outletScript family o) q = 0 := by
  have hblocks : Script.Nameless (o.blocks.flatMap (blockRows (outletId o))) := by
    simp [nameless_blockRows]
  have hrow : (outletRow family o).carries q = false := carries_of_notMem (by decide) hq
  rw [outletScript, rows_cons, rows_cons, hblocks.rows hq, hrow]
  rfl

/-- A family has a row for its name. -/
theorem rows_familyScript (hq : ByName q) (f : Family) :
    Script.rows (familyScript f) q = if decide (q = familyLookup f.name) then 1 else 0 := by
  have houtlets : Script.rows (f.outlets.flatMap (outletScript f.name)) q = 0 := by
    have hnone : Script.rows (f.outlets.flatMap (outletScript f.name)) q = f.outlets.countP fun _ => false :=
      rows_flatMap (fun o => rows_outletScript hq f.name o) f.outlets
    rw [hnone, List.countP_false]
    rfl
  have hrow : (Statement.row "families" ["name", "comment"] [.text f.name, .optional f.comment]).carries q =
      decide (q = familyLookup f.name) := by
    cases hq <;> simp [Statement.row, Statement.carries, familyLookup, templateLookup, linkLookup, eq_comm]
  rw [familyScript, rows_append, rows_append, houtlets, rows_cons, rows_cons, hrow]
  simp [Script.rows, Statement.carries]

/-- The links of a model with their families. -/
def familyLinks (p : Program) : List (Family × Link) :=
  p.families.flatMap fun f => f.links.map fun l => (f, l)

theorem linkScript_eq (p : Program) :
    linkScript p = .comment "RELATIONSHIPS" :: (familyLinks p).flatMap fun x => linkRows x.1.name x.2 := by
  rw [linkScript, familyLinks, List.flatMap_assoc]
  simp only [List.flatMap_map]

theorem map_name_familyLinks (p : Program) : (familyLinks p).map (fun x => x.2.name) = p.links.map Link.name := by
  rw [familyLinks, Program.links, List.map_flatMap, List.map_flatMap]
  simp only [List.map_map, Function.comp_def]

/-- The row of a link in the table of all links. -/
def linkRow (family : String) (l : Link) : Statement :=
  .row "relationships" ["relationship_name", "relationship_type", "family_id"]
    [.text l.name, .text (linkKind l), familyRef family]

theorem linkRows_eq (family : String) (l : Link) : linkRows family l = [linkRow family l, linkDetails l] := rfl

/-- The row of a link has its name. -/
theorem carries_linkRow (hq : ByName q) (family : String) (l : Link) :
    (linkRow family l).carries q = decide (q = linkLookup l.name) := by
  cases hq <;> simp [linkRow, Statement.row, Statement.carries, familyLookup, templateLookup, linkLookup, eq_comm]

/-- A link has a row for its name. -/
theorem rows_linkRows (hq : ByName q) (family : String) (l : Link) :
    Script.rows (linkRows family l) q = if decide (q = linkLookup l.name) then 1 else 0 := by
  have hdetails : (linkDetails l).carries q = false := by
    cases l <;> exact carries_of_notMem (by decide) hq
  rw [linkRows_eq, rows_cons, rows_cons, carries_linkRow hq, hdetails]
  rfl

/-- The rows that a lookup by name finds in the script of a model: one for each part with that name. -/
theorem rows_script (hq : ByName q) (p : Program) :
    Script.rows (script p) q =
      p.templates.countP (fun t => decide (q = templateLookup t.name)) +
        p.families.countP (fun f => decide (q = familyLookup f.name)) +
        (familyLinks p).countP (fun x => decide (q = linkLookup x.2.name)) := by
  have hclosing : Script.Nameless (dataScript p ++ eventScript p) :=
    nameless_append.2 ⟨nameless_dataScript p, nameless_eventScript p⟩
  rw [script_eq, rows_append, rows_append, rows_append, rows_append, (nameless_openingScript p).rows hq,
    hclosing.rows hq, rows_flatMap (rows_templateScript hq), rows_flatMap (rows_familyScript hq), linkScript_eq,
    rows_cons, rows_flatMap fun x => rows_linkRows hq x.1.name x.2]
  simp [Statement.carries]

/-! ## Sections behind what they refer to -/

/-- An outlet looks up its family and the template it extends. -/
theorem lookups_outletRow (family : String) (o : Outlet) :
    (outletRow family o).lookups = familyLookup family :: (o.templateRef.map templateLookup).toList := by
  unfold outletRow
  cases o.templateRef <;> cases o.baseRef <;> rfl

theorem lookups_linkDetails (l : Link) : (linkDetails l).lookups = [linkLookup l.name] := by
  cases l <;> simp [linkDetails, Statement.row, Statement.lookups, Conflict.terms, List.filterMap_cons, linkRef,
    linkLookup, Link.name]

variable {before : Script}

/-- A family backs its outlets, whose templates stand in front of it. -/
theorem backed_familyScript {f : Family}
    (h : ∀ o ∈ f.outlets, ∀ name, o.templateRef = some name → 1 ≤ Script.rows before (templateLookup name)) :
    Backed before (familyScript f) := by
  have hfamily : 1 ≤ Script.rows [Statement.comment s!"Family: {f.name}",
      .row "families" ["name", "comment"] [.text f.name, .optional f.comment]] (familyLookup f.name) := by
    rw [rows_cons, rows_cons]
    simp [Statement.row, Statement.carries, familyLookup]
  rw [familyScript, List.append_assoc]
  refine backed_append (backed_of_silent ?_) (backed_of_rows ?_)
  · simp [Statement.row, Statement.lookups, Conflict.terms, List.filterMap_cons]
  · intro st hst q hq
    rw [List.mem_append, List.mem_flatMap] at hst
    obtain ⟨o, ho, hst⟩ | hblank := hst
    · rw [outletScript, List.mem_cons, List.mem_cons] at hst
      obtain rfl | rfl | hst := hst
      · cases hq
      · rw [lookups_outletRow, List.mem_cons, Option.mem_toList, Option.map_eq_some_iff] at hq
        obtain rfl | ⟨name, hname, rfl⟩ := hq
        · refine ⟨.family f.name, ?_⟩
          rw [rows_append]
          omega
        · refine ⟨.template name, ?_⟩
          have htemplate := h o ho name hname
          rw [rows_append]
          omega
      · obtain ⟨b, -, hst⟩ := List.mem_flatMap.1 hst
        rw [(nameless_blockRows _ b st hst).1] at hq
        cases hq
    · rw [List.mem_singleton.1 hblank] at hq
      cases hq

/-- The name of a link finds its row. -/
theorem rows_linkRow (family : String) (l : Link) : Script.rows [linkRow family l] (linkLookup l.name) = 1 := by
  rw [rows_cons, carries_linkRow (.link l.name)]
  simp [Script.rows]

/-- A link has its row in front of what is particular to it, and its family in front of both. -/
theorem backed_linkRows {family : String} {l : Link} (h : 1 ≤ Script.rows before (familyLookup family)) :
    Backed before (linkRows family l) := by
  have hrow : (linkRow family l).lookups = [familyLookup family] := rfl
  refine backed_append (a := [linkRow family l]) (b := [linkDetails l]) (backed_of_rows ?_) (backed_of_rows ?_)
  · simp only [List.forall_mem_singleton, hrow]
    exact ⟨.family family, h⟩
  · simp only [List.forall_mem_singleton, lookups_linkDetails]
    refine ⟨.link l.name, ?_⟩
    rw [rows_append, rows_linkRow]
    exact Nat.le_add_left ..

/-- A part of a list is counted. -/
theorem one_le_countP {α : Type} {xs : List α} {name : α → String} {lookup : String → Lookup} {x : α} (hx : x ∈ xs) :
    1 ≤ xs.countP fun y => decide (lookup (name x) = lookup (name y)) :=
  List.countP_pos_iff.2 ⟨x, hx, by simp⟩

/-- Every lookup of a model that has the templates of its outlets finds a row. -/
theorem backed_script {p : Program}
    (h : ∀ o ∈ p.outlets, ∀ name, o.templateRef = some name → ∃ t ∈ p.templates, t.name = name) :
    Backed [] (script p) := by
  have htemplate : ∀ name, (∃ t ∈ p.templates, t.name = name) →
      1 ≤ Script.rows (openingScript p ++ p.templates.flatMap templateScript) (templateLookup name) := by
    rintro name ⟨t, ht, rfl⟩
    rw [rows_append, rows_flatMap (rows_templateScript (.template t.name))]
    exact Nat.le_add_left_of_le (one_le_countP ht)
  have hfamily : ∀ f ∈ p.families, 1 ≤ Script.rows
      (openingScript p ++ p.templates.flatMap templateScript ++ p.families.flatMap familyScript)
      (familyLookup f.name) := by
    intro f hf
    rw [rows_append, rows_flatMap (rows_familyScript (.family f.name))]
    exact Nat.le_add_left_of_le (one_le_countP hf)
  have hclosing : Script.Nameless (dataScript p ++ eventScript p) :=
    nameless_append.2 ⟨nameless_dataScript p, nameless_eventScript p⟩
  rw [script_eq]
  refine backed_append (backed_append (backed_append (backed_append ?_ ?_) ?_) ?_) (hclosing.backed _)
  · exact (nameless_openingScript p).backed _
  · refine backed_of_silent (List.forall_mem_flatMap.2 fun t _ => ?_)
    rw [templateScript, List.append_assoc, List.forall_mem_append]
    refine ⟨?_, fun st hst => (nameless_templateBlocks t st hst).1⟩
    simp [Statement.row, Statement.lookups, Conflict.terms]
  · rw [← List.append_nil ([] ++ _)]
    refine backed_flatMap (fun f hf more => backed_familyScript fun o ho name hname => ?_) []
    have hrows := htemplate name (h o (List.mem_flatMap.2 ⟨f, hf, ho⟩) name hname)
    rw [List.nil_append, rows_append]
    omega
  · rw [linkScript_eq, ← List.singleton_append]
    refine backed_append (backed_of_silent (by simp [Statement.lookups])) (backed_flatMap (fun x hx more => ?_) _)
    obtain ⟨f, hf, hlink⟩ := List.mem_flatMap.1 hx
    obtain ⟨l, -, rfl⟩ := List.mem_map.1 hlink
    refine backed_linkRows ?_
    rw [List.nil_append, rows_append]
    exact Nat.le_add_right_of_le (hfamily f hf)

/-! ## Rows that are found once -/

section Once

variable {p : Program}

/-- Parts with a name are counted by their names. -/
theorem countP_name {α : Type} {name : α → String} (value : String) (xs : List α) :
    (xs.countP fun x => decide (value = name x)) = (xs.map name).count value := by
  rw [List.count, List.countP_map]
  congr 1
  funext x
  rw [Function.comp_apply, beq_eq_decide]
  exact decide_eq_decide.2 eq_comm

theorem rows_familyLookup (p : Program) (name : String) :
    Script.rows (script p) (familyLookup name) = (p.families.map Family.name).count name := by
  rw [rows_script (.family name)]
  simp [familyLookup, templateLookup, linkLookup, countP_name]

theorem rows_templateLookup (p : Program) (name : String) :
    Script.rows (script p) (templateLookup name) = (p.templates.map Template.name).count name := by
  rw [rows_script (.template name)]
  simp [familyLookup, templateLookup, linkLookup, countP_name]

theorem rows_linkLookup (p : Program) (name : String) :
    Script.rows (script p) (linkLookup name) = (p.links.map Link.name).count name := by
  rw [rows_script (.link name), ← map_name_familyLinks]
  simp [familyLookup, templateLookup, linkLookup, countP_name]

/-- A lookup of a family or a template finds one row, if no two have the same name. -/
theorem finds_eq_one (hbacked : Backed [] (script p)) (hfamilies : (p.families.map Family.name).Nodup)
    (htemplates : (p.templates.map Template.name).Nodup) {n : Nat} (hx : (q, n) ∈ Script.finds [] (script p))
    (hlink : q.table ≠ "relationships") : n = 1 := by
  have hname : ByName q := (hbacked _ hx).1
  have hfound : 1 ≤ n := (hbacked _ hx).2
  have hrows : n ≤ Script.rows (script p) q := le_rows_of_mem_finds hx
  cases hname with
  | family name =>
    rw [rows_familyLookup] at hrows
    exact le_antisymm (hrows.trans (List.nodup_iff_count_le_one.1 hfamilies name)) hfound
  | template name =>
    rw [rows_templateLookup] at hrows
    exact le_antisymm (hrows.trans (List.nodup_iff_count_le_one.1 htemplates name)) hfound
  | link name => exact absurd rfl hlink

/-- Names that are new where they stand are different. -/
theorem nodup_of_new {α : Type} {name : α → String} {xs : List α}
    (h : ∀ (l : List α) (x : α) (r : List α), xs = l ++ x :: r → name x ∉ l.map name) :
    (xs.map name).Nodup := by
  induction xs using List.reverseRecOn with
  | nil => exact List.nodup_nil
  | append_singleton xs x ih =>
    rw [List.map_append, List.map_singleton, List.nodup_append]
    refine ⟨ih fun l y r hsplit => ?_, List.nodup_singleton _, ?_⟩
    · exact h l y (r ++ [x]) (by rw [hsplit, List.append_assoc]; rfl)
    · rintro a ha b hb rfl
      rw [List.mem_singleton.1 hb] at ha
      exact h xs x [] rfl ha

/-- The lookup of a link finds its row, and the rows of all earlier links with its name. -/
theorem exists_find_of_link {l r : List (Family × Link)} {x : Family × Link} (h : familyLinks p = l ++ x :: r) :
    ∃ n, (linkLookup x.2.name, n) ∈ Script.finds [] (script p) ∧
      (l.countP fun y => decide (linkLookup x.2.name = linkLookup y.2.name)) < n := by
  obtain ⟨front, rest, hsplit⟩ : ∃ front rest, script p =
      (front ++ l.flatMap (fun y => linkRows y.1.name y.2) ++ [linkRow x.1.name x.2]) ++ linkDetails x.2 :: rest := by
    refine ⟨openingScript p ++ p.templates.flatMap templateScript ++ p.families.flatMap familyScript ++
      [Statement.comment "RELATIONSHIPS"],
      r.flatMap (fun y => linkRows y.1.name y.2) ++ (dataScript p ++ eventScript p), ?_⟩
    rw [script_eq, linkScript_eq, h]
    simp [linkRows_eq]
  refine ⟨Script.rows (front ++ l.flatMap (fun y => linkRows y.1.name y.2) ++ [linkRow x.1.name x.2])
    (linkLookup x.2.name), mem_finds.2 ⟨_, _, _, hsplit, ?_, rfl⟩, ?_⟩
  · rw [lookups_linkDetails]
    exact List.mem_singleton_self _
  · have hearlier : Script.rows (l.flatMap fun y => linkRows y.1.name y.2) (linkLookup x.2.name) =
        l.countP fun y => decide (linkLookup x.2.name = linkLookup y.2.name) :=
      rows_flatMap (fun y => rows_linkRows (.link x.2.name) y.1.name y.2) l
    rw [rows_append, rows_append, rows_linkRow, hearlier]
    omega

/-- All lookups find one row exactly if no two links have the same name. -/
theorem finds_eq_one_iff (hbacked : Backed [] (script p)) (hfamilies : (p.families.map Family.name).Nodup)
    (htemplates : (p.templates.map Template.name).Nodup) :
    (∀ q n, (q, n) ∈ Script.finds [] (script p) → n = 1) ↔ (p.links.map Link.name).Nodup := by
  constructor
  · intro hone
    rw [← map_name_familyLinks]
    refine nodup_of_new fun l x r hsplit hmem => ?_
    obtain ⟨n, hfind, hlt⟩ := exists_find_of_link hsplit
    have hn : n = 1 := hone _ n hfind
    obtain ⟨y, hy, hname⟩ := List.mem_map.1 hmem
    have hearlier : 0 < l.countP fun y => decide (linkLookup x.2.name = linkLookup y.2.name) :=
      List.countP_pos_iff.2 ⟨y, hy, by simp [hname]⟩
    omega
  · intro hlinks q n hx
    by_cases htable : q.table = "relationships"
    · have hname : ByName q := (hbacked _ hx).1
      have hfound : 1 ≤ n := (hbacked _ hx).2
      have hrows : n ≤ Script.rows (script p) q := le_rows_of_mem_finds hx
      cases hname with
      | family name => exact absurd htable (by simp [familyLookup])
      | template name => exact absurd htable (by simp [templateLookup])
      | link name =>
        rw [rows_linkLookup] at hrows
        exact le_antisymm (hrows.trans (List.nodup_iff_count_le_one.1 hlinks name)) hfound
    · exact finds_eq_one hbacked hfamilies htemplates hx htable

end Once

end Sections

end MediaLanguage.Sql
