import Mathlib
import MediaLanguage.Proofs.Model.Remark
import MediaLanguage.Proofs.Naming
import MediaLanguage.Proofs.Sql.Execution

/-!
# The ANMI script as it is read

A reader finds the statements of the script in its text. The texts of a model stand in literals, but for those of a
figure without a column, which a comment shows as they are: what follows a line break in them is read as a statement.

* `shownTexts`: the texts that comments show.
* `isUnderstood_outletScript`: the rows of vocabularies, sources and outlets, whatever they hold.
* `isUnderstood_statements`: the whole script, if comments show what stands on one line.
* `compile_anmi_of_passed`: the texts that compile to the script.
-/

namespace MediaLanguage.Anmi

open Model Sql

/-- The texts that comments of the script show: the name, the unit and the source of a figure without a column. -/
def shownTexts (p : Program) : List String :=
  ((metrics p).filter fun m => (metricColumn? m).isNone).flatMap fun m => [m.name, m.unit, m.source]

/-! ## The schema -/

theorem isUnderstood_headerScript : ∀ st ∈ headerScript, st.IsUnderstood := by
  simp only [headerScript, List.forall_mem_cons, List.not_mem_nil, false_implies, implies_true, and_true,
    Statement.isUnderstood_comment, Statement.isUnderstood_blank, Statement.isUnderstood_createSchema, true_and]
  decide

/-- The names and texts of a table for links are in order, and its columns and key are found in its definition. -/
def LinkTable.IsUnderstood (c : LinkColumns) (t : LinkTable) : Prop :=
  OneLine t.description ∧ IsName (qualified t.table) ∧ (Statement.createTable true (t.definition c)).IsUnderstood

/-- All tables of the schema are understood. -/
theorem isUnderstood_tables : (∀ t ∈ outletTables, (Statement.createTable true t).IsUnderstood) ∧
    (∀ t ∈ diachronicTables, t.IsUnderstood diachronicColumns) ∧
    (∀ t ∈ synchronousTables, t.IsUnderstood synchronousColumns) ∧
    ∀ t ∈ vocabularyTables,
      OneLine t.title ∧ IsName (qualified t.table) ∧ IsName t.idColumn ∧ IsName t.nameColumn := by
  unfold LinkTable.IsUnderstood
  decide +kernel

theorem isUnderstood_tableSchema : ∀ st ∈ tableSchema, st.IsUnderstood := by
  obtain ⟨houtlets, hdiachronic, hsynchronous, -⟩ := isUnderstood_tables
  simp only [tableSchema, outletSchema, linkSchema, LinkTable.script, List.forall_mem_append, List.forall_mem_cons,
    List.forall_mem_flatMap, List.not_mem_nil, false_implies, implies_true, and_true, Statement.isUnderstood_comment,
    Statement.isUnderstood_blank]
  exact ⟨⟨by decide, houtlets⟩, ⟨by decide, fun t ht => ⟨(hdiachronic t ht).1, (hdiachronic t ht).2.2⟩⟩,
    fun t ht => ⟨(hsynchronous t ht).1, (hsynchronous t ht).2.2⟩⟩

/-! ## Rows -/

section Rows

variable {p : Program}

/-- The rows of a table for a vocabulary. -/
theorem isUnderstood_vocabularyScript (v : Vocabulary) : ∀ st ∈ vocabularyScript v, st.IsUnderstood := by
  obtain ⟨-, -, -, htables⟩ := isUnderstood_tables
  unfold vocabularyScript
  split
  · next t ht =>
    obtain ⟨htitle, htable, hid, hname⟩ := htables t (List.mem_of_find?_eq_some ht)
    have hrows : ∀ st ∈ v.entries.filterMap (entryRow? t), st.IsUnderstood := by
      intro st hst
      obtain ⟨e, -, he⟩ := List.mem_filterMap.1 hst
      unfold entryRow? at he
      split at he
      · cases he
        exact Statement.isReadable_insert htable (by simp [hid, hname]) (by simp) rfl (by simp) trivial
      · cases he
    simp only [List.cons_append, List.forall_mem_cons, List.forall_mem_append, List.not_mem_nil, false_implies,
      implies_true, and_true, Statement.isUnderstood_comment, Statement.isUnderstood_blank]
    exact ⟨htitle, hrows⟩
  · exact List.forall_mem_nil _

theorem isUnderstood_sourceScript (p : Program) : ∀ st ∈ sourceScript p, st.IsUnderstood := by
  have hrow : ∀ source, (sourceRow source).IsUnderstood := fun source =>
    Statement.isReadable_insert (by decide) (by decide) (by simp) rfl (by simp) trivial
  unfold sourceScript
  split
  · exact List.forall_mem_nil _
  · simp only [List.cons_append, List.forall_mem_cons, List.forall_mem_append, List.forall_mem_map, List.not_mem_nil,
      false_implies, implies_true, and_true, Statement.isUnderstood_comment, Statement.isUnderstood_blank]
    exact ⟨by decide, fun source _ => hrow source⟩

/-- The rows of vocabularies, sources and outlets are read as such, whatever they hold. -/
theorem isUnderstood_outletScript (p : Program) : ∀ st ∈ outletScript p, st.IsUnderstood := by
  have hrow : ∀ o, (OutletRow.ofOutlet o).statement.IsUnderstood := fun o =>
    Statement.isReadable_row (by decide) (by decide) (by simp [OutletRow.values]) rfl (by decide)
  simp only [outletScript, List.forall_mem_append, List.forall_mem_cons, List.forall_mem_flatMap, List.forall_mem_map,
    List.not_mem_nil, false_implies, implies_true, and_true, Statement.isUnderstood_comment,
    Statement.isUnderstood_blank]
  exact ⟨⟨⟨⟨by decide, fun v _ => isUnderstood_vocabularyScript v⟩, isUnderstood_sourceScript p⟩, by decide⟩,
    fun o _ => hrow o⟩

/-- A figure is read as its statement, or not at all if it has no column and a comment shows it on one line. -/
theorem isUnderstood_metricStatement (sources : List (String × Nat)) (outlet year : Int) {m : Metric}
    (h : metricColumn? m = none → OneLine m.name ∧ OneLine m.unit ∧ OneLine m.source) :
    (metricStatement sources outlet year m).IsUnderstood := by
  cases hcolumn : metricColumn? m with
  | none =>
    obtain ⟨hname, hunit, hsource⟩ := h hcolumn
    have hstart := (((by decide : OneLine "Metric '").append hname).append (by decide : OneLine "' = ")).append
      m.value.oneLine_text
    have hbefore := ((hstart.append (by decide : OneLine " ")).append hunit).append (by decide : OneLine " (source: ")
    have hend := hbefore.append
      hsource
    rw [metricStatement, hcolumn]
    exact hend.append (by decide : OneLine ")")
  | some c =>
    have hcolumns : ∀ c ∈ metricColumns, IsName c.column ∧ IsName (c.column ++ "_source") := by decide
    obtain ⟨hname, hsource⟩ := hcolumns c (List.mem_of_find?_eq_some hcolumn)
    have hkey : ∀ k ∈ yearKey, IsName k := by decide
    have hvalue : (if c.integer then Term.integer m.value.integerPart else .number m.value).HasNames := by
      split <;> trivial
    rw [metricStatement, hcolumn]
    refine Statement.isReadable_insert (by decide) ?_ ?_ rfl (by simp [yearKey]) ⟨by simp [yearKey], by simp, hkey, ?_⟩
    · simp only [List.forall_mem_append, List.forall_mem_cons, List.not_mem_nil, false_implies, implies_true, and_true]
      exact ⟨hkey, by decide, hname, hsource⟩
    · simp [hvalue]
    · simp [hname, hsource, hvalue]

theorem isUnderstood_dataScript (h : ∀ s ∈ shownTexts p, OneLine s) : ∀ st ∈ dataScript p, st.IsUnderstood := by
  have hshown : ∀ m ∈ metrics p, metricColumn? m = none → OneLine m.name ∧ OneLine m.unit ∧ OneLine m.source := by
    intro m hm hcolumn
    have hmem : m ∈ (metrics p).filter fun m => (metricColumn? m).isNone :=
      List.mem_filter.2 ⟨hm, by rw [hcolumn, Option.isNone_none]⟩
    simpa using List.forall_mem_flatMap.1 h m hmem
  have hcounts := (((by decide : OneLine "Debug: Found ").append (isWord_natural p.data.length).oneLine).append
    (by decide : OneLine " data blocks across ")).append (isWord_natural p.families.length).oneLine
  simp only [dataScript, dataStatements, List.forall_mem_append, List.forall_mem_cons, List.forall_mem_flatMap,
    List.forall_mem_map, List.not_mem_nil, false_implies, implies_true, and_true, true_and,
    Statement.isUnderstood_comment, Statement.isUnderstood_blank]
  refine ⟨⟨by decide, hcounts.append (by decide : OneLine " families")⟩, fun d hd y hy m hm => ?_⟩
  refine isUnderstood_metricStatement _ _ _ (hshown m ?_)
  exact List.mem_flatMap.2 ⟨d, hd, List.mem_flatMap.2 ⟨y, hy, hm⟩⟩

theorem isUnderstood_linkScript (p : Program) : ∀ st ∈ linkScript p, st.IsUnderstood := by
  obtain ⟨-, hdiachronic, hsynchronous, -⟩ := isUnderstood_tables
  have hrow : ∀ l st, linkRow? l = some st → st.IsUnderstood := by
    intro l st hst
    cases l with
    | diachronic l =>
      obtain ⟨t, ht, rfl⟩ := Option.map_eq_some_iff.1 hst
      obtain ⟨-, hname, -⟩ := hdiachronic t (List.mem_of_find?_eq_some ht)
      exact Statement.isReadable_row hname (by decide) (by simp) rfl (by decide)
    | synchronous l =>
      obtain ⟨t, ht, rfl⟩ := Option.map_eq_some_iff.1 hst
      obtain ⟨-, hname, -⟩ := hsynchronous t (List.mem_of_find?_eq_some ht)
      exact Statement.isReadable_row hname (by decide) (by simp) rfl (by decide)
  simp only [linkScript, List.forall_mem_append, List.forall_mem_cons, List.not_mem_nil, false_implies, implies_true,
    and_true, true_and, Statement.isUnderstood_comment, Statement.isUnderstood_blank]
  refine ⟨by decide, fun st hst => ?_⟩
  obtain ⟨l, -, hl⟩ := List.mem_filterMap.1 hst
  exact hrow l st hl

/-- The statements of the script are read as such if comments show what stands on one line. -/
theorem isUnderstood_statements (h : ∀ s ∈ shownTexts p, OneLine s) : ∀ st ∈ statements p, st.IsUnderstood := by
  simp only [statements, List.forall_mem_append]
  exact ⟨⟨⟨⟨isUnderstood_headerScript, isUnderstood_tableSchema⟩, isUnderstood_outletScript p⟩,
    isUnderstood_dataScript h⟩, isUnderstood_linkScript p⟩

end Rows

end MediaLanguage.Anmi

namespace MediaLanguage

open Ast Sql

/-! ## Texts that compile -/

/-- A model has a text exactly if its numbers allow one. -/
theorem text_anmi_eq_ok_iff {m : Model.Program} {text : String} :
    Target.anmi.text m = .ok text ↔
      Number.requireIntegers (Anmi.integers m) = .ok () ∧ text = Script.render (Anmi.statements m) := by
  unfold Target.text Anmi.script
  dsimp only
  cases Number.requireIntegers (Anmi.integers m) with
  | error e => simp [Except.map, orConversionError]
  | ok u => simp [Except.map, orConversionError, eq_comm]

/-- A text whose program passes and has a model compiles to the script of the model if the numbers of the model are
finite. -/
theorem compile_anmi_of_passed {source : String} {p : Program} {v : Verdict} (hp : parse source = .ok p)
    (hv : p.validate = .ok v) (hpassed : v.passed = true) (hm : p.lower = .ok p.toModel)
    (hfinite : ∀ x ∈ Anmi.integers p.toModel, x.isFinite) :
    compile source "sql_anmi" = .ok (Script.render (Anmi.statements p.toModel)) := by
  change compile source Target.anmi.name = _
  exact compile_eq_ok_iff.2
    ⟨p, v, hp, hv, hpassed, hm, text_anmi_eq_ok_iff.2 ⟨Number.requireIntegers_of_finite hfinite, rfl⟩⟩

end MediaLanguage
