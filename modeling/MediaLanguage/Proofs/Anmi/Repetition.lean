import MediaLanguage.Proofs.Anmi.Figures

/-!
# The script that comes again

The script is made to be run again on the database that it has made: tables are defined only where they are missing,
rows of sectors, areas and sources are left out where they are there, and figures set their columns once more. Rows of
outlets and links have no such clause.

* `repeats_statements`: behind a run that is not refused the script comes again as `Repeats` says: without the rows of
  outlets and links it changes nothing, and the first of these rows is refused.
* `second_run`: the same for every text that compiles, with the models that have no such rows. Where comments stand on
  one line, the text of the script does what the script does.
* `not_second_run`: the text for one outlet does not run again.
-/

namespace MediaLanguage.Anmi

open Model Sql

/-! ## Where the statements write -/

/-- A steady statement that leaves the table of figures alone. -/
def Apart (st : Statement) : Prop :=
  st.isSteady ∧ st.table? ≠ some (qualified "mo_year")

section Parts

variable {p : Program} {st : Statement}

theorem apart_comment (text : String) : Apart (.comment text) :=
  ⟨rfl, fun h => by cases h⟩

theorem apart_blank : Apart .blank :=
  ⟨rfl, fun h => by cases h⟩

/-- A row that is not a figure, and is left out or refused if its key is there. -/
theorem apart_insert {i : Insert} (hsteady : (Statement.insert i).isSteady) (htable : i.table ≠ qualified "mo_year") :
    Apart (.insert i) :=
  ⟨hsteady, fun h => htable (Option.some.inj h)⟩

theorem apart_vocabularyScript (v : Vocabulary) : ∀ st ∈ vocabularyScript v, Apart st ∧ st.plain? = none := by
  intro st hst
  unfold vocabularyScript at hst
  split at hst
  · next t ht =>
    have htable : ∀ t ∈ vocabularyTables, qualified t.table ≠ qualified "mo_year" := by decide
    rcases List.mem_cons.1 hst with rfl | hst
    · exact ⟨apart_comment _, rfl⟩
    · rcases List.mem_append.1 hst with hst | hst
      · obtain ⟨e, -, he⟩ := List.mem_filterMap.1 hst
        unfold entryRow? at he
        split at he
        · cases he
          exact ⟨apart_insert rfl (htable t (List.mem_of_find?_eq_some ht)), rfl⟩
        · cases he
      · rw [List.mem_singleton.1 hst]
        exact ⟨apart_blank, rfl⟩
  · cases hst

theorem apart_sourceScript (p : Program) : ∀ st ∈ sourceScript p, Apart st ∧ st.plain? = none := by
  intro st hst
  unfold sourceScript at hst
  split at hst
  · cases hst
  · rcases List.mem_cons.1 hst with rfl | hst
    · exact ⟨apart_comment _, rfl⟩
    · rcases List.mem_append.1 hst with hst | hst
      · obtain ⟨source, -, rfl⟩ := List.mem_map.1 hst
        exact ⟨apart_insert rfl (show qualified "sources_names" ≠ _ by decide), rfl⟩
      · rw [List.mem_singleton.1 hst]
        exact ⟨apart_blank, rfl⟩

theorem apart_outletScript (p : Program) : ∀ st ∈ outletScript p, Apart st := by
  unfold outletScript
  simp only [List.forall_mem_append, List.forall_mem_cons, List.forall_mem_flatMap, List.forall_mem_map]
  refine ⟨⟨⟨⟨⟨apart_comment _, apart_blank, ?_⟩, ?_⟩, ?_⟩, apart_comment _, ?_⟩, ?_⟩
  · intro st hst
    cases hst
  · intro v _ st hst
    exact (apart_vocabularyScript v st hst).1
  · intro st hst
    exact (apart_sourceScript p st hst).1
  · intro st hst
    cases hst
  · intro o _
    exact apart_insert rfl (show qualified "mo_constant" ≠ _ by decide)

/-- The row of a link has no clause. -/
theorem apart_linkRow {l : Link} (h : linkRow? l = some st) : Apart st ∧ st.plain?.isSome := by
  have hdiachronic : ∀ t ∈ diachronicTables, qualified t.table ≠ qualified "mo_year" := by decide
  have hsynchronous : ∀ t ∈ synchronousTables, qualified t.table ≠ qualified "mo_year" := by decide
  cases l with
  | diachronic l =>
    obtain ⟨t, ht, rfl⟩ := Option.map_eq_some_iff.1 h
    exact ⟨apart_insert rfl (hdiachronic t (List.mem_of_find?_eq_some ht)), rfl⟩
  | synchronous l =>
    obtain ⟨t, ht, rfl⟩ := Option.map_eq_some_iff.1 h
    exact ⟨apart_insert rfl (hsynchronous t (List.mem_of_find?_eq_some ht)), rfl⟩

theorem apart_linkScript (p : Program) : ∀ st ∈ linkScript p, Apart st := by
  intro st hst
  rcases List.mem_append.1 hst with hst | hst
  · simp only [List.mem_cons, List.not_mem_nil, or_false] at hst
    rcases hst with rfl | rfl | rfl
    · exact apart_blank
    · exact apart_comment _
    · exact apart_blank
  · obtain ⟨l, -, hl⟩ := List.mem_filterMap.1 hst
    exact (apart_linkRow hl).1

/-- The statements for figures only write the table of figures, and have clauses. -/
theorem of_mem_dataScript (hst : st ∈ dataScript p) :
    st.plain? = none ∧ ∀ table ≠ qualified "mo_year", st.Adds table := by
  rw [dataScript_eq] at hst
  rcases List.mem_append.1 hst with hst | hst
  · simp only [dataHeader, List.mem_cons, List.not_mem_nil, or_false] at hst
    rcases hst with rfl | rfl | rfl | rfl <;> exact ⟨rfl, fun _ _ => trivial⟩
  · obtain ⟨f, -, rfl⟩ := List.mem_map.1 hst
    cases hcolumn : metricColumn? f.metric with
    | none =>
      rw [Figure.statement, metricStatement, hcolumn]
      exact ⟨rfl, fun _ _ => trivial⟩
    | some c =>
      obtain ⟨i, hstatement, htable, -, hconflict⟩ := exists_insert (sources p) hcolumn
      have hplain : (Statement.insert i).plain? = none := by
        obtain ⟨table, columns, values, conflict⟩ := i
        cases conflict with
        | fail => cases hconflict
        | skip | update => rfl
      rw [hstatement]
      exact ⟨hplain, fun other hother h => absurd (h.symm.trans htable) hother⟩

end Parts

/-! ## The second run -/

section Runs

variable {p : Program} {db : Database}

/-- The tables are defined only where they are missing. -/
theorem isSteady_tables : ∀ st ∈ headerScript ++ tableSchema, st.isSteady ∧ st.plain? = none := by
  decide

theorem insert_notMem_tables (i : Insert) : Statement.insert i ∉ headerScript ++ tableSchema := by
  simp [headerScript, tableSchema, outletSchema, linkSchema, LinkTable.script]

theorem mem_statements {st : Statement} : st ∈ statements p ↔
    st ∈ headerScript ++ tableSchema ∨ st ∈ outletScript p ∨ st ∈ dataScript p ∨ st ∈ linkScript p := by
  simp only [statements, List.mem_append, or_assoc]

/-- The table of figures, before any row is there. -/
theorem execute_tables {db : Database} (h : Script.execute (headerScript ++ tableSchema) (fun _ => none) = .ok db) :
    db (qualified "mo_year") = some moYearTable.empty := by
  have htables : ((Script.execute (headerScript ++ tableSchema) fun _ => none).toOption.bind fun db =>
      db (qualified "mo_year")) = some moYearTable.empty := by
    decide +kernel
  rw [h] at htables
  exact htables

/-- A run that is not refused leaves all figures in their table. -/
theorem figures_of_execute (h : Script.execute (statements p) (fun _ => none) = .ok db) :
    db (qualified "mo_year") = some (figureTable (sources p) (figures p)) := by
  obtain ⟨behindData, hrest, hlinks⟩ := execute_append_eq_ok.1 h
  obtain ⟨behindOutlets, hrest, hdata⟩ := execute_append_eq_ok.1 hrest
  obtain ⟨behindTables, htables, houtlets⟩ := execute_append_eq_ok.1 hrest
  have hempty : behindOutlets (qualified "mo_year") = some (figureTable (sources p) []) := by
    rw [execute_script_frame houtlets fun st hst => (apart_outletScript p st hst).2]
    exact execute_tables htables
  rw [execute_dataScript hempty] at hdata
  rw [execute_script_frame hlinks fun st hst => (apart_linkScript p st hst).2, ← Except.ok.inj hdata,
    Function.update_self, List.nil_append]

/-- Only figures change rows, and only those of their table. -/
theorem adds_statements {table : String} (htable : table ≠ qualified "mo_year") :
    ∀ st ∈ statements p, st.Adds table := by
  intro st hst
  rcases mem_statements.1 hst with hst | hst | hst | hst
  · exact adds_of_isSteady (isSteady_tables st hst).1 table
  · exact adds_of_isSteady (apart_outletScript p st hst).1 table
  · exact (of_mem_dataScript hst).2 table htable
  · exact adds_of_isSteady (apart_linkScript p st hst).1 table

/-- Behind a run that is not refused the script comes again: the first row of an outlet or a link is refused, and
without these rows nothing changes. -/
theorem repeats_statements (h : Script.execute (statements p) (fun _ => none) = .ok db) :
    Repeats db (statements p) := by
  have hapart : ∀ s : Script, (∀ st ∈ s, st ∈ statements p) → (∀ st ∈ s, Apart st) → Repeats db s := by
    intro s hsub hs
    refine repeats_of_forall fun st hst => repeats_of_isSteady (hs st hst).1 h (hsub st hst) ?_
    rintro i rfl
    exact adds_statements fun heq => (hs _ hst).2 (congrArg some heq)
  have htables : Repeats db (headerScript ++ tableSchema) := by
    refine repeats_of_forall fun st hst =>
      repeats_of_isSteady (isSteady_tables st hst).1 h (mem_statements.2 (.inl hst)) ?_
    rintro i rfl
    exact absurd hst (insert_notMem_tables i)
  have houtlets : Repeats db (outletScript p) :=
    hapart _ (fun st hst => mem_statements.2 (.inr (.inl hst))) (apart_outletScript p)
  have hdata : Repeats db (dataScript p) := by
    have hfigures := figures_of_execute h
    refine repeats_of_execute (fun st hst => (of_mem_dataScript hst).1) ?_
    rw [execute_dataScript hfigures, figureTable_append_self, Function.update_eq_self_iff.2 hfigures.symm]
  have hlinks : Repeats db (linkScript p) :=
    hapart _ (fun st hst => mem_statements.2 (.inr (.inr (.inr hst)))) (apart_linkScript p)
  exact ((htables.append houtlets).append hdata).append hlinks

/-- The models without rows of outlets and links. -/
theorem findSome?_plain?_statements : (statements p).findSome? Statement.plain? = none ↔
    p.outlets = [] ∧ ∀ l ∈ p.links, linkRow? l = none := by
  rw [List.findSome?_eq_none_iff]
  constructor
  · intro h
    constructor
    · refine List.eq_nil_iff_forall_not_mem.2 fun o ho => ?_
      have hmem : (OutletRow.ofOutlet o).statement ∈ outletScript p :=
        List.mem_append_right _ (List.mem_map.2 ⟨o, ho, rfl⟩)
      cases h _ (mem_statements.2 (.inr (.inl hmem)))
    · intro l hl
      by_contra hrow
      obtain ⟨st, hst⟩ := Option.ne_none_iff_exists'.1 hrow
      have hmem : st ∈ linkScript p := List.mem_append_right _ (List.mem_filterMap.2 ⟨l, hl, hst⟩)
      have hplain := (apart_linkRow hst).2
      rw [h st (mem_statements.2 (.inr (.inr (.inr hmem))))] at hplain
      cases hplain
  · rintro ⟨houtlets, hlinks⟩ st hst
    rcases mem_statements.1 hst with hst | hst | hst | hst
    · exact (isSteady_tables st hst).2
    · rw [outletScript, houtlets] at hst
      simp only [List.mem_append, List.mem_flatMap, List.mem_cons, List.map_nil, List.not_mem_nil, or_false] at hst
      rcases hst with (((rfl | rfl) | ⟨v, -, hst⟩) | hst) | rfl
      · rfl
      · rfl
      · exact (apart_vocabularyScript v st hst).2
      · exact (apart_sourceScript p st hst).2
      · rfl
    · exact (of_mem_dataScript hst).1
    · rw [linkScript, List.filterMap_eq_nil_iff.2 hlinks] at hst
      simp only [List.append_nil, List.mem_cons, List.not_mem_nil, or_false] at hst
      rcases hst with rfl | rfl | rfl <;> rfl

end Runs

end MediaLanguage.Anmi

namespace MediaLanguage

open Ast Sql

/-! ## Texts that compile -/

/-- The script that a text compiles to, run again on the database that its first run has made out of nothing: the
first row of an outlet or a link is refused because its key is there, all other statements leave the database as it is.
So a second run goes through exactly if the model has no outlet, and no link that a table is for. The text does what
the statements do, if its comments show what stands on one line. -/
theorem second_run {source text : String} (h : compile source "sql_anmi" = .ok text) :
    ∃ p m, parse source = .ok p ∧ p.lower = .ok m ∧ text = Script.render (Anmi.statements m) ∧
      ((∀ s ∈ Anmi.shownTexts m, OneLine s) → ∀ db, Sql.run text db = some (Script.execute (Anmi.statements m) db)) ∧
      ∀ db, Script.execute (Anmi.statements m) (fun _ => none) = .ok db →
        Script.execute ((Anmi.statements m).filter fun st => st.plain?.isNone) db = .ok db ∧
        Script.execute (Anmi.statements m) db = Script.again (Anmi.statements m) db ∧
        (Script.execute (Anmi.statements m) db = .ok db ↔
          m.outlets = [] ∧ ∀ l ∈ m.links, Anmi.linkRow? l = none) := by
  have hcompile : compile source Target.anmi.name = .ok text := h
  obtain ⟨p, v, hp, hv, hpassed, hm, htext⟩ := compile_eq_ok_iff.1 hcompile
  have hrender := (text_anmi_eq_ok_iff.1 htext).2
  refine ⟨p, p.toModel, hp, hm, hrender, ?_, ?_⟩
  · intro hshown db
    rw [hrender]
    exact run_render (Anmi.isUnderstood_statements hshown)
  intro db hrun
  have hrepeats := Anmi.repeats_statements hrun
  refine ⟨hrepeats.rest, hrepeats.whole, ?_⟩
  rw [hrepeats.whole, ← Anmi.findSome?_plain?_statements, Script.again]
  cases (Anmi.statements p.toModel).findSome? Statement.plain? with
  | none => simp
  | some table => simp

/-- Two sectors, one of which comes twice. -/
def sectorSource : String :=
  "vocabulary SECTOR \x7b TYPES \x7b 1: \"Print\", 2: \"Radio\" \x7d MORE \x7b 1: \"Press\" \x7d \x7d"

/-- One outlet. -/
def oneOutletSource : String :=
  "FAMILY \"F\" \x7b OUTLET \"A\" \x7b identity \x7b id = 1; \x7d; \x7d; \x7d"

/-- The programs of the two texts pass. The script of the first leaves two sectors; that of the second is refused when
it comes again. -/
theorem runs_of_sources :
    ((parse sectorSource).toOption.map fun p =>
      ((Validator.integers p ++ p.integers).all Number.isFinite, (Validator.run {} p).verdict.passed,
        ((Anmi.integers p.toModel).isEmpty && (Anmi.shownTexts p.toModel).isEmpty && p.toModel.outlets.isEmpty &&
            p.toModel.links.isEmpty,
          (Script.execute (Anmi.statements p.toModel) fun _ => none).toOption.bind fun db =>
            (db (Anmi.qualified "sectors")).map (·.rows.length)))) = some (true, true, true, some 2) ∧
    ((parse oneOutletSource).toOption.map fun p =>
      ((Validator.integers p ++ p.integers).all Number.isFinite, (Validator.run {} p).verdict.passed,
        ((Anmi.integers p.toModel).all Number.isFinite && (Anmi.shownTexts p.toModel).isEmpty,
          (Script.execute (Anmi.statements p.toModel) fun _ => none).toOption.map fun db =>
            (Script.execute (Anmi.statements p.toModel) db).toOption.isSome))) =
      some (true, true, true, some false) := by
  have hfirst : sectorSource.toList = _ := String.toList_ofList
  have hsecond : oneOutletSource.toList = _ := String.toList_ofList
  rw [parse_of_toList hfirst, parse_of_toList hsecond]
  decide +kernel

/-- There is no outlet and no link, so the script can come again. -/
theorem second_run_sectorSource :
    ∃ text p m db, compile sectorSource "sql_anmi" = .ok text ∧ parse sectorSource = .ok p ∧ p.lower = .ok m ∧
      text = Script.render (Anmi.statements m) ∧ Script.execute (Anmi.statements m) (fun _ => none) = .ok db ∧
      (db (Anmi.qualified "sectors")).map (·.rows.length) = some 2 ∧
      Script.execute (Anmi.statements m) db = .ok db ∧ Sql.run text db = some (.ok db) := by
  obtain ⟨p, v, hp, hv, hpassed, hm, hsaid⟩ := exists_model_of_source runs_of_sources.1
  obtain ⟨hempty, hrows⟩ := Prod.mk.inj hsaid
  obtain ⟨⟨⟨hintegers, htexts⟩, houtlets⟩, hlinks⟩ : ((Anmi.integers p.toModel = [] ∧ Anmi.shownTexts p.toModel = []) ∧
      p.toModel.outlets = []) ∧ p.toModel.links = [] := by
    simpa using hempty
  have hcompile := compile_anmi_of_passed hp hv hpassed hm (by simp [hintegers])
  obtain ⟨p', m, hp', hm', htext, hreads, hagain⟩ := second_run hcompile
  obtain rfl : p = p' := Except.ok.inj (hp.symm.trans hp')
  obtain rfl : p.toModel = m := Except.ok.inj (hm.symm.trans hm')
  cases hrun : Script.execute (Anmi.statements p.toModel) (fun _ => none) with
  | error e =>
    rw [hrun] at hrows
    cases hrows
  | ok db =>
    rw [hrun] at hrows
    have hsame := (hagain db hrun).2.2.2 ⟨houtlets, by simp [hlinks]⟩
    have hread := hreads (by simp [htexts]) db
    rw [hsame] at hread
    exact ⟨_, p, _, db, hcompile, hp, hm, rfl, hrun, hrows, hsame, hread⟩

/-- Not every text that runs on an empty database can be run again behind itself. -/
theorem not_second_run :
    ¬∀ source text db, compile source "sql_anmi" = .ok text → Sql.run text (fun _ => none) = some (.ok db) →
      Sql.run text db = some (.ok db) := by
  intro hagain
  obtain ⟨p, v, hp, hv, hpassed, hm, hsaid⟩ := exists_model_of_source runs_of_sources.2
  obtain ⟨hchecks, hrefused⟩ := Prod.mk.inj hsaid
  rw [Bool.and_eq_true, List.isEmpty_iff] at hchecks
  obtain ⟨hfinite, htexts⟩ := hchecks
  have hcompile := compile_anmi_of_passed hp hv hpassed hm (List.all_eq_true.1 hfinite)
  have hread : ∀ db, Sql.run (Script.render (Anmi.statements p.toModel)) db =
      some (Script.execute (Anmi.statements p.toModel) db) :=
    fun db => run_render (Anmi.isUnderstood_statements (by simp [htexts]))
  cases hrun : Script.execute (Anmi.statements p.toModel) (fun _ => none) with
  | error e =>
    rw [hrun] at hrefused
    cases hrefused
  | ok db =>
    have hsame := hagain _ _ db hcompile ((hread _).trans (congrArg some hrun))
    rw [hread, Option.some.injEq] at hsame
    simp only [hrun, Except.toOption, Option.map_some, hsame, Option.isSome_some] at hrefused
    cases hrefused

end MediaLanguage
