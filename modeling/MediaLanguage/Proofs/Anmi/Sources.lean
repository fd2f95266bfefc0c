import MediaLanguage.Proofs.Anmi.Repetition
import MediaLanguage.Proofs.Occurrence

/-!
# Numbers of sources

The sources of figures have a table of their own, and a figure refers to its source by a number. Sources are numbered
in the order in which figures first name them; the numbers are given out before any statement is written, and the rows
of the sources and the statements of the figures look them up.

* `inFirstOrder_firstOccurrences`: the names of sources are collected in the order of their first occurrence.
* `insertsInto_sources` and `insertsInto_figures`: what a script writes into the tables of sources and of figures.
* `sources_interned`: the numbering is one to one, and the text has one row for each source; where comments stand on
  one line, every figure in the text refers to the row of its own source.
* `not_sources_interned`: what follows a line break in a comment may refer to a number that no source has.
-/

namespace MediaLanguage.Anmi

open Model Sql

/-! ## First occurrences -/

section FirstOrder

variable {xs ys : List String}

/-- The elements behind others that are in order already. -/
theorem inFirstOrder_append (h : InFirstOrder xs ys) (zs : List String) :
    InFirstOrder (xs ++ zs) (firstOccurrences ys zs) := by
  induction zs generalizing xs ys with
  | nil => rwa [List.append_nil]
  | cons s zs ih =>
    rw [firstOccurrences, List.append_cons]
    exact ih (h.append_singleton s)

theorem inFirstOrder_firstOccurrences (zs : List String) : InFirstOrder zs (firstOccurrences [] zs) :=
  inFirstOrder_append inFirstOrder_nil zs

end FirstOrder

/-! ## Numbers -/

/-- The sources that the figures of a model name, as often as they are named. -/
def namedSources (p : Program) : List String :=
  ((metrics p).map Metric.source).filter fun s => !s.isEmpty

/-- `ids` gives the elements of `xs` the numbers from one on, in the order of their first occurrence. -/
structure Numbers (xs : List String) (ids : List (String × Nat)) : Prop where
  names : InFirstOrder xs (ids.map Prod.fst)
  numbers : ids.map Prod.snd = List.range' 1 ids.length

theorem numbers_sources (p : Program) : Numbers (namedSources p) (sources p) where
  names := by
    rw [sources, List.zipIdx_map_fst]
    exact inFirstOrder_firstOccurrences _
  numbers := by
    rw [sources, List.zipIdx_map_snd, List.length_zipIdx]

section Numbers

variable {xs : List String} {ids : List (String × Nat)}

/-- No two elements share a number. -/
theorem Numbers.nodup_snd (h : Numbers xs ids) : (ids.map Prod.snd).Nodup := by
  rw [h.numbers]
  exact List.nodup_range'

/-- An element is found with its number, and no other element has that number. -/
theorem Numbers.exists_lookup (h : Numbers xs ids) {s : String} (hs : s ∈ xs) :
    ∃ n, ids.lookup s = some n ∧ (ids.filter fun x => x.2 == n) = [(s, n)] := by
  obtain ⟨⟨s, n⟩, hmem, rfl⟩ := List.mem_map.1 ((h.names.mem_iff s).2 hs)
  refine ⟨n, lookup_of_mem h.names.nodup hmem, ?_⟩
  obtain ⟨before, behind, rfl⟩ := List.append_of_mem hmem
  have hnumbers := h.nodup_snd
  simp only [List.map_append, List.map_cons, List.nodup_middle, List.nodup_cons, List.mem_append, not_or] at hnumbers
  have hother : ∀ l : List (String × Nat), n ∉ l.map Prod.snd → (l.filter fun x => x.2 == n) = [] := by
    intro l hl
    refine List.filter_eq_nil_iff.2 fun x hx hn => hl (List.mem_map.2 ⟨x, hx, by simpa using hn⟩)
  rw [List.filter_append, List.filter_cons, hother before hnumbers.1.1, hother behind hnumbers.1.2]
  simp

/-- What is not among the elements has no number. -/
theorem Numbers.lookup_eq_none (h : Numbers xs ids) {s : String} (hs : s ∉ xs) : ids.lookup s = none := by
  rw [List.lookup_eq_none_iff]
  intro x hx
  rw [bne_iff_ne]
  rintro rfl
  exact hs ((h.names.mem_iff _).1 (List.mem_map_of_mem hx))

end Numbers

/-! ## What a script writes -/

section Script

variable {p : Program} {st : Statement}

/-- The rows of vocabularies are not rows of sources. -/
theorem table?_vocabularyScript {v : Vocabulary} (hst : st ∈ vocabularyScript v) :
    st.table? ≠ some (qualified "sources_names") := by
  have htables : ∀ t ∈ vocabularyTables, qualified t.table ≠ qualified "sources_names" := by decide
  unfold vocabularyScript at hst
  split at hst
  · next t ht =>
    simp only [List.cons_append, List.mem_cons, List.mem_append, List.mem_filterMap, List.not_mem_nil,
      or_false] at hst
    obtain rfl | ⟨e, -, he⟩ | rfl := hst
    · exact fun h => by cases h
    · unfold entryRow? at he
      split at he
      · cases he
        exact fun h => htables t (List.mem_of_find?_eq_some ht) (Option.some.inj h)
      · cases he
    · exact fun h => by cases h
  · cases hst

/-- The rows of links are not rows of sources. -/
theorem table?_linkScript (hst : st ∈ linkScript p) : st.table? ≠ some (qualified "sources_names") := by
  have hdiachronic : ∀ t ∈ diachronicTables, qualified t.table ≠ qualified "sources_names" := by decide
  have hsynchronous : ∀ t ∈ synchronousTables, qualified t.table ≠ qualified "sources_names" := by decide
  simp only [linkScript, List.mem_append, List.mem_cons, List.not_mem_nil, or_false, List.mem_filterMap] at hst
  obtain (rfl | rfl | rfl) | ⟨l, -, hl⟩ := hst
  · exact fun h => by cases h
  · exact fun h => by cases h
  · exact fun h => by cases h
  · cases l with
    | diachronic l =>
      obtain ⟨t, ht, rfl⟩ := Option.map_eq_some_iff.1 hl
      exact fun h => hdiachronic t (List.mem_of_find?_eq_some ht) (Option.some.inj h)
    | synchronous l =>
      obtain ⟨t, ht, rfl⟩ := Option.map_eq_some_iff.1 hl
      exact fun h => hsynchronous t (List.mem_of_find?_eq_some ht) (Option.some.inj h)

/-- The statements of figures write no rows of sources. -/
theorem table?_dataScript (hst : st ∈ dataScript p) : st.table? ≠ some (qualified "sources_names") := by
  rw [dataScript_eq, List.mem_append] at hst
  obtain hst | hst := hst
  · simp only [dataHeader, List.mem_cons, List.not_mem_nil, or_false] at hst
    rcases hst with rfl | rfl | rfl | rfl <;> exact fun h => by cases h
  · obtain ⟨f, -, rfl⟩ := List.mem_map.1 hst
    cases hcolumn : metricColumn? f.metric with
    | none =>
      rw [Figure.statement, metricStatement, hcolumn]
      exact fun h => by cases h
    | some c =>
      obtain ⟨i, hstatement, htable, -⟩ := exists_insert (sources p) hcolumn
      have hother : qualified "mo_year" ≠ qualified "sources_names" := by decide
      rw [hstatement]
      exact fun h => hother (htable.symm.trans (Option.some.inj h))

/-- The definitions of tables insert nothing. -/
theorem insertsInto_tables (table : String) : Script.insertsInto table (headerScript ++ tableSchema) = [] := by
  refine List.filterMap_eq_nil_iff.2 fun st hst => ?_
  cases st with
  | insert i => exact absurd hst (insert_notMem_tables i)
  | _ => rfl

/-- Behind the definitions of tables rows are inserted in three parts. -/
theorem insertsInto_statements (table : String) (p : Program) :
    Script.insertsInto table (statements p) =
      Script.insertsInto table (outletScript p) ++ Script.insertsInto table (dataScript p) ++
        Script.insertsInto table (linkScript p) := by
  have htables := insertsInto_tables table
  rw [insertsInto_append] at htables
  unfold statements
  rw [insertsInto_append, insertsInto_append, insertsInto_append, insertsInto_append, htables, List.nil_append]

/-- The insertion of the row of a source. -/
def sourceInsert (source : String × Nat) : Insert where
  table := qualified "sources_names"
  columns := ["id_source", "source_name"]
  values := [.integer source.2, .text source.1]
  conflict := .skip

/-- Among the rows of vocabularies, sources and outlets each source has one. -/
theorem insertsInto_outletScript (p : Program) :
    Script.insertsInto (qualified "sources_names") (outletScript p) = (sources p).map sourceInsert := by
  have hvocabularies : Script.insertsInto (qualified "sources_names")
      ([Statement.comment "Media Outlet Data", .blank] ++ p.vocabularies.flatMap vocabularyScript) = [] := by
    refine insertsInto_eq_nil fun st hst => ?_
    simp only [List.mem_append, List.mem_cons, List.not_mem_nil, or_false, List.mem_flatMap] at hst
    obtain (rfl | rfl) | ⟨v, -, hst⟩ := hst
    · exact fun h => by cases h
    · exact fun h => by cases h
    · exact table?_vocabularyScript hst
  have hsources : Script.insertsInto (qualified "sources_names") (sourceScript p) = (sources p).map sourceInsert := by
    unfold sourceScript
    split
    · next hempty =>
      rw [List.isEmpty_iff.1 hempty]
      rfl
    · show Script.insertsInto _
        ([Statement.comment "Populate sources"] ++ (sources p).map sourceRow ++ [Statement.blank]) = _
      rw [insertsInto_append, insertsInto_append]
      show [] ++ ((sources p).map sourceRow).filterMap _ ++ [] = _
      rw [List.filterMap_map, ← List.filterMap_eq_map, List.nil_append, List.append_nil]
      rfl
  have houtlets : Script.insertsInto (qualified "sources_names") ([Statement.comment "Insert media outlets"] ++
      p.outlets.map fun o => (OutletRow.ofOutlet o).statement) = [] := by
    refine insertsInto_eq_nil fun st hst => ?_
    simp only [List.mem_append, List.mem_singleton, List.mem_map] at hst
    obtain rfl | ⟨o, -, rfl⟩ := hst
    · exact fun h => by cases h
    · have hother : qualified "mo_constant" ≠ qualified "sources_names" := by decide
      exact fun h => hother (Option.some.inj h)
  unfold outletScript
  rw [List.append_assoc, insertsInto_append, insertsInto_append, hvocabularies, hsources, houtlets, List.nil_append,
    List.append_nil]

/-- The script has a row for each source, and no other rows of sources. -/
theorem insertsInto_sources (p : Program) :
    Script.insertsInto (qualified "sources_names") (statements p) = (sources p).map sourceInsert := by
  have hdata := insertsInto_eq_nil fun st (hst : st ∈ dataScript p) => table?_dataScript hst
  have hlinks := insertsInto_eq_nil fun st (hst : st ∈ linkScript p) => table?_linkScript hst
  rw [insertsInto_statements, insertsInto_outletScript, hdata, hlinks, List.append_nil, List.append_nil]

/-- Only the statements of figures write the table of figures. -/
theorem insertsInto_figures (p : Program) :
    Script.insertsInto (qualified "mo_year") (statements p) =
      Script.insertsInto (qualified "mo_year") ((figures p).map (Figure.statement (sources p))) := by
  have houtlets := insertsInto_eq_nil fun st hst => (apart_outletScript p st hst).2
  have hlinks := insertsInto_eq_nil fun st hst => (apart_linkScript p st hst).2
  have hheader : Script.insertsInto (qualified "mo_year") (dataHeader p) = [] := rfl
  rw [insertsInto_statements, dataScript_eq, insertsInto_append, houtlets, hheader, hlinks, List.nil_append,
    List.nil_append, List.append_nil]

/-! ## What figures refer to -/

/-- A value refers to a source by the number that a row of sources gives it: an empty source has no value, and of the
rows exactly one has the value for its number, which has the name of the source. -/
structure RefersTo (rows : List (Row × Clause)) (source : String) (value : Cell) : Prop where
  missing_iff : value = .missing ↔ source = ""
  row : source ≠ "" → (rows.filter fun r => r.1.value? "id_source" == some value).map (·.1.value? "source_name") =
    [some (.text source)]

/-- The row is that of a figure with a column, or sets the columns of the figure if the row is there; either way the
column for the source refers to the source of the figure. -/
def Figure.Cites (rows : List (Row × Clause)) (f : Figure) (inserted : Row × Clause) : Prop :=
  ∃ c value, metricColumn? f.metric = some c ∧ inserted.1.value? (c.column ++ "_source") = some value ∧
    (∃ changes, inserted.2 = .update yearKey changes ∧ changes.lookup (c.column ++ "_source") = some value) ∧
    RefersTo rows f.metric.source value

theorem mem_namedSources {f : Figure} (hf : f ∈ figures p) (hsource : f.metric.source ≠ "") :
    f.metric.source ∈ namedSources p := by
  have hmetric : f.metric ∈ metrics p := by
    obtain ⟨d, hd, hf⟩ := List.mem_flatMap.1 hf
    obtain ⟨y, hy, hf⟩ := List.mem_flatMap.1 hf
    obtain ⟨m, hm, rfl⟩ := List.mem_map.1 hf
    exact List.mem_flatMap.2 ⟨d, hd, List.mem_flatMap.2 ⟨y, hy, hm⟩⟩
  exact List.mem_filter.2 ⟨List.mem_map_of_mem hmetric, by simpa using hsource⟩

theorem empty_notMem_namedSources : "" ∉ namedSources p := by
  simp [namedSources]

/-- The rows of sources as they are read. -/
def sourceRows (p : Program) : List (Row × Clause) :=
  (sources p).map fun s => ((sourceInsert s).row, .skip)

/-- The number of the source of a figure refers to the source. -/
theorem refersTo_sourceCell {f : Figure} (hf : f ∈ figures p) :
    RefersTo (sourceRows p) f.metric.source (sourceCell (sources p) f.metric) := by
  have hnumbers := numbers_sources p
  by_cases hsource : f.metric.source = ""
  · have hnone := hnumbers.lookup_eq_none empty_notMem_namedSources
    refine ⟨iff_of_true ?_ hsource, fun hne => absurd hsource hne⟩
    rw [sourceCell, sourceId?, hsource, hnone]
    rfl
  · obtain ⟨n, hlookup, hrow⟩ := hnumbers.exists_lookup (mem_namedSources hf hsource)
    have hcell : sourceCell (sources p) f.metric = .integer n := by
      rw [sourceCell, sourceId?, hlookup]
      rfl
    have hid : (fun s : String × Nat => (sourceInsert s).row.value? "id_source" == some (.integer n)) =
        fun s => s.2 == n := by
      funext s
      show (some (Cell.integer s.2) == some (Cell.integer n)) = _
      rw [Bool.eq_iff_iff, beq_iff_eq, beq_iff_eq, Option.some.injEq, integer_inj, Int.natCast_inj]
    rw [hcell]
    refine ⟨iff_of_false (fun h => by cases h) hsource, fun _ => ?_⟩
    rw [sourceRows, List.filter_map, Function.comp_def, hid, hrow]
    rfl

/-- The statement of a figure with a column refers to the source of the figure. -/
theorem exists_cites {f : Figure} (hf : f ∈ figures p) (hcolumn : f.hasColumn) :
    ∃ i, (f.statement (sources p)).insertInto? (qualified "mo_year") = some i ∧
      f.Cites (sourceRows p) (i.row, i.conflict.clause) := by
  obtain ⟨c, hc⟩ := Option.isSome_iff_exists.1 hcolumn
  obtain ⟨i, hstatement, htable, hentries, hclause⟩ := exists_insert (sources p) hc
  have hmem : c ∈ metricColumns := List.mem_of_find?_eq_some hc
  simp only [metricColumns, List.mem_cons, List.not_mem_nil, or_false] at hmem
  have hchanges : (f.changes (sources p)).lookup (c.column ++ "_source") =
      some (sourceCell (sources p) f.metric) := by
    rw [Figure.changes, hc]
    rcases hmem with rfl | rfl | rfl | rfl | rfl <;> rfl
  have hperiod : (periodEntries f.period).lookup (c.column ++ "_source") = none := by
    rcases hmem with rfl | rfl | rfl | rfl | rfl <;> rfl
  refine ⟨i, ?_, c, _, hc, ?_, ⟨_, hclause, hchanges⟩, refersTo_sourceCell hf⟩
  · rw [hstatement]
    exact if_pos htable
  · rw [Row.value?, hentries, List.lookup_append, hperiod, hchanges]
    rfl

/-- The statements of figures one by one. -/
theorem forall₂_cites {fs : List Figure} (hfs : ∀ f ∈ fs, f ∈ figures p) :
    List.Forall₂ (Figure.Cites (sourceRows p)) (fs.filter Figure.hasColumn)
      ((Script.insertsInto (qualified "mo_year") (fs.map (Figure.statement (sources p)))).map
        fun i => (i.row, i.conflict.clause)) := by
  induction fs with
  | nil => exact .nil
  | cons f fs ih =>
    obtain ⟨hf, hfs⟩ := List.forall_mem_cons.1 hfs
    unfold Script.insertsInto
    rw [List.map_cons, List.filter_cons]
    by_cases hcolumn : f.hasColumn
    · obtain ⟨i, hi, hcites⟩ := exists_cites hf hcolumn
      rw [if_pos hcolumn, List.filterMap_cons_some hi, List.map_cons]
      exact .cons hcites (ih hfs)
    · have hnone : (f.statement (sources p)).insertInto? (qualified "mo_year") = none := by
        have hmetric : metricColumn? f.metric = none := by simpa [Figure.hasColumn] using hcolumn
        rw [Figure.statement, metricStatement, hmetric]
        rfl
      rw [if_neg hcolumn, List.filterMap_cons_none hnone]
      exact ih hfs

/-- **Numbers of sources.** The sources of a model have the numbers from one on, in the order in which figures first
name them. The text of the rows of outlets has one row for each, with its number and name, and no other. If comments
show what stands on one line, the whole text has no other rows of sources, and a row of figures for every figure with a
column and no other; it refers to the row of the source of the figure, and to none exactly if the source is empty. -/
theorem sources_interned (p : Program) :
    Numbers (namedSources p) (sources p) ∧
    ∃ rows, readInserts (qualified "sources_names") (Script.render (outletScript p)) = some rows ∧
      rows.map (fun r => (r.1.value? "id_source", r.1.value? "source_name")) =
        (sources p).map (fun s => (some (.integer s.2), some (.text s.1))) ∧
      ((∀ s ∈ shownTexts p, OneLine s) →
        readInserts (qualified "sources_names") (Script.render (statements p)) = some rows ∧
        ∃ inserted, readInserts (qualified "mo_year") (Script.render (dataScript p)) = some inserted ∧
          readInserts (qualified "mo_year") (Script.render (statements p)) = some inserted ∧
          List.Forall₂ (Figure.Cites rows) ((figures p).filter Figure.hasColumn) inserted) := by
  have hrows : ((sources p).map sourceInsert).map (fun i => (i.row, i.conflict.clause)) = sourceRows p := by
    rw [List.map_map]
    rfl
  refine ⟨numbers_sources p, sourceRows p, ?_, ?_, fun hshown => ⟨?_, _, ?_, ?_, forall₂_cites fun f hf => hf⟩⟩
  · rw [readInserts_render (isUnderstood_outletScript p), insertsInto_outletScript, hrows]
  · rw [sourceRows, List.map_map]
    rfl
  · rw [readInserts_render (isUnderstood_statements hshown), insertsInto_sources, hrows]
  · rw [readInserts_render (isUnderstood_dataScript hshown), dataScript_eq, insertsInto_append]
    rfl
  · rw [readInserts_render (isUnderstood_statements hshown), insertsInto_figures]

/-- Two figures of one source refer to one row, and a figure of another source to another. -/
theorem sources_interned_spreadModel :
    (∀ s ∈ shownTexts spreadModel, OneLine s) ∧
    ∃ rows inserted, readInserts (qualified "sources_names") (Script.render (statements spreadModel)) = some rows ∧
      rows.map (fun r => (r.1.value? "id_source", r.1.value? "source_name")) =
        [(some (.integer 1), some (.text "survey")), (some (.integer 2), some (.text "audit"))] ∧
      readInserts (qualified "mo_year") (Script.render (statements spreadModel)) = some inserted ∧
      List.Forall₂ (Figure.Cites rows) ((figures spreadModel).filter Figure.hasColumn) inserted := by
  have hshown : ∀ s ∈ shownTexts spreadModel, OneLine s := by decide
  have hsources : sources spreadModel = [("survey", 1), ("audit", 2)] := by decide
  obtain ⟨-, rows, -, hnames, hwhole⟩ := sources_interned spreadModel
  obtain ⟨hrows, inserted, -, hinserted, hcites⟩ := hwhole hshown
  rw [hsources] at hnames
  exact ⟨hshown, rows, inserted, hrows, hnames, hinserted, hcites⟩

/-- Not in every row of figures that is read in the text of a model the source has a row of its own. -/
theorem not_sources_interned :
    ¬∀ source text p m rows inserted, compile source "sql_anmi" = .ok text → parse source = .ok p → p.lower = .ok m →
      readInserts (qualified "sources_names") (Script.render (outletScript m)) = some rows →
      readInserts (qualified "mo_year") (Script.render (dataScript m)) = some inserted →
      ∀ x ∈ inserted, ∀ value, x.1.value? "circulation_source" = some value → value ≠ .missing →
        ∃ r ∈ rows, r.1.value? "id_source" = some value := by
  intro hrefer
  obtain ⟨p, hp, hm, hcompile, -, -, hsources, hinserted, -⟩ := exists_model_forgedSource
  obtain ⟨inserted, hread, hvalues⟩ := Option.map_eq_some_iff.1 hinserted
  obtain ⟨x, rfl, hvalue⟩ := List.map_eq_singleton_iff.1 hvalues
  have hrows : readInserts (qualified "sources_names") (Script.render (outletScript p.toModel)) =
      some (sourceRows p.toModel) := by
    rw [readInserts_render (isUnderstood_outletScript _), insertsInto_outletScript, List.map_map]
    rfl
  obtain ⟨r, hr, hid⟩ :=
    hrefer _ _ p _ _ _ hcompile hp hm hrows hread x (List.mem_singleton_self x) _ hvalue (fun h => by cases h)
  obtain ⟨s, hs, rfl⟩ := List.mem_map.1 hr
  have hone : s.2 = 1 := by
    have hmem : s.2 ∈ (sources p.toModel).map Prod.snd := List.mem_map_of_mem hs
    rw [hsources] at hmem
    exact List.mem_singleton.1 hmem
  have hnumber : (s.2 : Int) = 42 := integer_inj.1 (Option.some.inj hid)
  omega

end Script

end MediaLanguage.Anmi
