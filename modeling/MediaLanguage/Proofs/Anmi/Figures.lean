import MediaLanguage.Proofs.Anmi.Reading

/-!
# Figures that share a row

All figures of an outlet in a year go to one row of the table of figures, each to columns of its own. A figure finds the
row by the outlet and the year, whatever block of data it stands in; the first makes the row, and a later one with the
same name takes the place of an earlier one.

* `figureTable`: the table behind some figures, read off the figures: a row for each outlet and year, and in each column
  the last figure that goes there.
* `execute_figure`: the statement of one more figure leads from the table of the figures in front of it to that of all.
* `execute_dataScript`: what the statements of all figures do.
* `figures_merged`: the rows and their columns that the text of the figures leaves, for every model whose figures are
  finite and whose comments stand on one line.
* `not_figures_merged`: what follows a line break in the source of a figure without a column is a statement of its own.
-/

namespace MediaLanguage.Anmi

open Model Sql

/-! ## Figures -/

/-- A figure with the outlet and the year that it is for. -/
structure Figure where
  outlet : Int
  year : Int
  metric : Metric

/-- The figures of a model, in order. -/
def figures (p : Program) : List Figure :=
  p.data.flatMap fun d => d.years.flatMap fun y => y.metrics.map fun m => ⟨d.outlet, y.year, m⟩

/-- The value that a column holds of a figure. -/
def MetricColumn.cell (c : MetricColumn) (m : Metric) : Cell :=
  if c.integer then .integer m.value.integerPart else .number m.value.text

/-- The number of the source of a figure. -/
def sourceCell (sources : List (String × Nat)) (m : Metric) : Cell :=
  ((sourceId? sources m.source).map fun n => Cell.integer n).getD .missing

namespace Figure

/-- The outlet and the year of a figure. -/
def period (f : Figure) : Int × Int :=
  (f.outlet, f.year)

/-- Whether a figure has a column. -/
def hasColumn (f : Figure) : Bool :=
  (metricColumn? f.metric).isSome

/-- The statement for a figure. -/
def statement (sources : List (String × Nat)) (f : Figure) : Statement :=
  metricStatement sources f.outlet f.year f.metric

/-- The columns that a figure sets. -/
def changes (sources : List (String × Nat)) (f : Figure) : List (String × Cell) :=
  match metricColumn? f.metric with
  | none => []
  | some c => [(c.column, c.cell f.metric), (c.column ++ "_source", sourceCell sources f.metric)]

end Figure

/-- The last figure with a name of an outlet in a year. -/
def lastFigure? (fs : List Figure) (period : Int × Int) (name : String) : Option Metric :=
  ((fs.filter fun f => f.period == period && f.metric.name == name).map Figure.metric).getLast?

/-! ## The table that figures make -/

/-- The outlets and years that figures with a column are for, in the order of their first figures. -/
def periods (fs : List Figure) : List (Int × Int) :=
  fs.foldl (fun seen f => if f.hasColumn && !seen.contains f.period then seen ++ [f.period] else seen) []

/-- A column for figures with a name. -/
structure Slot where
  column : String
  metric : String
  cell : Metric → Cell

/-- The columns for the figures of one name: one of them for the source. -/
def MetricColumn.slots (sources : List (String × Nat)) (c : MetricColumn) : List Slot :=
  [⟨c.column, c.metric, c.cell⟩, ⟨c.column ++ "_source", c.metric, sourceCell sources⟩]

/-- The columns for figures. -/
def slots (sources : List (String × Nat)) : List Slot :=
  metricColumns.flatMap (MetricColumn.slots sources)

/-- The columns that every row of an outlet and a year has. -/
def periodEntries (period : Int × Int) : List (String × Cell) :=
  [("id_mo", .integer period.1), ("year", .integer period.2), ("mo_year", .integer (period.1 * 10000 + period.2)),
    ("calc", .integer 0)]

/-- What figures leave in a column of the row of an outlet and a year. -/
def yearValue (sources : List (String × Nat)) (fs : List Figure) (period : Int × Int) (column : String) : Cell :=
  match (slots sources).find? fun s => s.column == column with
  | some s => ((lastFigure? fs period s.metric).map s.cell).getD .missing
  | none => ((periodEntries period).lookup column).getD .missing

/-- The row of an outlet and a year. -/
def yearRow (sources : List (String × Nat)) (fs : List Figure) (period : Int × Int) : Tuple :=
  .ofValues moYearTable.columns (yearValue sources fs period)

/-- The table of some figures. -/
def figureTable (sources : List (String × Nat)) (fs : List Figure) : Relation where
  columns := moYearTable.columns
  key := moYearTable.key
  rows := (periods fs).map (yearRow sources fs)

/-! ## Columns of figures -/

/-- Different integers are written differently. -/
theorem integer_inj {a b : Int} : Cell.integer a = .integer b ↔ a = b := by
  rw [Cell.integer, Cell.integer, Cell.number.injEq]
  exact Int.repr_inj

section Columns

variable {sources : List (String × Nat)} {fs gs : List Figure} {f : Figure} {period : Int × Int} {column name : String}

theorem lastFigure?_append :
    lastFigure? (fs ++ gs) period name = (lastFigure? gs period name).or (lastFigure? fs period name) := by
  unfold lastFigure?
  rw [List.filter_append, List.map_append, List.getLast?_append]

theorem lastFigure?_append_singleton :
    lastFigure? (fs ++ [f]) period name =
      if f.period = period ∧ f.metric.name = name then some f.metric else lastFigure? fs period name := by
  rw [lastFigure?_append]
  by_cases h : f.period = period ∧ f.metric.name = name
  · simp [lastFigure?, h]
  · simp [lastFigure?, h]

/-- No column for figures is one that every row has. -/
theorem lookup_periodEntries {s : Slot} (h : (slots sources).find? (fun s => s.column == column) = some s) :
    (periodEntries period).lookup column = none := by
  obtain rfl : s.column = column := by simpa using List.find?_some h
  have hcolumns : ∀ c ∈ metricColumns, (periodEntries period).lookup c.column = none ∧
      (periodEntries period).lookup (c.column ++ "_source") = none := by
    intro c hc
    simp only [metricColumns, List.mem_cons, List.not_mem_nil, or_false] at hc
    rcases hc with rfl | rfl | rfl | rfl | rfl <;> exact ⟨rfl, rfl⟩
  obtain ⟨c, hc, hs⟩ := List.mem_flatMap.1 (List.mem_of_find?_eq_some h)
  obtain rfl | rfl := List.mem_pair.1 hs
  · exact (hcolumns c hc).1
  · exact (hcolumns c hc).2

/-- The columns for one name among different columns. -/
theorem lookup_filter_slots {l : List Slot} (hnodup : (l.map Slot.column).Nodup) (m : Metric) :
    ((l.filter fun s => s.metric == name).map fun s => (s.column, s.cell m)).lookup column =
      (l.find? fun s => s.column == column).bind fun s => if s.metric = name then some (s.cell m) else none := by
  induction l with
  | nil => rfl
  | cons s l ih =>
    obtain ⟨hnew, hrest⟩ := List.nodup_cons.1 hnodup
    by_cases hcolumn : s.column = column
    · -- the column is not looked up in the rest, which does not have it
      have hnone : (l.find? fun s => s.column == column) = none := by
        rw [List.find?_eq_none]
        intro other hother
        have hne : other.column ≠ column := fun h => hnew (List.mem_map.2 ⟨other, hother, h.trans hcolumn.symm⟩)
        simpa using hne
      rw [List.find?_cons_of_pos (by simpa using hcolumn), List.filter_cons]
      by_cases hname : s.metric = name
      · simp [hname, hcolumn]
      · simp [hname, ih hrest, hnone]
    · rw [List.find?_cons_of_neg (by simpa using hcolumn), ← ih hrest, List.filter_cons]
      by_cases hname : s.metric = name
      · simp [hname, List.lookup_cons, beq_false_of_ne (Ne.symm hcolumn)]
      · simp [hname]

/-- The columns of the first of several names that are different. -/
theorem filter_flatMap_slots {l : List MetricColumn} (hnodup : (l.map MetricColumn.metric).Nodup) :
    ((l.flatMap (MetricColumn.slots sources)).filter fun s => s.metric == name) =
      match l.find? fun c => c.metric == name with
      | none => []
      | some c => c.slots sources := by
  induction l with
  | nil => rfl
  | cons c l ih =>
    obtain ⟨hnew, hrest⟩ := List.nodup_cons.1 hnodup
    rw [List.flatMap_cons, List.filter_append, ih hrest]
    by_cases hname : c.metric = name
    · have hnone : (l.find? fun c => c.metric == name) = none := by
        rw [List.find?_eq_none]
        intro other hother
        have hne : other.metric ≠ name := fun h => hnew (List.mem_map.2 ⟨other, hother, h.trans hname.symm⟩)
        simpa using hne
      rw [hnone, List.find?_cons_of_pos (by simpa using hname)]
      simp [MetricColumn.slots, hname]
    · rw [List.find?_cons_of_neg (by simpa using hname)]
      simp [MetricColumn.slots, hname]

/-- A figure sets the columns for its name. -/
theorem lookup_changes :
    (f.changes sources).lookup column =
      ((slots sources).find? fun s => s.column == column).bind fun s =>
        if s.metric = f.metric.name then some (s.cell f.metric) else none := by
  have hchanges : f.changes sources =
      ((slots sources).filter fun s => s.metric == f.metric.name).map fun s => (s.column, s.cell f.metric) := by
    rw [slots, filter_flatMap_slots (by decide), Figure.changes, metricColumn?]
    cases metricColumns.find? fun c => c.metric == f.metric.name <;> rfl
  rw [hchanges]
  refine lookup_filter_slots ?_ f.metric
  show (["circulation", "circulation_source", "unique_users", "unique_users_source", "reach_nat", "reach_nat_source",
    "reach_reg", "reach_reg_source", "market_share", "market_share_source"] : List String).Nodup
  decide

/-- One more figure changes its columns in the row of its outlet and year. -/
theorem yearValue_append_singleton :
    yearValue sources (fs ++ [f]) period column =
      if f.period = period then ((f.changes sources).lookup column).getD (yearValue sources fs period column)
      else yearValue sources fs period column := by
  unfold yearValue
  rw [lookup_changes]
  cases (slots sources).find? fun s => s.column == column with
  | none => simp
  | some s =>
    simp only [Option.bind_some, lastFigure?_append_singleton]
    by_cases hperiod : f.period = period
    · by_cases hname : s.metric = f.metric.name
      · simp [hperiod, hname]
      · simp [hperiod, hname, Ne.symm hname]
    · simp [hperiod]

end Columns

/-! ## One more figure -/

section Step

variable {sources : List (String × Nat)} {fs gs : List Figure} {f : Figure} {period : Int × Int} {db : Database}

theorem periods_append_singleton :
    periods (fs ++ [f]) =
      if f.hasColumn && !(periods fs).contains f.period then periods fs ++ [f.period] else periods fs := by
  unfold periods
  rw [List.foldl_append]
  rfl

theorem mem_periods : period ∈ periods fs ↔ ∃ f ∈ fs, f.hasColumn ∧ f.period = period := by
  induction fs using List.reverseRecOn with
  | nil => simp [periods]
  | append_singleton fs f ih =>
    rw [periods_append_singleton]
    by_cases hnew : f.hasColumn = true ∧ f.period ∉ periods fs
    · rw [if_pos (by simpa using hnew), List.mem_append, ih, List.mem_singleton]
      grind
    · rw [if_neg (by simpa using hnew), ih]
      grind

theorem nodup_periods (fs : List Figure) : (periods fs).Nodup := by
  induction fs using List.reverseRecOn with
  | nil => exact List.nodup_nil
  | append_singleton fs f ih =>
    rw [periods_append_singleton]
    by_cases hnew : f.hasColumn = true ∧ f.period ∉ periods fs
    · rw [if_pos (by simpa using hnew)]
      exact List.nodup_append.2 ⟨ih, List.nodup_singleton _, by grind⟩
    · rw [if_neg (by simpa using hnew)]
      exact ih

/-- The columns that identify the row of an outlet and a year. -/
theorem values_yearRow :
    (yearRow sources fs period).values yearKey =
      [.integer period.1, .integer period.2, .integer (period.1 * 10000 + period.2)] := by
  unfold yearRow
  rw [values_ofValues (by decide)]
  rfl

theorem values_yearRow_eq_iff {other : Int × Int} :
    (yearRow sources fs period).values yearKey = (yearRow sources gs other).values yearKey ↔ period = other := by
  rw [values_yearRow, values_yearRow]
  constructor
  · intro h
    injection h with houtlet h
    injection h with hyear h
    exact Prod.ext (integer_inj.1 houtlet) (integer_inj.1 hyear)
  · rintro rfl
    rfl

/-- A row is there for every outlet and year of the figures. -/
theorem holds_figureTable :
    (figureTable sources fs).holds yearKey ((yearRow sources gs period).values yearKey) =
      (periods fs).contains period := by
  unfold Relation.holds figureTable
  rw [List.any_map, List.contains_eq_any_beq]
  congr 1
  funext other
  rw [Bool.eq_iff_iff, Function.comp_apply, beq_iff_eq, beq_iff_eq, values_yearRow_eq_iff]
  exact eq_comm

/-- The row that the first figure of an outlet and a year makes. -/
theorem yearRow_of_notMem (hnew : f.period ∉ periods fs) :
    yearRow sources (fs ++ [f]) f.period =
      .ofValues moYearTable.columns fun c =>
        ((periodEntries f.period ++ f.changes sources).lookup c).getD .missing := by
  -- no figure in front has written a column for this outlet and year
  have hnone : ∀ s ∈ slots sources, lastFigure? fs f.period s.metric = none := by
    intro s hs
    obtain ⟨c, hc, hpair⟩ := List.mem_flatMap.1 hs
    have hmetric : c.metric = s.metric := by
      obtain rfl | rfl := List.mem_pair.1 hpair <;> rfl
    have hempty : (fs.filter fun g => g.period == f.period && g.metric.name == s.metric) = [] := by
      rw [List.filter_eq_nil_iff]
      intro g hg hboth
      obtain ⟨hperiod, hname⟩ : g.period = f.period ∧ g.metric.name = s.metric := by simpa using hboth
      refine hnew (mem_periods.2 ⟨g, hg, ?_, hperiod⟩)
      refine List.find?_isSome.2 ⟨c, hc, ?_⟩
      rw [hmetric, hname]
      exact beq_self_eq_true _
    rw [lastFigure?, hempty]
    rfl
  refine ofValues_congr fun column _ => ?_
  rw [yearValue_append_singleton, if_pos rfl, List.lookup_append]
  unfold yearValue
  cases hslot : (slots sources).find? fun s => s.column == column with
  | none =>
    rw [lookup_changes, hslot]
    simp
  | some s =>
    rw [lookup_periodEntries hslot]
    simp [hnone s (List.mem_of_find?_eq_some hslot)]

/-- A figure changes the row of its outlet and year. -/
theorem yearRow_append_singleton :
    yearRow sources (fs ++ [f]) period =
      if f.period = period then (yearRow sources fs period).set (f.changes sources) else yearRow sources fs period := by
  unfold yearRow
  split
  · next hperiod =>
    rw [set_ofValues]
    refine ofValues_congr fun column _ => ?_
    rw [yearValue_append_singleton, if_pos hperiod]
  · next hperiod =>
    refine ofValues_congr fun column _ => ?_
    rw [yearValue_append_singleton, if_neg hperiod]

/-- A figure without a column leaves the table as it is. -/
theorem figureTable_of_not_hasColumn (h : metricColumn? f.metric = none) :
    figureTable sources (fs ++ [f]) = figureTable sources fs := by
  have hcolumn : f.hasColumn = false := by rw [Figure.hasColumn, h, Option.isSome_none]
  have hchanges : f.changes sources = [] := by rw [Figure.changes, h]
  have hrow : yearRow sources (fs ++ [f]) = yearRow sources fs := by
    funext period
    rw [yearRow_append_singleton, hchanges]
    unfold yearRow
    rw [set_ofValues]
    exact ite_self _
  rw [figureTable, figureTable, periods_append_singleton, hcolumn, hrow]
  rfl

/-- A figure of an outlet and a year that have a row. -/
theorem figureTable_of_mem (h : f.period ∈ periods fs) :
    figureTable sources (fs ++ [f]) =
      (figureTable sources fs).change yearKey ((yearRow sources fs f.period).values yearKey) (f.changes sources) := by
  have hperiods : periods (fs ++ [f]) = periods fs := by
    rw [periods_append_singleton, if_neg (by simp [h])]
  unfold figureTable Relation.change
  rw [hperiods, List.map_map]
  congr 1
  refine List.map_congr_left fun period _ => ?_
  rw [yearRow_append_singleton, Function.comp_apply]
  by_cases hperiod : f.period = period
  · rw [if_pos hperiod, if_pos (by rw [hperiod])]
  · rw [if_neg hperiod, if_neg (mt values_yearRow_eq_iff.1 (Ne.symm hperiod))]

/-- The first figure of an outlet and a year. -/
theorem figureTable_of_notMem (hcolumn : f.hasColumn) (h : f.period ∉ periods fs) :
    figureTable sources (fs ++ [f]) = (figureTable sources fs).add (yearRow sources (fs ++ [f]) f.period) := by
  have hperiods : periods (fs ++ [f]) = periods fs ++ [f.period] := by
    rw [periods_append_singleton, if_pos (by simp [hcolumn, h])]
  unfold figureTable Relation.add
  rw [hperiods, List.map_append, List.map_singleton]
  congr 2
  refine List.map_congr_left fun period hperiod => ?_
  rw [yearRow_append_singleton, if_neg]
  rintro rfl
  exact h hperiod

/-- The statement of a figure with a column inserts its row, or sets its columns in the row that is there. -/
theorem exists_insert (sources : List (String × Nat)) {c : MetricColumn} (h : metricColumn? f.metric = some c) :
    ∃ i, f.statement sources = .insert i ∧ i.table = qualified "mo_year" ∧
      i.row.cells = periodEntries f.period ++ f.changes sources ∧
      i.conflict.clause = .update yearKey (f.changes sources) := by
  have hvalue : (if c.integer then Term.integer f.metric.value.integerPart else .number f.metric.value).cell =
      c.cell f.metric :=
    apply_ite Term.cell _ _ _
  have hsource : (Term.optionalInteger ((sourceId? sources f.metric.source).map Int.ofNat)).cell =
      sourceCell sources f.metric := by
    unfold sourceCell
    cases sourceId? sources f.metric.source <;> rfl
  unfold Figure.statement metricStatement Figure.changes
  rw [h]
  refine ⟨_, rfl, rfl, ?_, ?_⟩
  · show [_, _, _, _, (c.column, Term.cell _), (c.column ++ "_source", Term.cell _)] = _
    rw [hvalue, hsource]
    rfl
  · show Clause.update yearKey [(c.column, Term.cell _), (c.column ++ "_source", Term.cell _)] = _
    rw [hvalue, hsource]

/-- The row that a figure asks for. -/
theorem tuple_figure (fs : List Figure) {i : Insert}
    (h : i.row.cells = periodEntries f.period ++ f.changes sources) :
    (i.row.tuple moYearTable.columns).values yearKey = (yearRow sources fs f.period).values yearKey ∧
      (f.period ∉ periods fs → i.row.tuple moYearTable.columns = yearRow sources (fs ++ [f]) f.period) := by
  unfold Row.tuple
  rw [h]
  constructor
  · rw [values_ofValues (by decide), values_yearRow]
    rfl
  · intro hnew
    rw [yearRow_of_notMem hnew]

/-- The statement of a figure leads to the table with one figure more. -/
theorem execute_figure (h : db (qualified "mo_year") = some (figureTable sources fs)) :
    (f.statement sources).execute db =
      .ok (Function.update db (qualified "mo_year") (some (figureTable sources (fs ++ [f])))) := by
  cases hcolumn : metricColumn? f.metric with
  | none =>
    rw [figureTable_of_not_hasColumn hcolumn, Function.update_eq_self_iff.2 h.symm, Figure.statement, metricStatement,
      hcolumn]
    rfl
  | some c =>
    obtain ⟨i, hstatement, htable, hentries, hconflict⟩ := exists_insert sources hcolumn
    obtain ⟨hvalues, hrow⟩ := tuple_figure fs hentries
    rw [hstatement, ← htable]
    refine execute_insert (htable ▸ h) ?_
    rw [hconflict]
    refine (Relation.insert?_of_update (figureTable sources fs) i.row _).trans ?_
    show some (if (figureTable sources fs).holds yearKey ((i.row.tuple moYearTable.columns).values yearKey) then
      (figureTable sources fs).change yearKey ((i.row.tuple moYearTable.columns).values yearKey) _ else
      (figureTable sources fs).add (i.row.tuple moYearTable.columns)) = _
    rw [hvalues, holds_figureTable]
    by_cases hmem : f.period ∈ periods fs
    · rw [if_pos (by simpa using hmem), figureTable_of_mem hmem]
    · rw [if_neg (by simpa using hmem), figureTable_of_notMem (by rw [Figure.hasColumn, hcolumn]; rfl) hmem, hrow hmem]

/-- The statements of some figures behind others. -/
theorem execute_figures (h : db (qualified "mo_year") = some (figureTable sources gs)) :
    Script.execute (fs.map (Figure.statement sources)) db =
      .ok (Function.update db (qualified "mo_year") (some (figureTable sources (gs ++ fs)))) := by
  induction fs generalizing gs db with
  | nil => rw [List.append_nil, Function.update_eq_self_iff.2 h.symm, List.map_nil, execute_nil]
  | cons f fs ih =>
    refine execute_cons_eq_ok.2 ⟨_, execute_figure h, ?_⟩
    have hnext :
        Function.update db (qualified "mo_year") (some (figureTable sources (gs ++ [f]))) (qualified "mo_year") =
        some (figureTable sources (gs ++ [f])) := Function.update_self ..
    rw [ih hnext, Function.update_idem, List.append_assoc, List.singleton_append]

/-- Figures of outlets and years that have rows need no more rows. -/
theorem periods_append_of_mem (h : ∀ f ∈ gs, f.hasColumn → f.period ∈ periods fs) :
    periods (fs ++ gs) = periods fs := by
  induction gs using List.reverseRecOn with
  | nil => rw [List.append_nil]
  | append_singleton gs f ih =>
    obtain ⟨hgs, hf⟩ := List.forall_mem_append.1 h
    rw [← List.append_assoc, periods_append_singleton, ih hgs, if_neg]
    have hmem := hf f (List.mem_singleton_self f)
    simpa using hmem

/-- Figures that come a second time leave the table as it is. -/
theorem figureTable_append_self : figureTable sources (fs ++ fs) = figureTable sources fs := by
  have hperiods : periods (fs ++ fs) = periods fs :=
    periods_append_of_mem fun f hf hcolumn => mem_periods.2 ⟨f, hf, hcolumn, rfl⟩
  have hrow : yearRow sources (fs ++ fs) = yearRow sources fs := by
    funext period
    refine ofValues_congr fun column _ => ?_
    simp only [yearValue, lastFigure?_append, Option.or_self]
  rw [figureTable, figureTable, hperiods, hrow]

end Step

/-! ## All figures -/

section Script

variable {p : Program} {db : Database}

/-- What stands in front of the statements of the figures. -/
def dataHeader (p : Program) : Script :=
  [.blank, .comment "Market Data", .blank,
    .comment s!"Debug: Found {p.data.length} data blocks across {p.families.length} families"]

/-- The script of the figures has a statement for each. -/
theorem dataScript_eq (p : Program) :
    dataScript p = dataHeader p ++ (figures p).map (Figure.statement (sources p)) := by
  unfold dataScript dataStatements figures
  simp only [List.map_flatMap, List.map_map]
  rfl

/-- What the statements of all figures do to the table of figures. -/
theorem execute_dataScript {gs : List Figure} (h : db (qualified "mo_year") = some (figureTable (sources p) gs)) :
    Script.execute (dataScript p) db =
      .ok (Function.update db (qualified "mo_year") (some (figureTable (sources p) (gs ++ figures p)))) := by
  rw [dataScript_eq]
  exact execute_figures h

/-- The value of a column for figures in the row of an outlet and a year. -/
theorem value_yearRow {sources : List (String × Nat)} {fs : List Figure} {period : Int × Int} {c : MetricColumn}
    (hc : c ∈ metricColumns) :
    (yearRow sources fs period).value c.column = ((lastFigure? fs period c.metric).map c.cell).getD .missing ∧
      (yearRow sources fs period).value (c.column ++ "_source") =
        ((lastFigure? fs period c.metric).map (sourceCell sources)).getD .missing := by
  have hcolumns : ∀ c ∈ metricColumns,
      c.column ∈ moYearTable.columns ∧ c.column ++ "_source" ∈ moYearTable.columns := by
    decide
  unfold yearRow
  rw [value_ofValues (hcolumns c hc).1, value_ofValues (hcolumns c hc).2]
  simp only [metricColumns, List.mem_cons, List.not_mem_nil, or_false] at hc
  rcases hc with rfl | rfl | rfl | rfl | rfl <;> exact ⟨rfl, rfl⟩

/-- The rows hold the figures of a model: there is one row for each outlet and year that has a figure with a column, and
in it the value and the source of the last figure of each name; columns without a figure are missing. -/
structure HoldFigures (p : Program) (rows : List Tuple) : Prop where
  count : ∀ outlet year,
    (rows.countP fun row => row.values ["id_mo", "year"] == [.integer outlet, .integer year]) =
      if (figures p).any fun f => f.hasColumn && f.period == (outlet, year) then 1 else 0
  values : ∀ row ∈ rows, ∃ outlet year, row.values ["id_mo", "year"] = [.integer outlet, .integer year] ∧
    ∀ c ∈ metricColumns,
      row.value c.column = ((lastFigure? (figures p) (outlet, year) c.metric).map c.cell).getD .missing ∧
      row.value (c.column ++ "_source") =
        ((lastFigure? (figures p) (outlet, year) c.metric).map (sourceCell (sources p))).getD .missing

theorem holdFigures_yearRows (p : Program) :
    HoldFigures p ((periods (figures p)).map (yearRow (sources p) (figures p))) := by
  have hvalues : ∀ period : Int × Int, (yearRow (sources p) (figures p) period).values ["id_mo", "year"] =
      [.integer period.1, .integer period.2] := by
    intro period
    unfold yearRow
    rw [values_ofValues (by decide)]
    rfl
  constructor
  · intro outlet year
    have hcount : ((periods (figures p)).map (yearRow (sources p) (figures p))).countP
        (fun row => row.values ["id_mo", "year"] == [.integer outlet, .integer year]) =
        (periods (figures p)).count (outlet, year) := by
      rw [List.countP_map, List.count_eq_countP]
      refine List.countP_congr fun period _ => ?_
      simp [hvalues, integer_inj, Prod.ext_iff]
    rw [hcount]
    by_cases hmem : (outlet, year) ∈ periods (figures p)
    · rw [List.count_eq_one_of_mem (nodup_periods _) hmem, if_pos]
      simpa [mem_periods] using hmem
    · rw [List.count_eq_zero_of_not_mem hmem, if_neg]
      simpa [mem_periods] using hmem
  · intro row hrow
    obtain ⟨period, -, rfl⟩ := List.mem_map.1 hrow
    exact ⟨period.1, period.2, hvalues period, fun c hc => value_yearRow hc⟩

/-- The text of the figures is a script, and run on an empty table it leaves rows that hold the figures, if no source,
name or unit of a figure without a column has a line break. -/
theorem figures_merged (hfinite : ∀ m ∈ metrics p, m.value.isFinite) (hshown : ∀ s ∈ shownTexts p, OneLine s)
    (hempty : db (qualified "mo_year") = some moYearTable.empty) :
    Number.requireIntegers (integerMetrics p) = .ok () ∧
      ∃ rows, run (Script.render (dataScript p)) db =
          some (.ok (Function.update db (qualified "mo_year") (some { moYearTable.empty with rows }))) ∧
        HoldFigures p rows := by
  refine ⟨Number.requireIntegers_of_finite ?_, (periods (figures p)).map (yearRow (sources p) (figures p)), ?_,
    holdFigures_yearRows p⟩
  · intro x hx
    obtain ⟨m, hm, rfl⟩ := List.mem_map.1 hx
    exact hfinite m (List.mem_filter.1 hm).1
  · have htable : db (qualified "mo_year") = some (figureTable (sources p) []) := hempty
    have hrun := congrArg some (execute_dataScript htable)
    exact (run_render (isUnderstood_dataScript hshown)).trans hrun

/-- Two families with data of one outlet in one year: a figure that comes twice, one beside it and one without a
column. -/
def spreadModel : Program where
  families := [
    { name := "F"
      data := [{ outlet := 1
                 years := [⟨2020, [{ name := "circulation", value := .ofNat 5, source := "survey" },
                   { name := "market_share", value := .ofNat 3, source := "survey" }], none⟩] }] },
    { name := "G"
      data := [{ outlet := 1
                 years := [⟨2020, [{ name := "circulation", value := .ofNat 7, source := "audit" },
                   { name := "revenue", value := .ofNat 9 }], none⟩] }] }]

/-- The figures share a row, in which the later of the two that have one name stands. -/
theorem figures_merged_spreadModel :
    (∀ m ∈ metrics spreadModel, m.value.isFinite) ∧ (∀ s ∈ shownTexts spreadModel, OneLine s) ∧
      ∃ rows, run (Script.render (dataScript spreadModel)) (fun _ => some moYearTable.empty) =
          some (.ok (Function.update (fun _ => some moYearTable.empty) (qualified "mo_year")
            (some { moYearTable.empty with rows }))) ∧
        (rows.countP fun row => row.values ["id_mo", "year"] == [.integer 1, .integer 2020]) = 1 ∧
        ∀ row ∈ rows, row.values ["id_mo", "year"] = [.integer 1, .integer 2020] →
          row.value "circulation" = .integer 7 ∧ row.value "circulation_source" = .integer 2 ∧
          row.value "market_share" = .number "3" ∧ row.value "reach_nat" = .missing := by
  have hfinite : ∀ m ∈ metrics spreadModel, m.value.isFinite := by decide
  have hshown : ∀ s ∈ shownTexts spreadModel, OneLine s := by decide
  obtain ⟨-, rows, hrun, hrows⟩ := @figures_merged spreadModel (fun _ => some moYearTable.empty) hfinite hshown rfl
  refine ⟨hfinite, hshown, rows, hrun, hrows.count 1 2020, ?_⟩
  intro row hrow hperiod
  obtain ⟨outlet, year, hperiod', hcolumns⟩ := hrows.values row hrow
  obtain ⟨rfl, rfl⟩ : outlet = 1 ∧ year = 2020 := by
    rw [hperiod] at hperiod'
    injection hperiod' with houtlet hrest
    injection hrest with hyear
    exact ⟨(integer_inj.1 houtlet).symm, (integer_inj.1 hyear).symm⟩
  obtain ⟨hcirculation, hsource⟩ := hcolumns ⟨"circulation", "circulation", true⟩ (by simp [metricColumns])
  obtain ⟨hshare, -⟩ := hcolumns ⟨"market_share", "market_share", false⟩ (by simp [metricColumns])
  obtain ⟨hreach, -⟩ := hcolumns ⟨"reach_national", "reach_nat", false⟩ (by simp [metricColumns])
  refine ⟨hcirculation.trans ?_, hsource.trans ?_, hshare.trans ?_, hreach⟩ <;> decide

/-! ## Line breaks in comments -/

/-- A figure without a column whose source goes on with a statement behind a line break. -/
def forgedSource : String :=
  "FAMILY \"F\" \x7b OUTLET \"A\" \x7b identity \x7b id = 1; \x7d; \x7d; DATA FOR 1 \x7b YEAR 2020 \x7b METRICS \x7b "
    ++ "audience = \x7b value = 1; source = \"x\\nINSERT INTO graphv3.mo_year "
    ++ "(id_mo, year, mo_year, circulation_source) VALUES (1, 2020, 12020, 42); --\"; \x7d; \x7d; \x7d; \x7d; \x7d"

/-- The text compiles, and none of its figures has a column. Still a row of figures is read in its script, with a source
that has no number. -/
theorem exists_model_forgedSource :
    ∃ p, parse forgedSource = .ok p ∧ p.lower = .ok p.toModel ∧
      compile forgedSource "sql_anmi" = .ok (Script.render (statements p.toModel)) ∧
      (∀ m ∈ metrics p.toModel, m.value.isFinite) ∧ (∀ f ∈ figures p.toModel, f.hasColumn = false) ∧
      (sources p.toModel).map Prod.snd = [1] ∧
      (readInserts (qualified "mo_year") (Script.render (dataScript p.toModel))).map
        (·.map fun x => x.1.value? "circulation_source") = some [some (.integer 42)] ∧
      (((run (Script.render (dataScript p.toModel)) fun _ => some moYearTable.empty).bind
        Except.toOption).bind fun db =>
        (db (qualified "mo_year")).map fun r => r.rows.countP fun row =>
          row.values ["id_mo", "year"] == [.integer 1, .integer 2020]) = some 1 := by
  have hsays : ((parse forgedSource).toOption.map fun p =>
      ((Validator.integers p ++ p.integers).all Number.isFinite, (Validator.run {} p).verdict.passed,
        ((integers p.toModel).all Number.isFinite && (metrics p.toModel).all (fun m => m.value.isFinite) &&
          (figures p.toModel).all (fun f => f.hasColumn == false) && (sources p.toModel).map Prod.snd == [1] &&
          (readInserts (qualified "mo_year") (Script.render (dataScript p.toModel))).map
            (·.map fun x => x.1.value? "circulation_source") == some [some (.integer 42)] &&
          (((run (Script.render (dataScript p.toModel)) fun _ => some moYearTable.empty).bind Except.toOption).bind
            fun db => (db (qualified "mo_year")).map fun r => r.rows.countP fun row =>
              row.values ["id_mo", "year"] == [.integer 1, .integer 2020]) == some 1))) =
      some (true, true, true) := by
    have hchars : forgedSource.toList = _ :=
      toList_append_of (toList_append_of String.toList_ofList String.toList_ofList) String.toList_ofList
    rw [parse_of_toList hchars]
    decide +kernel
  obtain ⟨p, v, hp, hv, hpassed, hm, hsaid⟩ := exists_model_of_source hsays
  simp only [Bool.and_eq_true, beq_iff_eq, List.all_eq_true] at hsaid
  obtain ⟨⟨⟨⟨⟨hintegers, hfinite⟩, hcolumns⟩, hsources⟩, hinserts⟩, hrows⟩ := hsaid
  exact ⟨p, hp, hm, compile_anmi_of_passed hp hv hpassed hm hintegers, hfinite, hcolumns, hsources, hinserts, hrows⟩

/-- Not for every text that compiles the text of the figures leaves rows that hold the figures. -/
theorem not_figures_merged :
    ¬∀ source text p m db, compile source "sql_anmi" = .ok text → parse source = .ok p → p.lower = .ok m →
      (∀ x ∈ metrics m, x.value.isFinite) → db (qualified "mo_year") = some moYearTable.empty →
      ∃ rows, run (Script.render (dataScript m)) db =
          some (.ok (Function.update db (qualified "mo_year") (some { moYearTable.empty with rows }))) ∧
        HoldFigures m rows := by
  intro hmerged
  obtain ⟨p, hp, hm, hcompile, hfinite, hcolumns, -, -, htable⟩ := exists_model_forgedSource
  obtain ⟨rows, hrun, hrows⟩ := hmerged _ _ p _ (fun _ => some moYearTable.empty) hcompile hp hm hfinite rfl
  -- there is a row, but no figure has a column
  have hone : (rows.countP fun row => row.values ["id_mo", "year"] == [.integer 1, .integer 2020]) = 1 := by
    rw [hrun] at htable
    simpa [Except.toOption] using htable
  have hnone : ¬(figures p.toModel).any fun f => f.hasColumn && f.period == (1, 2020) := by
    simp only [List.any_eq_true, Bool.and_eq_true]
    rintro ⟨f, hf, hcolumn, -⟩
    rw [hcolumns f hf] at hcolumn
    cases hcolumn
  rw [hrows.count, if_neg hnone] at hone
  cases hone

end Script

end MediaLanguage.Anmi
