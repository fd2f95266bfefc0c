import MediaLanguage.Proofs.Model.Remark
import MediaLanguage.Proofs.Sql.Action
import MediaLanguage.Sql.Script

/-!
# Soundness of the relational script

The names of the script are names, and its comments stand on one line if the texts that they show do. So its statements
are sound, and a reader finds them in its text (`isProper_script`).
-/

namespace MediaLanguage.Sql

open Dialect Lexis Model

/-! ## What the script shows -/

/-- The texts that comments of the script show. -/
def shownTexts (p : Program) : List String :=
  p.imports ++ p.bindings.flatMap (fun b => b.value.shownTexts)
    ++ p.templates.flatMap (fun t =>
      t.name :: t.blocks.flatMap fun b => b.fields.flatMap fun f => f.value.shownTexts)
    ++ p.families.flatMap fun f => f.name :: f.outlets.map Outlet.name

/-- The names without quotes that the script writes outside literals. -/
def writtenNames (p : Program) : List String :=
  p.bindings.flatMap (fun b => b.name :: b.value.shownNames)
    ++ p.units.flatMap (fun u => u.name :: u.columns.map Model.Column.name) ++ p.vocabularies.map Vocabulary.name
    ++ p.templates.flatMap fun t => t.blocks.flatMap fun b => b.fields.flatMap fun f =>
      f.name :: f.value.shownNames

/-! ## Statements -/

/-- The statement is sound, and can be read. -/
structure Statement.IsProper (st : Statement) : Prop where
  sound : st.IsSound
  readable : st.IsReadable

section Statement

@[simp] theorem Statement.isProper_blank : Statement.blank.IsProper := ⟨trivial, trivial⟩

theorem Statement.isProper_comment {text : String} (h : OneLine text) : (Statement.comment text).IsProper := ⟨h, h⟩

theorem Statement.isProper_createTable {onlyIfMissing : Bool} {table : Table}
    (h : table.IsSound ∧ table.IsReadable) : (Statement.createTable onlyIfMissing table).IsProper := ⟨h.1, h.2⟩

/-- Names are plain. -/
theorem Term.HasNames.hasPlainNames {t : Term} (h : t.HasNames) : t.HasPlainNames := by
  cases t with
  | lookup table column value => exact ⟨h.1.2.plain, h.2.2.plain⟩
  | _ => trivial

/-- A row whose names are names. -/
theorem Statement.isProper_row {table : String} {columns : List String} {values : List Term} (htable : IsName table)
    (hcolumns : ∀ c ∈ columns, IsName c) (hvalues : ∀ v ∈ values, v.HasNames) (hlength : columns.length = values.length)
    (hne : columns ≠ []) : (Statement.row table columns values).IsProper where
  sound := ⟨htable.2.plain, fun c hc => (hcolumns c hc).2.plain, fun v hv => (hvalues v hv).hasPlainNames, trivial⟩
  readable := Statement.isReadable_row htable hcolumns hvalues hlength hne

end Statement

/-! ## The schema -/

/-- The tables of the schema are sound, and can be read. -/
theorem isProper_coreTables : ∀ t ∈ coreTables, t.IsSound ∧ t.IsReadable := by
  decide +kernel

theorem isProper_coreSchema : ∀ s ∈ coreSchema, s.IsProper := by
  simp only [coreSchema, List.forall_mem_append, List.forall_mem_cons, List.not_mem_nil, false_implies, implies_true,
    Statement.isProper_blank, and_true]
  refine ⟨⟨Statement.isProper_comment (by decide), Statement.isProper_comment (by decide)⟩,
    List.forall_mem_flatMap.2 fun t ht => ?_⟩
  simpa using Statement.isProper_createTable (isProper_coreTables t ht)

/-! ## References -/

@[simp] theorem hasNames_familyRef (name : String) : (familyRef name).HasNames :=
  ⟨by decide, by decide⟩

@[simp] theorem hasNames_linkRef (name : String) : (linkRef name).HasNames :=
  ⟨by decide, by decide⟩

@[simp] theorem hasNames_templateRef (name : Option String) : ((name.map templateRef).getD .null).HasNames := by
  cases name with
  | none => trivial
  | some name => exact ⟨by decide, by decide⟩

/-! ## Units and vocabularies -/

/-- The type of a column is plain. -/
theorem plain_columnType (t : FieldType) : lexis.Plain (columnType t) := by
  cases t with
  | id => decide
  | text length =>
    cases length with
    | none => decide
    | some k => exact ((by decide : lexis.Plain "VARCHAR(").append (plain_integer k)).append (by decide)
  | number => decide
  | boolean => decide
  | category values => exact (by decide : lexis.Plain "VARCHAR(100)")

/-- The type of a column can stand among words. -/
theorem isPhrase_columnType (t : FieldType) : IsPhrase (columnType t) := by
  cases t with
  | id => decide
  | text length =>
    cases length with
    | none => decide
    | some k =>
      have hopen : Spelled "VARCHAR(" [.word "VARCHAR", .delimiter '('] := by decide
      have hclose : Spelled ")" [.delimiter ')'] := by decide
      exact isPhrase_of_spelled ((Reads.append hopen (reads_numeral (isNumeral_integer k))).before rfl rfl hclose)
        (by simp)
  | number => decide
  | boolean => decide
  | category values => exact (by decide : IsPhrase "VARCHAR(100)")

theorem isProper_unitScript {u : UnitTable} (hname : IsName u.name) (hcolumns : ∀ c ∈ u.columns, IsName c.name) :
    ∀ s ∈ unitScript u, s.IsProper := by
  have hsound : (unitTable u).IsSound := by
    refine ⟨hname.2.lowercase.plain, fun item hitem => ?_⟩
    obtain ⟨c, hc, rfl⟩ := List.mem_map.1 hitem
    exact ⟨(hcolumns c hc).2.plain, plain_columnType c.type, fun _ h => (nomatch h), fun _ h => (nomatch h)⟩
  have hreadable : (unitTable u).IsReadable := by
    refine ⟨hname.lowercase, fun item hitem => ?_⟩
    obtain ⟨c, hc, rfl⟩ := List.mem_map.1 hitem
    exact ⟨hcolumns c hc, isPhrase_columnType c.type, fun _ h => (nomatch h), fun _ h => (nomatch h)⟩
  have hcomment := (by decide : OneLine "Table for unit: ").append hname.2.oneLine
  simp only [unitScript, List.forall_mem_cons, List.not_mem_nil, false_implies, implies_true, Statement.isProper_blank,
    and_true]
  exact ⟨Statement.isProper_comment hcomment, hsound, hreadable⟩

theorem isProper_vocabularyScript {v : Vocabulary} (hname : IsName v.name) : ∀ s ∈ vocabularyScript v, s.IsProper := by
  have htable : (vocabularyTable v).IsSound ∧ (vocabularyTable v).IsReadable := by
    have hitems : (∀ item ∈ (vocabularyTable v).items, item.IsSound) ∧
        ∀ item ∈ (vocabularyTable v).items, item.IsReadable := by
      show (∀ item ∈ [idColumn, requiredColumn "code" "VARCHAR(50)", requiredColumn "description" "TEXT",
          timeColumn "created_at"], item.IsSound) ∧
        ∀ item ∈ [idColumn, requiredColumn "code" "VARCHAR(50)", requiredColumn "description" "TEXT",
          timeColumn "created_at"], item.IsReadable
      decide
    exact ⟨⟨hname.2.lowercase.plain, hitems.1⟩, ⟨hname.lowercase, hitems.2⟩⟩
  have hdefinition := Statement.isProper_comment ((by decide : OneLine "Vocabulary table: ").append hname.2.oneLine)
  have hrows := Statement.isProper_comment
    ((by decide : OneLine "Insert vocabulary data for ").append hname.2.oneLine)
  have hentry (e : VocabularyEntry) (index : Nat) : (entryRow (Text.lowercase v.name) e index).IsProper :=
    Statement.isProper_row hname.lowercase (by decide) (by simp) rfl (by decide)
  simp only [vocabularyScript, List.forall_mem_append, List.forall_mem_cons, List.not_mem_nil, false_implies,
    implies_true, Statement.isProper_blank, true_and, and_true]
  exact ⟨⟨hdefinition, Statement.isProper_createTable htable, hrows⟩, List.forall_mem_map.2 fun e _ => hentry e.1 e.2⟩

/-! ## Templates, families and outlets -/

theorem isProper_templateBlockComments {template : String} {b : TemplateBlock} (htemplate : OneLine template)
    (htexts : ∀ f ∈ b.fields, ∀ s ∈ f.value.shownTexts, OneLine s)
    (hnames : ∀ f ∈ b.fields, ∀ s ∈ f.name :: f.value.shownNames, IsName s) :
    ∀ s ∈ templateBlockComments template b, s.IsProper := by
  have hkind : OneLine (b.kind) := by
    cases b with
    | characteristics => exact (by decide : OneLine "characteristics")
    | metadata => exact (by decide : OneLine "metadata")
  have hstart : OneLine ("Template " ++ template ++ " " ++ b.kind ++ ":") :=
    ((((by decide : OneLine "Template ").append htemplate).append (by decide)).append hkind).append (by decide)
  refine List.forall_mem_cons.2 ⟨Statement.isProper_comment hstart, List.forall_mem_map.2 fun f hf => ?_⟩
  obtain ⟨hname, hnames⟩ := List.forall_mem_cons.1 (hnames f hf)
  have hremark := Value.oneLine_remark (htexts f hf) fun s hs => (hnames s hs).2
  exact Statement.isProper_comment
    ((((by decide : OneLine "  ").append hname.2.oneLine).append (by decide : OneLine ": ")).append hremark)

theorem isProper_templateScript {t : Template} (hname : OneLine t.name)
    (htexts : ∀ b ∈ t.blocks, ∀ f ∈ b.fields, ∀ s ∈ f.value.shownTexts, OneLine s)
    (hnames : ∀ b ∈ t.blocks, ∀ f ∈ b.fields, ∀ s ∈ f.name :: f.value.shownNames, IsName s) :
    ∀ s ∈ templateScript t, s.IsProper := by
  have hcomment := (by decide : OneLine "Template: ").append hname
  have hblocks : ∀ s ∈ t.blocks.flatMap (templateBlockComments t.name), s.IsProper :=
    List.forall_mem_flatMap.2 fun b hb => isProper_templateBlockComments hname (htexts b hb) (hnames b hb)
  simp only [templateScript, List.forall_mem_append, List.forall_mem_cons, List.not_mem_nil, false_implies,
    implies_true, Statement.isProper_blank, and_true]
  refine ⟨⟨Statement.isProper_comment hcomment, ?_⟩, hblocks⟩
  exact Statement.isProper_row (by decide) (by decide) (by simp) rfl (by decide)

/-- The columns of a table for fields. -/
theorem isName_fieldColumns {key column : String} (hkey : IsName key) (hcolumn : IsName column) :
    ∀ c ∈ [key, column ++ "_name", column ++ "_value"], IsName c := by
  simp only [List.forall_mem_cons, List.not_mem_nil, false_implies, implies_true, and_true]
  exact ⟨hkey, hcolumn.append (by decide), hcolumn.append (by decide)⟩

/-- The row of a field of an outlet. -/
theorem isProper_fieldRow {table column : String} (htable : IsName table) (hcolumn : IsName column)
    (outlet : Int) (f : Assignment) : (fieldRow table column outlet f).IsProper :=
  Statement.isProper_row htable (isName_fieldColumns (by decide) hcolumn) (by simp) rfl (by simp)

theorem isProper_blockRows (outlet : Int) (b : Block) : ∀ s ∈ blockRows outlet b, s.IsProper := by
  cases b with
  | identity fields => exact List.forall_mem_map.2 fun f _ => isProper_fieldRow (by decide) (by decide) outlet f
  | lifecycle statuses =>
    exact List.forall_mem_map.2 fun s _ => Statement.isProper_row (by decide) (by decide) (by simp) rfl (by decide)
  | characteristics fields => exact List.forall_mem_map.2 fun f _ => isProper_fieldRow (by decide) (by decide) outlet f
  | metadata fields => exact List.forall_mem_map.2 fun f _ => isProper_fieldRow (by decide) (by decide) outlet f

theorem isProper_outletScript (family : String) {o : Outlet} (hname : OneLine o.name) :
    ∀ s ∈ outletScript family o, s.IsProper := by
  have hcomment := (by decide : OneLine "Outlet: ").append hname
  have hrow : (outletRow family o).IsProper := Statement.isProper_row (by decide) (by decide) (by simp) rfl (by decide)
  simp only [outletScript, List.forall_mem_cons]
  have hblocks := List.forall_mem_flatMap.2 fun b (_ : b ∈ o.blocks) => isProper_blockRows (outletId o) b
  exact ⟨Statement.isProper_comment hcomment, hrow, hblocks⟩

theorem isProper_familyScript {f : Family} (hname : OneLine f.name) (houtlets : ∀ o ∈ f.outlets, OneLine o.name) :
    ∀ s ∈ familyScript f, s.IsProper := by
  have hcomment := (by decide : OneLine "Family: ").append hname
  have houtlets : ∀ s ∈ f.outlets.flatMap (outletScript f.name), s.IsProper :=
    List.forall_mem_flatMap.2 fun o ho => isProper_outletScript f.name (houtlets o ho)
  simp only [familyScript, List.forall_mem_append, List.forall_mem_cons, List.not_mem_nil, false_implies,
    implies_true, Statement.isProper_blank, and_true]
  refine ⟨⟨Statement.isProper_comment hcomment, ?_⟩, houtlets⟩
  exact Statement.isProper_row (by decide) (by decide) (by simp) rfl (by decide)

/-! ## Links, market data and events -/

theorem isProper_linkScript (p : Program) : ∀ s ∈ linkScript p, s.IsProper := by
  refine List.forall_mem_cons.2 ⟨Statement.isProper_comment (by decide), List.forall_mem_flatMap.2 fun f _ => ?_⟩
  refine List.forall_mem_flatMap.2 fun l _ => ?_
  have hdetails : (linkDetails l).IsProper := by
    cases l <;> exact Statement.isProper_row (by decide) (by decide) (by simp) rfl (by decide)
  simp only [linkRows, List.forall_mem_cons, List.not_mem_nil, false_implies, implies_true, and_true]
  exact ⟨Statement.isProper_row (by decide) (by decide) (by simp) rfl (by decide), hdetails⟩

theorem isProper_dataScript (p : Program) : ∀ s ∈ dataScript p, s.IsProper := by
  refine List.forall_mem_cons.2 ⟨Statement.isProper_comment (by decide), List.forall_mem_flatMap.2 fun d _ => ?_⟩
  have hlevels : ∀ s ∈ d.aggregation.map (aggregationRow d.outlet), s.IsProper :=
    List.forall_mem_map.2 fun a _ => Statement.isProper_row (by decide) (by decide) (by simp) rfl (by decide)
  have hyears : ∀ s ∈ d.years.flatMap fun y => y.metrics.map (metricRow d y.year), s.IsProper :=
    List.forall_mem_flatMap.2 fun y _ => List.forall_mem_map.2 fun m _ =>
      Statement.isProper_row (by decide) (by decide) (by simp) rfl (by decide)
  exact List.forall_mem_append.2 ⟨hlevels, hyears⟩

/-- The row of a field of an event. -/
theorem isProper_eventFieldRow {table column : String} (htable : IsName table) (hcolumn : IsName column)
    (event : Nat) (f : Assignment) : (eventFieldRow table column event f).IsProper :=
  Statement.isProper_row htable (isName_fieldColumns (by decide) hcolumn) (by simp) rfl (by simp)

theorem isProper_eventScript (p : Program) : ∀ s ∈ eventScript p, s.IsProper := by
  have hrows : ∀ (e : Event) (number : Nat), ∀ s ∈ eventRows e number, s.IsProper := by
    intro e number
    simp only [eventRows, List.cons_append, List.forall_mem_cons, List.forall_mem_append]
    refine ⟨Statement.isProper_row (by decide) (by decide) (by simp) rfl (by decide), ⟨?_, ?_⟩, ?_⟩
    · exact List.forall_mem_map.2 fun x _ => Statement.isProper_row (by decide) (by decide) (by simp) rfl (by decide)
    · exact List.forall_mem_map.2 fun f _ => isProper_eventFieldRow (by decide) (by decide) number f
    · exact List.forall_mem_map.2 fun f _ => isProper_eventFieldRow (by decide) (by decide) number f
  unfold eventScript
  split
  · exact List.forall_mem_nil _
  · simp only [List.cons_append, List.forall_mem_cons, List.not_mem_nil, false_implies, implies_true,
      List.forall_mem_append, Statement.isProper_blank, and_true]
    exact ⟨Statement.isProper_comment (by decide), List.forall_mem_flatMap.2 fun e _ => hrows e.1 e.2⟩

/-! ## The whole script -/

theorem isProper_headerScript : ∀ s ∈ headerScript, s.IsProper := by
  simp only [headerScript, List.forall_mem_cons, List.not_mem_nil, false_implies, implies_true,
    Statement.isProper_blank, and_true]
  exact ⟨Statement.isProper_comment (by decide), Statement.isProper_comment (by decide),
    Statement.isProper_comment (by decide)⟩

theorem isProper_importScript {imports : List String} (h : ∀ path ∈ imports, OneLine path) :
    ∀ s ∈ importScript imports, s.IsProper := by
  unfold importScript
  split
  · exact List.forall_mem_nil _
  · simp only [List.cons_append, List.forall_mem_cons, List.not_mem_nil, false_implies, implies_true,
      List.forall_mem_append, Statement.isProper_blank, and_true]
    refine ⟨Statement.isProper_comment (by decide), List.forall_mem_map.2 fun path hpath => ?_⟩
    exact Statement.isProper_comment
      (((by decide : OneLine "IMPORT \"").append (h path hpath)).append (by decide : OneLine "\""))

theorem isProper_variableScript {bindings : List Assignment}
    (htexts : ∀ b ∈ bindings, ∀ s ∈ b.value.shownTexts, OneLine s)
    (hnames : ∀ b ∈ bindings, ∀ s ∈ b.name :: b.value.shownNames, IsName s) :
    ∀ s ∈ variableScript bindings, s.IsProper := by
  unfold variableScript
  split
  · exact List.forall_mem_nil _
  · simp only [List.cons_append, List.forall_mem_cons, List.not_mem_nil, false_implies, implies_true,
      List.forall_mem_append, Statement.isProper_blank, and_true]
    refine ⟨Statement.isProper_comment (by decide), List.forall_mem_map.2 fun b hb => ?_⟩
    obtain ⟨hname, hnames⟩ := List.forall_mem_cons.1 (hnames b hb)
    have hremark := Value.oneLine_remark (htexts b hb) fun s hs => (hnames s hs).2
    exact Statement.isProper_comment
      ((((by decide : OneLine "LET ").append hname.2.oneLine).append (by decide : OneLine " = ")).append hremark)

/-- The script of a model is sound and can be read if the texts that its comments show stand on one line and its names
are names. -/
theorem isProper_script {p : Program} (htexts : ∀ s ∈ shownTexts p, OneLine s)
    (hnames : ∀ s ∈ writtenNames p, IsName s) : ∀ s ∈ script p, s.IsProper := by
  simp only [shownTexts, List.forall_mem_append, List.forall_mem_flatMap, List.forall_mem_cons, List.forall_mem_map]
    at htexts
  simp only [writtenNames, List.forall_mem_append, List.forall_mem_flatMap, List.forall_mem_map] at hnames
  obtain ⟨⟨⟨himports, hbindings⟩, htemplates⟩, hfamilies⟩ := htexts
  obtain ⟨⟨⟨hvariables, hunits⟩, hvocabularies⟩, hfields⟩ := hnames
  simp only [script, List.forall_mem_append]
  refine ⟨⟨⟨⟨⟨⟨⟨⟨⟨⟨isProper_headerScript, isProper_importScript himports⟩, ?_⟩, isProper_coreSchema⟩, ?_⟩, ?_⟩, ?_⟩,
    ?_⟩, isProper_linkScript p⟩, isProper_dataScript p⟩, isProper_eventScript p⟩
  · exact isProper_variableScript hbindings hvariables
  · refine List.forall_mem_flatMap.2 fun u hu => ?_
    obtain ⟨hname, hcolumns⟩ := List.forall_mem_cons.1 (hunits u hu)
    exact isProper_unitScript hname (List.forall_mem_map.1 hcolumns)
  · exact List.forall_mem_flatMap.2 fun v hv => isProper_vocabularyScript (hvocabularies v hv)
  · refine List.forall_mem_flatMap.2 fun t ht => ?_
    exact isProper_templateScript (htemplates t ht).1 (htemplates t ht).2 (hfields t ht)
  · refine List.forall_mem_flatMap.2 fun f hf => ?_
    exact isProper_familyScript (hfamilies f hf).1 (hfamilies f hf).2

end MediaLanguage.Sql
