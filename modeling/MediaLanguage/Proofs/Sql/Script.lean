import MediaLanguage.Proofs.Model.Outline
import MediaLanguage.Proofs.Sql.Outline
import MediaLanguage.Sql.Script

/-!
# The outline of the relational script

The texts of a model stand in literals and comments of its script and nowhere else: the outline of the model determines
the outline of the script (`map_outline_script`).
-/

namespace MediaLanguage.Sql

open Model

/-! ## Values and rows -/

@[simp] theorem Term.outline_optional (s : Option String) : (Term.optional s).outline = .optional (emptied s) := by
  cases s <;> rfl

@[simp] theorem Term.outline_optionalInteger (k : Option Int) :
    (Term.optionalInteger k).outline = .optionalInteger k := by
  cases k <;> rfl

@[simp] theorem Term.outline_optionalNumber (x : Option Number) :
    (Term.optionalNumber x).outline = .optionalNumber x := by
  cases x <;> rfl

@[simp] theorem Term.outline_ofValue (v : Value) : (Term.ofValue v).outline = .text "" := rfl

@[simp] theorem outline_familyRef (name : String) : (familyRef name).outline = familyRef "" := rfl

@[simp] theorem outline_linkRef (name : String) : (linkRef name).outline = linkRef "" := rfl

/-- A reference to a template that may be missing. -/
@[simp] theorem outline_templateRef (name : Option String) :
    ((name.map templateRef).getD .null).outline = ((emptied name).map templateRef).getD .null := by
  cases name <;> rfl

@[simp] theorem Statement.outline_row (table : String) (columns : List String) (values : List Term) :
    (Statement.row table columns values).outline = .row table columns (values.map Term.outline) := rfl

/-! ## Units, vocabularies and templates -/

@[simp] theorem columnType_outline (t : FieldType) : columnType t.outline = columnType t := by
  cases t <;> rfl

@[simp] theorem unitTable_outline (u : UnitTable) : unitTable u.outline = unitTable u := by
  simp [unitTable, unitColumn, UnitTable.outline, Column.outline, Function.comp_def]

theorem map_outline_unitScript (u : UnitTable) :
    (unitScript u.outline).map Statement.outline = (unitScript u).map Statement.outline := by
  simp [unitScript]

theorem map_outline_vocabularyScript (v : Vocabulary) :
    (vocabularyScript v.outline).map Statement.outline = (vocabularyScript v).map Statement.outline := by
  simp [vocabularyScript, vocabularyTable, Vocabulary.outline, entryRow, List.zipIdx_map, Function.comp_def]

/-- A comment for each field is an empty one in the outline. -/
theorem map_outline_templateBlockComments (template template' : String) (b : TemplateBlock) :
    (templateBlockComments template' b.outline).map Statement.outline =
      (templateBlockComments template b).map Statement.outline := by
  cases b <;>
    simp [templateBlockComments, TemplateBlock.kind, TemplateBlock.fields, TemplateBlock.outline, Function.comp_def]

theorem map_outline_templateScript (t : Template) :
    (templateScript t.outline).map Statement.outline = (templateScript t).map Statement.outline := by
  have hblocks := flatMap_outline (map_outline_templateBlockComments t.name "") t.blocks
  simp only [templateScript, Template.outline, List.map_append, hblocks]
  simp

/-! ## Families -/

@[simp] theorem outline_fieldRow (table column : String) (outlet : Int) (f : Assignment) :
    (fieldRow table column outlet f.outline).outline = (fieldRow table column outlet f).outline := by
  simp [fieldRow]

@[simp] theorem outline_statusRow (outlet : Int) (s : Status) :
    (statusRow outlet s.outline).outline = (statusRow outlet s).outline := by
  simp [statusRow, Status.outline]

theorem map_outline_blockRows (outlet : Int) (b : Block) :
    (blockRows outlet b.outline).map Statement.outline = (blockRows outlet b).map Statement.outline := by
  cases b <;> simp [blockRows, Block.outline, Function.comp_def]

theorem map_outline_outletScript (family family' : String) (o : Outlet) :
    (outletScript family' o.outline).map Statement.outline = (outletScript family o).map Statement.outline := by
  have hblocks := flatMap_outline (map_outline_blockRows (outletId o)) o.blocks
  have hid : outletId o.outline = outletId o := rfl
  have hrow : (outletRow family' o.outline).outline = (outletRow family o).outline := by
    simp [outletRow, outletId]
  simp only [outletScript, List.map_cons, hid, hrow, Statement.outline_comment]
  rw [Outlet.outline, hblocks]

theorem map_outline_familyScript (f : Family) :
    (familyScript f.outline).map Statement.outline = (familyScript f).map Statement.outline := by
  have houtlets := flatMap_outline (map_outline_outletScript f.name "") f.outlets
  simp only [familyScript, Family.outline, List.map_append, houtlets]
  simp

theorem map_outline_linkRows (family family' : String) (l : Link) :
    (linkRows family' l.outline).map Statement.outline = (linkRows family l).map Statement.outline := by
  cases l <;>
    simp [linkRows, linkDetails, linkKind, Link.outline, Link.name, DiachronicLink.outline, SynchronousLink.outline]

theorem map_outline_linkScript (p : Program) :
    (linkScript p.outline).map Statement.outline = (linkScript p).map Statement.outline := by
  rw [linkScript, linkScript, List.map_cons, List.map_cons, Program.outline]
  congr 1
  apply flatMap_outline
  intro f
  exact flatMap_outline (map_outline_linkRows f.name "") f.links

/-! ## Market data and events -/

theorem map_outline_dataRows (d : DataBlock) :
    (dataRows d.outline).map Statement.outline = (dataRows d).map Statement.outline := by
  simp [dataRows, DataBlock.outline, aggregationRow, AggregationLevel.outline, metricRow, Year.outline, Metric.outline,
    List.map_flatMap, List.flatMap_map, Function.comp_def]

theorem map_outline_dataScript (p : Program) :
    (dataScript p.outline).map Statement.outline = (dataScript p).map Statement.outline := by
  have hdata : p.outline.data = p.data.map DataBlock.outline := by
    simp [Program.data, Program.outline, Family.outline, List.flatMap_map, List.map_flatMap]
  simp only [dataScript, List.map_cons, hdata, flatMap_outline map_outline_dataRows p.data]

theorem map_outline_eventRows (e : Event) (number : Nat) :
    (eventRows e.outline number).map Statement.outline = (eventRows e number).map Statement.outline := by
  simp [eventRows, Event.outline, entityRow, EventEntity.outline, eventFieldRow, Assignment.outline,
    Function.comp_def]

theorem map_outline_eventScript (p : Program) :
    (eventScript p.outline).map Statement.outline = (eventScript p).map Statement.outline := by
  have hempty : p.outline.events.isEmpty = p.events.isEmpty := by simp [Program.outline]
  have hevents : p.outline.events.zipIdx 1 = (p.events.zipIdx 1).map (Prod.map Event.outline id) :=
    List.zipIdx_map ..
  rw [eventScript, eventScript, hempty, hevents]
  split
  · rfl
  · simp only [List.cons_append, List.map_cons, List.map_append]
    rw [flatMap_outline fun e => map_outline_eventRows e.1 e.2]

/-! ## The whole script -/

theorem map_outline_importScript (imports : List String) :
    (importScript (imports.map fun _ => "")).map Statement.outline = (importScript imports).map Statement.outline := by
  by_cases h : imports = [] <;> simp [importScript, h, Function.comp_def]

theorem map_outline_variableScript (bindings : List Assignment) :
    (variableScript (bindings.map Assignment.outline)).map Statement.outline =
      (variableScript bindings).map Statement.outline := by
  by_cases h : bindings = [] <;> simp [variableScript, h, Function.comp_def]

/-- The outline of a model determines the outline of its script. -/
theorem map_outline_script (p : Program) :
    (script p.outline).map Statement.outline = (script p).map Statement.outline := by
  simp only [script, List.map_append, map_outline_linkScript, map_outline_dataScript, map_outline_eventScript]
  simp only [Program.outline, map_outline_importScript, map_outline_variableScript,
    flatMap_outline map_outline_unitScript, flatMap_outline map_outline_vocabularyScript,
    flatMap_outline map_outline_templateScript, flatMap_outline map_outline_familyScript]

end MediaLanguage.Sql
