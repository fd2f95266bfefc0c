import MediaLanguage.Target

/-!
# Generation always succeeds

The types of columns and the shapes of fields are looked up in tables, which might have nothing for a type or a kind of
block. They have something for each that a model can hold, so every model is written: no feature of a model is
unsupported, and no lookup fails.

* `Sql.columnType?_eq` and `Graph.fieldShape?_kind`: the tables are complete.
* `Sql.emit_eq` and `Graph.emit_eq`: the scripts of a model are there, and are those that the parts of the model give.
* `Target.generate_eq`: a generation that ends has no errors.
-/

namespace MediaLanguage

open Model

/-- Steps that all have results have the results. -/
theorem mapM_eq_ok {ε α β : Type} {step : α → Except ε β} {result : α → β} (h : ∀ a, step a = .ok (result a))
    (xs : List α) : xs.mapM step = .ok (xs.map result) := by
  induction xs with
  | nil => rfl
  | cons x xs ih =>
    rw [List.mapM_cons, h, ih]
    rfl

/-! ## Types of columns -/

namespace Sql

/-- A type says more than its word, or its word is listed. -/
theorem columnType?_eq (t : FieldType) : columnType? t = .ok (columnType t) := by
  cases t with
  | text length => cases length <;> rfl
  | id | number | boolean | category => rfl

theorem unitScript?_eq (u : UnitTable) : unitScript? u = .ok (unitScript u) := by
  have hcolumns : ∀ c : Model.Column, (columnType? c.type).map (unitColumn c) =
      .ok (unitColumn c (columnType c.type)) := by
    intro c
    rw [columnType?_eq]
    rfl
  rw [unitScript?, mapM_eq_ok hcolumns]
  rfl

/-- Every model has a relational script. -/
theorem emit_eq (p : Program) : emit p = .ok (script p) := by
  rw [emit, mapM_eq_ok unitScript?_eq, script, List.flatMap_def]
  rfl

end Sql

/-! ## Shapes of fields -/

namespace Graph

/-- The kind of a block is listed, unless the block is a lifecycle, whose statuses are drawn without a shape. -/
theorem fieldShape?_kind (b : Block) :
    (∃ shape, fieldShape? b.kind = .ok shape) ∨ ∃ statuses, b = .lifecycle statuses := by
  cases b with
  | lifecycle statuses => exact .inr ⟨statuses, rfl⟩
  | identity | characteristics | metadata => exact .inl ⟨_, rfl⟩

theorem templateBlockCommands?_eq (template : String) (b : TemplateBlock) :
    templateBlockCommands? template b = .ok (templateBlockCommands template b) := by
  cases b <;> rfl

theorem templateScript?_eq (t : Template) : templateScript? t = .ok (templateScript t) := by
  rw [templateScript?, mapM_eq_ok (templateBlockCommands?_eq t.name), templateScript, List.flatMap_def]
  rfl

theorem blockCommands?_eq (outlet : Int) (b : Block) : blockCommands? outlet b = .ok (blockCommands outlet b) := by
  cases b <;> rfl

theorem outletScript?_eq (family : String) (o : Outlet) : outletScript? family o = .ok (outletScript family o) := by
  rw [outletScript?, mapM_eq_ok (blockCommands?_eq (outletId o)), outletScript, List.flatMap_def]
  rfl

theorem familyScript?_eq (f : Family) : familyScript? f = .ok (familyScript f) := by
  rw [familyScript?, mapM_eq_ok (outletScript?_eq f.name), familyScript, List.flatMap_def]
  rfl

/-- Every model has a graph script. -/
theorem emit_eq (p : Program) : emit p = .ok (script p) := by
  rw [emit, mapM_eq_ok templateScript?_eq, mapM_eq_ok familyScript?_eq, script, List.flatMap_def, List.flatMap_def]
  rfl

end Graph

/-! ## Targets -/

theorem Target.text_sql (p : Program) : Target.sql.text p = .ok (Sql.Script.render (Sql.script p)) := by
  rw [text, Sql.emit_eq]
  rfl

theorem Target.text_graph (p : Program) : Target.graph.text p = .ok (Graph.Script.render (Graph.script p)) := by
  rw [text, Graph.emit_eq]
  rfl

/-- Only a number that has to be an integer and is none keeps a model from being written. -/
theorem Target.exists_of_text_error {t : Target} {p : Program} {e : Error} (h : t.text p = .error e) :
    ∃ c, e = .conversion c := by
  cases t with
  | sql =>
    rw [text_sql] at h
    cases h
  | graph =>
    rw [text_graph] at h
    cases h
  | anmi =>
    change orConversionError ((Anmi.script p).map Sql.Script.render) = _ at h
    cases hs : (Anmi.script p).map Sql.Script.render with
    | ok s =>
      rw [hs] at h
      cases h
    | error c =>
      rw [hs] at h
      cases h
      exact ⟨c, rfl⟩

/-- A generation that ends has no errors. -/
theorem Target.generate_eq (t : Target) (p : Program) :
    t.generate p = (t.text p).map fun text => .ofText p (.ok text) := by
  rw [generate]
  cases h : t.text p with
  | ok text => rfl
  | error e =>
    obtain ⟨c, rfl⟩ := exists_of_text_error h
    rfl

end MediaLanguage
