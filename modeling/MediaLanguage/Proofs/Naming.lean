import MediaLanguage.Proofs.Injection
import MediaLanguage.Proofs.Sql.Finding

/-!
# Names that stand for one row

The relational script refers to families, templates and links by name, so the names have to be different. Validation
makes sure of this for families and templates, whose names are symbols; the names of links are no symbols, and two
links may have the same.

* `compile_eq_ok_iff`: which texts compile, and to what.
* `lookups_find_rows`: in the script of a text that compiles every lookup finds a row in front of it, and only one if
  it is the row of a family or a template. All lookups find one row exactly if no two links have the same name. Where
  comments stand on one line, the lookups and the rows are those that are read in the text.
* `not_lookups_find_one`: two links with one name are accepted, and the second is looked up twice.
-/

namespace MediaLanguage

open Ast

/-! ## Names of programs that pass -/

/-- The name of the family that a symbol is. -/
def Symbol.family? : Symbol → Option String
  | .family name => some name
  | _ => none

/-- The name of the template that a symbol is. -/
def Symbol.template? : Symbol → Option String
  | .template name => some name
  | _ => none

/-- The name of the vocabulary that a symbol is. -/
def Symbol.vocabulary? : Symbol → Option String
  | .vocabulary name => some name
  | _ => none

section Names

variable {p : Program}

/-- No outlet is a family or a template. -/
theorem Ast.Outlet.filterMap_symbols {select : Symbol → Option String} (h : ∀ id, select (.outlet id) = none)
    (outlets : List Outlet) : ((outlets.flatMap Outlet.declarations).map Prod.fst).filterMap select = [] := by
  rw [List.filterMap_eq_nil_iff]
  intro symbol hsymbol
  obtain ⟨⟨_, position⟩, hdeclaration, rfl⟩ := List.mem_map.1 hsymbol
  obtain ⟨o, -, ho⟩ := List.mem_flatMap.1 hdeclaration
  obtain ⟨id, -, hid⟩ := Option.map_eq_some_iff.1 (Option.mem_toList.1 ho)
  rw [← (Prod.mk.inj hid).1]
  exact h id

/-- Names that statements declare as symbols of one kind are different in a program that passes. -/
theorem nodup_symbolNames (select : Symbol → Option String) (h : p.Passes) {name? : Statement → Option String}
    (hselect : ∀ a b name, name ∈ select a → name ∈ select b → a = b)
    (hname : ∀ s : Statement, (s.declarations.map Prod.fst).filterMap select = (name? s).toList) :
    (p.statements.filterMap name?).Nodup := by
  have hnames : (p.declarations.map Prod.fst).filterMap select = p.statements.filterMap name? := by
    rw [Program.declarations, List.map_flatMap, List.filterMap_flatMap, List.filterMap_eq_flatMap_toList name?]
    simp only [hname]
  rw [← hnames]
  exact (nodup_declarations h).filterMap hselect

/-- No two families of a program that passes have the same name. -/
theorem nodup_familyNames (h : p.Passes) : (p.families.map Family.name).Nodup := by
  rw [Program.families, List.map_filterMap]
  apply nodup_symbolNames Symbol.family? h
  · intro a b name ha hb
    cases a <;> cases ha
    cases b <;> cases hb
    rfl
  · intro s
    cases s with
    | family f =>
      show f.name :: ((f.outlets.flatMap Outlet.declarations).map Prod.fst).filterMap Symbol.family? = [f.name]
      rw [Outlet.filterMap_symbols fun _ => rfl]
    | _ => rfl

/-- No two templates of a program that passes have the same name. -/
theorem nodup_templateNames (h : p.Passes) : (p.templates.map Template.name).Nodup := by
  rw [Program.templates, List.map_filterMap]
  apply nodup_symbolNames Symbol.template? h
  · intro a b name ha hb
    cases a <;> cases ha
    cases b <;> cases hb
    rfl
  · intro s
    cases s with
    | family f =>
      show ((f.outlets.flatMap Outlet.declarations).map Prod.fst).filterMap Symbol.template? = []
      rw [Outlet.filterMap_symbols fun _ => rfl]
    | _ => rfl

/-- No two vocabularies of a program that passes have the same name. -/
theorem nodup_vocabularyNames (h : p.Passes) : (p.vocabularies.map Vocabulary.name).Nodup := by
  rw [Program.vocabularies, List.map_filterMap]
  apply nodup_symbolNames Symbol.vocabulary? h
  · intro a b name ha hb
    cases a <;> cases ha
    cases b <;> cases hb
    rfl
  · intro s
    cases s with
    | family f =>
      show ((f.outlets.flatMap Outlet.declarations).map Prod.fst).filterMap Symbol.vocabulary? = []
      rw [Outlet.filterMap_symbols fun _ => rfl]
    | _ => rfl

/-- Adopting links and data makes no two families have the same name. -/
theorem nodup_names_adopt {families : List Model.Family} (h : (families.map Model.Family.name).Nodup)
    (links : List Model.Link) (data : List Model.DataBlock) :
    ((adopt families links data).map Model.Family.name).Nodup := by
  unfold adopt
  split
  · exact h
  · cases families with
    | nil => exact List.nodup_singleton _
    | cons first others => exact h

end Names

/-! ## Texts that compile -/

/-- A verdict without a first error passes. -/
theorem passed_of_error? {p : Program} {v : Verdict} (hv : p.validate = .ok v) (h : v.error? = none) :
    v.passed = true := by
  obtain rfl : (Validator.run {} p).verdict = v := by
    unfold Program.validate at hv
    cases hintegers : Number.requireIntegers (Validator.integers p) <;> rw [hintegers] at hv <;> cases hv
    rfl
  by_contra hfailed
  obtain ⟨i, -, -, herror⟩ := exists_error_of_not_passes hfailed
  rw [h] at herror
  cases herror

/-- A text compiles to what its program is written as, if the program passes and has a model. -/
theorem compile_eq_ok_iff {source text : String} {target : Target} :
    compile source target.name = .ok text ↔
      ∃ p v, parse source = .ok p ∧ p.validate = .ok v ∧ v.passed = true ∧ p.lower = .ok p.toModel ∧
        target.text p.toModel = .ok text := by
  unfold compile
  rw [target.ofName_name]
  change (parse source >>= _) = _ ↔ _
  constructor
  · intro h
    cases hp : parse source with
    | error e =>
      rw [hp] at h
      cases h
    | ok p =>
      rw [hp] at h
      change (orConversionError p.validate >>= _) = _ at h
      cases hv : p.validate with
      | error e =>
        rw [hv] at h
        cases h
      | ok v =>
        rw [hv, orConversionError_ok_bind] at h
        cases herror : v.error? with
        | some e =>
          rw [herror] at h
          cases h
        | none =>
          rw [herror] at h
          change (orConversionError p.lower >>= _) = _ at h
          cases hm : p.lower with
          | error e =>
            rw [hm] at h
            cases h
          | ok m =>
            rw [hm, orConversionError_ok_bind, Target.generate_eq, Program.eq_toModel hm] at h
            refine ⟨p, v, rfl, hv, passed_of_error? hv herror, by rw [hm, Program.eq_toModel hm], ?_⟩
            cases htext : target.text p.toModel <;> rw [htext] at h <;> cases h
            rfl
  · rintro ⟨p, v, hp, hv, hpassed, hm, htext⟩
    rw [hp]
    change (orConversionError p.validate >>= _) = _
    rw [hv, orConversionError_ok_bind, Verdict.error?_of_passed hpassed, hm]
    change (target.generate p.toModel >>= _) = _
    rw [Target.generate_eq, htext]
    rfl

/-- A text whose program passes and has a model compiles to the script of the model. -/
theorem compile_sql_of_passed {source : String} {p : Program} {v : Verdict} (hp : parse source = .ok p)
    (hv : p.validate = .ok v) (hpassed : v.passed = true) (hm : p.lower = .ok p.toModel) :
    compile source "sql" = .ok (Sql.Script.render (Sql.script p.toModel)) := by
  change compile source Target.sql.name = _
  exact compile_eq_ok_iff.2 ⟨p, v, hp, hv, hpassed, hm, Target.text_sql _⟩

/-! ## Lookups of texts that compile -/

/-- In the script that a text compiles to every lookup is by name and finds a row in front of it, and only one if it
looks up a family or a template. All find one row exactly if no two links have the same name. The lookups that are read
in the text of the script find as many rows, if its comments show what stands on one line. -/
theorem lookups_find_rows {source text : String} (h : compile source "sql" = .ok text) :
    ∃ p m, parse source = .ok p ∧ p.lower = .ok m ∧ text = Sql.Script.render (Sql.script m) ∧
      ((∀ s ∈ Sql.shownTexts m, OneLine s) → Sql.readFinds text = Sql.Script.finds [] (Sql.script m)) ∧
      (∀ q n, (q, n) ∈ Sql.Script.finds [] (Sql.script m) →
        Sql.ByName q ∧ 1 ≤ n ∧ (q.table ≠ "relationships" → n = 1)) ∧
      ((∀ q n, (q, n) ∈ Sql.Script.finds [] (Sql.script m) → n = 1) ↔ (m.links.map Model.Link.name).Nodup) := by
  have hcompile : compile source Target.sql.name = .ok text := h
  obtain ⟨p, v, hp, hv, hpassed, hm, htext⟩ := compile_eq_ok_iff.1 hcompile
  have hpasses : p.Passes := passes_of_validate hv hpassed
  have hbacked : Sql.Backed [] (Sql.script p.toModel) := Sql.backed_script (closed_of_passes hpasses).templates
  have hfamilies : (p.toModel.families.map Model.Family.name).Nodup := by
    refine nodup_names_adopt ?_ _ _
    rw [List.map_map]
    exact nodup_familyNames hpasses
  have htemplates : (p.toModel.templates.map Model.Template.name).Nodup := by
    show ((p.templates.map Template.lower).map Model.Template.name).Nodup
    rw [List.map_map]
    exact nodup_templateNames hpasses
  rw [Target.text_sql] at htext
  have hrender := (Except.ok.inj htext).symm
  refine ⟨p, p.toModel, hp, hm, hrender, ?_, ?_, Sql.finds_eq_one_iff hbacked hfamilies htemplates⟩
  · intro hshown
    rw [hrender]
    exact Sql.readFinds_render fun st hst => (isProper_sqlScript hp hshown st hst).readable
  · intro q n hfind
    exact ⟨(hbacked _ hfind).1, (hbacked _ hfind).2, Sql.finds_eq_one hbacked hfamilies htemplates hfind⟩

/-- An outlet that extends a template, and two links outside its family. -/
def namedSource : String :=
  "template \"T\" \x7b \x7d "
    ++ "family \"F\" \x7b outlet \"A\" extends template \"T\" \x7b identity \x7b id = 1; \x7d \x7d \x7d "
    ++ "diachronic_link l \x7b predecessor = 1; successor = 1; \x7d "
    ++ "diachronic_link k \x7b predecessor = 1; successor = 1; \x7d"

/-- The links have different names, so all lookups find one row. -/
theorem lookups_find_rows_namedSource :
    ∃ text p m, compile namedSource "sql" = .ok text ∧ parse namedSource = .ok p ∧ p.lower = .ok m ∧
      text = Sql.Script.render (Sql.script m) ∧ m.links.map Model.Link.name = ["l", "k"] ∧
      (∀ q n, (q, n) ∈ Sql.Script.finds [] (Sql.script m) → n = 1) ∧ ∀ q n, (q, n) ∈ Sql.readFinds text → n = 1 := by
  have hsays : ((parse namedSource).toOption.map fun p =>
      ((Validator.integers p ++ p.integers).all Number.isFinite, (Validator.run {} p).verdict.passed,
        (p.toModel.links.map Model.Link.name, decide (∀ s ∈ Sql.shownTexts p.toModel, OneLine s)))) =
      some (true, true, ["l", "k"], true) := by
    have hchars : namedSource.toList = _ := toList_append_of (toList_append_of (toList_append_of
      String.toList_ofList String.toList_ofList) String.toList_ofList) String.toList_ofList
    rw [parse_of_toList hchars]
    decide +kernel
  obtain ⟨p, v, hp, hv, hpassed, hm, hsaid⟩ := exists_model_of_source hsays
  obtain ⟨hnames, hshown⟩ := Prod.mk.inj hsaid
  have hcompile : compile namedSource "sql" = .ok (Sql.Script.render (Sql.script p.toModel)) :=
    compile_sql_of_passed hp hv hpassed hm
  obtain ⟨p', m, hp', hm', htext, hread, -, hiff⟩ := lookups_find_rows hcompile
  obtain rfl : p = p' := Except.ok.inj (hp.symm.trans hp')
  obtain rfl : p.toModel = m := Except.ok.inj (hm.symm.trans hm')
  have hone := hiff.2 (by
    rw [hnames]
    decide)
  refine ⟨_, p, _, hcompile, hp, hm, rfl, hnames, hone, ?_⟩
  rw [hread (of_decide_eq_true hshown)]
  exact hone

/-- Two links with one name. -/
def sameNameSource : String :=
  "FAMILY \"F\" \x7b OUTLET \"A\" \x7b identity \x7b id = 1; \x7d; \x7d; "
    ++ "DIACHRONIC_LINK l \x7b predecessor = 1; successor = 1; \x7d; "
    ++ "DIACHRONIC_LINK l \x7b predecessor = 1; successor = 1; \x7d; \x7d"

/-- Not every lookup that is read in what a text compiles to finds one row. -/
theorem not_lookups_find_one :
    ¬∀ source text, compile source "sql" = .ok text → ∀ q n, (q, n) ∈ Sql.readFinds text → n = 1 := by
  intro hone
  have hsays : ((parse sameNameSource).toOption.map fun p =>
      ((Validator.integers p ++ p.integers).all Number.isFinite, (Validator.run {} p).verdict.passed,
        ((Sql.Script.finds [] (Sql.script p.toModel)).getLast?,
          decide (∀ s ∈ Sql.shownTexts p.toModel, OneLine s)))) =
      some (true, true, some (Sql.linkLookup "l", 2), true) := by
    have hchars : sameNameSource.toList = _ :=
      toList_append_of (toList_append_of String.toList_ofList String.toList_ofList) String.toList_ofList
    rw [parse_of_toList hchars]
    decide +kernel
  obtain ⟨p, v, hp, hv, hpassed, hm, hsaid⟩ := exists_model_of_source hsays
  obtain ⟨hlast, hshown⟩ := Prod.mk.inj hsaid
  have hcompile : compile sameNameSource "sql" = .ok (Sql.Script.render (Sql.script p.toModel)) :=
    compile_sql_of_passed hp hv hpassed hm
  have hread : Sql.readFinds (Sql.Script.render (Sql.script p.toModel)) = Sql.Script.finds [] (Sql.script p.toModel) :=
    Sql.readFinds_render fun st hst => (isProper_sqlScript hp (of_decide_eq_true hshown) st hst).readable
  have htwo : 2 = 1 := hone _ _ hcompile _ 2 (hread ▸ List.mem_of_getLast? hlast)
  cases htwo

end MediaLanguage
