import MediaLanguage.Proofs.Validation.Order

/-!
# What a passed validation says

A validation passes when none of its issues is an error. A rule that gives an error when it is broken is then kept
(`kept_of_passed`), and the rules for references say that what a program names is declared.

* `variable_declared`, `template_declared`, `base_declared`, `data_declared` and `end_declared`: what is used, taken
  over, described or linked in a program that passes is in the table of symbols.
* `exists_binding`, `exists_template` and `exists_outlet`: what is in the table is declared by a statement.
* `nodup_declarations`: a program that passes declares nothing twice, so no two outlets have the same number
  (`nodup_declaredIds`).
-/

namespace MediaLanguage

open Ast

/-- The issue of a broken rule. -/
@[simp] theorem Issue.mem_when {i j : Issue} {broken : Bool} : i ∈ j.when broken ↔ broken = true ∧ i = j := by
  cases broken <;> simp [Issue.when]

/-- The number of the outlet that a symbol is. -/
def Symbol.outlet? : Symbol → Option Int
  | .outlet id => some id
  | _ => none

@[simp] theorem Symbol.outlet?_eq_some {symbol : Symbol} {id : Int} :
    symbol.outlet? = some id ↔ symbol = .outlet id := by
  cases symbol <;> simp [outlet?]

/-- The validation of a program finds no error. -/
def Ast.Program.Passes (p : Program) : Prop :=
  (Validator.run {} p).verdict.passed = true

/-- A program whose numbers have integer parts has a verdict. -/
theorem validate_of_finite {p : Program} (h : ∀ x ∈ Validator.integers p, x.isFinite) :
    p.validate = .ok (Validator.run {} p).verdict := by
  rw [Program.validate, Number.requireIntegers_of_finite h]
  rfl

/-- The verdict on a program is that of a run over it. -/
theorem eq_verdict_of_validate {p : Program} {v : Verdict} (h : p.validate = .ok v) :
    v = (Validator.run {} p).verdict := by
  unfold Program.validate at h
  cases hintegers : Number.requireIntegers (Validator.integers p) with
  | error e =>
    rw [hintegers] at h
    cases h
  | ok =>
    rw [hintegers] at h
    cases h
    rfl

/-- The verdict on a program passes when the program does. -/
theorem passes_of_validate {p : Program} {v : Verdict} (h : p.validate = .ok v) (hpassed : v.passed = true) :
    p.Passes := by
  rwa [eq_verdict_of_validate h] at hpassed

section Passed

variable {p : Program} {symbol : Symbol}

/-- A program passes when no issue of its validation is an error. -/
theorem passes_iff : p.Passes ↔ ∀ i ∈ (Validator.run {} p).issues, i.severity ≠ .error := by
  simp [Program.Passes, Validator.verdict, Validator.summary, Validator.count, List.countP_eq_zero]

/-- A rule whose breaking is an error is kept. -/
theorem kept_of_passed (h : p.Passes) {i : Issue} {kept : Bool} (hissue : ∀ j ∈ i.when (!kept), j ∈ p.ruleIssues)
    (herror : i.severity = .error) : kept = true := by
  by_contra hbroken
  have hmem : i ∈ p.ruleIssues := hissue i (Issue.mem_when.2 ⟨by simpa using hbroken, rfl⟩)
  have hrun : i ∈ (Validator.run {} p).issues := by
    rw [Validator.issues_run]
    exact List.mem_append_right _ hmem
  exact passes_iff.1 h i hrun herror

/-- The issues of a statement are issues of the program. -/
theorem mem_ruleIssues_of_statement {s : Statement} (hs : s ∈ p.statements) {i : Issue}
    (hi : i ∈ s.check p.collected.1 ["Program"]) : i ∈ p.ruleIssues :=
  List.mem_append_left _ (List.mem_flatMap.2 ⟨s, hs, hi⟩)

/-- The issues of references are issues of the program. -/
theorem mem_ruleIssues_of_reference {i : Issue} (hi : i ∈ p.checkReferences p.collected.1 ["Program"]) :
    i ∈ p.ruleIssues :=
  List.mem_append_right _ hi

/-! ## What is named is declared -/

/-- A variable that is used is declared. -/
theorem variable_declared (h : p.Passes) {use : String × Position} (huse : use ∈ p.variableUses) :
    p.collected.1.declares (.letVariable use.1) := by
  have hissue : ∀ i ∈ checkUse p.collected.1 (["Program"] ++ ["References"]) use, i ∈ p.ruleIssues := fun i hi =>
    mem_ruleIssues_of_reference (List.mem_append_right _ (List.mem_flatMap.2 ⟨use, huse, hi⟩))
  exact kept_of_passed h hissue rfl

/-- The issues of what an outlet takes over are issues of the program. -/
theorem mem_ruleIssues_of_inheritance {f : Family} (hf : f ∈ p.families) {o : Outlet} (ho : o ∈ f.outlets) {i : Issue}
    (hi : i ∈ o.checkInheritance p.collected.1 (["Program"] ++ ["References"] ++ [s!"Family({f.name})"])) :
    i ∈ p.ruleIssues := by
  refine mem_ruleIssues_of_reference (List.mem_append_left _ ?_)
  exact List.mem_flatMap.2 ⟨f, hf, List.mem_flatMap.2 ⟨o, ho, hi⟩⟩

/-- A template that an outlet extends is declared. -/
theorem template_declared (h : p.Passes) {o : Outlet} (ho : o ∈ p.outlets) {name : String} {position : Position}
    (hbase : o.inheritance = some (.template name position)) : p.collected.1.declares (.template name) := by
  obtain ⟨f, hf, ho⟩ := List.mem_flatMap.1 ho
  have hissue := fun i => mem_ruleIssues_of_inheritance hf ho (i := i)
  rw [Outlet.checkInheritance, hbase] at hissue
  exact kept_of_passed h hissue rfl

/-- An outlet that another one is based on is declared. -/
theorem base_declared (h : p.Passes) {o : Outlet} (ho : o ∈ p.outlets) {id : Number} {position : Position}
    (hbase : o.inheritance = some (.outlet id position)) : p.collected.1.declares (.outlet id.integerPart) := by
  obtain ⟨f, hf, ho⟩ := List.mem_flatMap.1 ho
  have hissue := fun i => mem_ruleIssues_of_inheritance hf ho (i := i)
  rw [Outlet.checkInheritance, hbase] at hissue
  exact kept_of_passed h hissue rfl

/-- The issues of a member of a family are issues of the program. -/
theorem mem_ruleIssues_of_member {f : Family} (hf : f ∈ p.families) {m : FamilyMember} (hm : m ∈ f.members) {i : Issue}
    (hi : i ∈ m.check p.collected.1 (["Program"] ++ [s!"Family({f.name})"])) : i ∈ p.ruleIssues := by
  obtain ⟨s, hs, hfamily⟩ := List.mem_filterMap.1 hf
  split at hfamily
  · cases hfamily
    refine mem_ruleIssues_of_statement hs ?_
    refine List.mem_append_left _ (List.mem_append_left _ (List.mem_append_right _ ?_))
    exact List.mem_flatMap.2 ⟨m, hm, hi⟩
  · cases hfamily

/-- Data inside or outside the families of a program. -/
def Ast.Program.allData (p : Program) : List Data :=
  p.families.flatMap Family.data ++ p.looseData

/-- The outlet that data describe is declared. -/
theorem data_declared (h : p.Passes) {d : Data} (hd : d ∈ p.allData) :
    p.collected.1.declares (.outlet d.target.integerPart) := by
  obtain hfamily | hloose := List.mem_append.1 hd
  · obtain ⟨f, hf, hd⟩ := List.mem_flatMap.1 hfamily
    obtain ⟨m, hm, hdata⟩ := List.mem_filterMap.1 hd
    split at hdata
    · cases hdata
      have hissue := fun i hi => mem_ruleIssues_of_member hf hm (List.mem_append_left _ hi) (i := i)
      exact kept_of_passed h hissue rfl
    · cases hdata
  · obtain ⟨s, hs, hdata⟩ := List.mem_filterMap.1 hloose
    split at hdata
    · cases hdata
      have hissue := fun i hi => mem_ruleIssues_of_statement hs (List.mem_append_left _ hi) (i := i)
      exact kept_of_passed h hissue rfl
    · cases hdata

/-- The numbers at the two ends of a link, which may be left out. -/
def Ast.Link.ends : Link → List (Option Number)
  | .diachronic l => [l.predecessor, l.successor]
  | .synchronous l => [l.first.map OutletSpec.outlet, l.second.map OutletSpec.outlet]

/-- Links inside or outside the families of a program. -/
def Ast.Program.allLinks (p : Program) : List Link :=
  p.families.flatMap Family.links ++ p.looseLinks

/-- The issues of a link are issues of the program. -/
theorem mem_ruleIssues_of_link {l : Link} (hl : l ∈ p.allLinks) :
    ∃ path, ∀ i ∈ l.check p.collected.1 path, i ∈ p.ruleIssues := by
  obtain hfamily | hloose := List.mem_append.1 hl
  · obtain ⟨f, hf, hl⟩ := List.mem_flatMap.1 hfamily
    obtain ⟨m, hm, hlink⟩ := List.mem_filterMap.1 hl
    split at hlink
    · cases hlink
      exact ⟨_, fun i hi => mem_ruleIssues_of_member hf hm hi⟩
    · cases hlink
  · obtain ⟨s, hs, hlink⟩ := List.mem_filterMap.1 hloose
    split at hlink
    · cases hlink
      exact ⟨_, fun i hi => mem_ruleIssues_of_statement hs hi⟩
    · cases hlink

/-- A number is declared if it would be an error that it is not. -/
theorem declared_of_issues (h : p.Passes) {issue : Int → Issue} {x : Option Number} {id : Int}
    (hissues : ∀ i ∈ (x.map Number.integerPart).toList.flatMap fun id =>
      (issue id).when (!p.collected.1.declares (.outlet id)), i ∈ p.ruleIssues)
    (herror : ∀ id, (issue id).severity = .error) (hid : x.map Number.integerPart = some id) :
    p.collected.1.declares (.outlet id) := by
  refine kept_of_passed h (fun i hi => hissues i ?_) (herror id)
  exact List.mem_flatMap.2 ⟨id, Option.mem_toList.2 hid, hi⟩

/-- An outlet that a link names is declared. -/
theorem end_declared (h : p.Passes) {l : Link} (hl : l ∈ p.allLinks) {x : Number} (hx : some x ∈ l.ends) :
    p.collected.1.declares (.outlet x.integerPart) := by
  obtain ⟨path, hissues⟩ := mem_ruleIssues_of_link hl
  cases l with
  | diachronic l =>
    obtain ⟨hends, -⟩ := List.forall_mem_append.1 hissues
    obtain ⟨hpredecessor, hsuccessor⟩ := List.forall_mem_append.1 hends
    obtain hx | hx : some x = l.predecessor ∨ some x = l.successor := by simpa [Link.ends] using hx
    · exact declared_of_issues h hpredecessor (fun _ => rfl) (by rw [← hx, Option.map_some])
    · exact declared_of_issues h hsuccessor (fun _ => rfl) (by rw [← hx, Option.map_some])
  | synchronous l =>
    obtain ⟨hends, -⟩ := List.forall_mem_append.1 hissues
    rw [← Function.comp_def, ← Option.map_map, ← Option.map_map] at hends
    obtain ⟨hfirst, hsecond⟩ := List.forall_mem_append.1 hends
    obtain hx | hx : some x = l.first.map OutletSpec.outlet ∨ some x = l.second.map OutletSpec.outlet := by
      simpa [Link.ends, eq_comm] using hx
    · exact declared_of_issues h hfirst (fun _ => rfl) (by rw [← hx, Option.map_some])
    · exact declared_of_issues h hsecond (fun _ => rfl) (by rw [← hx, Option.map_some])

/-! ## What is declared stands in the program -/

/-- The table of a program declares what a statement of it declares. -/
theorem exists_statement (h : p.collected.1.declares symbol) :
    ∃ s ∈ p.statements, ∃ position, (symbol, position) ∈ s.declarations := by
  rw [Symbols.declares_iff] at h
  obtain hnil | hdeclared := Symbols.mem_keys_collect.1 h
  · cases hnil
  · obtain ⟨⟨_, position⟩, hmem, rfl⟩ := List.mem_map.1 hdeclared
    obtain ⟨s, hs, hmem⟩ := List.mem_flatMap.1 hmem
    exact ⟨s, hs, position, hmem⟩

/-- A family declares its name and the numbers of its outlets. -/
theorem declaration_of_family {f : Family} {position : Position}
    (h : (symbol, position) ∈ (Statement.family f).declarations) :
    symbol = .family f.name ∨ ∃ o ∈ f.outlets, ∃ id, o.declaredId? = some id ∧ symbol = .outlet id := by
  obtain hname | houtlets := List.mem_cons.1 h
  · exact .inl (Prod.mk.inj hname).1
  · obtain ⟨o, ho, hmem⟩ := List.mem_flatMap.1 houtlets
    obtain ⟨id, hid, heq⟩ := Option.map_eq_some_iff.1 (Option.mem_toList.1 hmem)
    exact .inr ⟨o, ho, id, hid, (Prod.mk.inj heq).1.symm⟩

/-- A variable of the table is declared by a statement. -/
theorem exists_binding {name : String} (h : p.collected.1.declares (.letVariable name)) :
    ∃ d ∈ p.bindings, d.name = name := by
  obtain ⟨s, hs, position, hmem⟩ := exists_statement h
  cases s with
  | letVariable d =>
    obtain ⟨rfl, -⟩ : name = d.name ∧ position = d.position := by simpa [Statement.declarations] using hmem
    exact ⟨d, List.mem_filterMap.2 ⟨_, hs, rfl⟩, rfl⟩
  | family d => obtain hname | ⟨_, _, _, _, houtlet⟩ := declaration_of_family hmem <;> contradiction
  | _ => simp [Statement.declarations] at hmem

/-- A template of the table is declared by a statement. -/
theorem exists_template {name : String} (h : p.collected.1.declares (.template name)) :
    ∃ d ∈ p.templates, d.name = name := by
  obtain ⟨s, hs, position, hmem⟩ := exists_statement h
  cases s with
  | template d =>
    obtain ⟨rfl, -⟩ : name = d.name ∧ position = d.position := by simpa [Statement.declarations] using hmem
    exact ⟨d, List.mem_filterMap.2 ⟨_, hs, rfl⟩, rfl⟩
  | family d => obtain hname | ⟨_, _, _, _, houtlet⟩ := declaration_of_family hmem <;> contradiction
  | _ => simp [Statement.declarations] at hmem

/-- The number of an outlet of the table is declared by an outlet of a family. -/
theorem exists_outlet {id : Int} (h : p.collected.1.declares (.outlet id)) :
    ∃ o ∈ p.outlets, o.declaredId? = some id := by
  obtain ⟨s, hs, position, hmem⟩ := exists_statement h
  cases s with
  | family d =>
    obtain hname | ⟨o, ho, id', hid, hsymbol⟩ := declaration_of_family hmem
    · contradiction
    · cases hsymbol
      exact ⟨o, List.mem_flatMap.2 ⟨d, List.mem_filterMap.2 ⟨_, hs, rfl⟩, ho⟩, hid⟩
  | _ => simp [Statement.declarations] at hmem

/-! ## What is declared is declared once -/

/-- No symbol is declared again. -/
theorem redeclaredSymbols_of_passed (h : p.Passes) : Symbols.redeclaredSymbols [] p.declarations = [] := by
  rw [List.eq_nil_iff_forall_not_mem]
  intro symbol hmem
  have hfinding : symbol.finding ["Program"] ∈ p.collected.2.map Issue.finding := by
    rw [Program.collected, Symbols.findings_collect]
    exact List.mem_map_of_mem hmem
  obtain ⟨i, hi, hsays⟩ := List.mem_map.1 hfinding
  have hrun : i ∈ (Validator.run {} p).issues := by
    rw [Validator.issues_run]
    exact List.mem_append_left _ hi
  exact passes_iff.1 h i hrun (congrArg Finding.severity hsays)

/-- Every symbol is declared once. -/
theorem nodup_declarations (h : p.Passes) : (p.declarations.map Prod.fst).Nodup := by
  rw [List.nodup_iff_count_le_one]
  intro symbol
  have hcount : (Symbols.redeclaredSymbols [] p.declarations).count symbol = _ :=
    Symbols.count_redeclaredSymbols symbol
  rw [redeclaredSymbols_of_passed h, List.count_nil, if_neg (by simp [Symbols.keys])] at hcount
  omega

/-- An outlet declares its number, if it has one. -/
theorem Ast.Outlet.filterMap_declarations (o : Outlet) :
    (o.declarations.map Prod.fst).filterMap Symbol.outlet? = o.declaredId?.toList := by
  unfold Outlet.declarations
  cases o.declaredId? <;> rfl

/-- The outlets among the declared symbols have the numbers of the outlets of the program. -/
theorem Ast.Program.filterMap_declarations (p : Program) :
    (p.declarations.map Prod.fst).filterMap Symbol.outlet? = p.outlets.filterMap Outlet.declaredId? := by
  unfold Program.declarations Program.outlets Program.families
  rw [List.filterMap_eq_flatMap_toList _ p.statements, List.flatMap_assoc, List.map_flatMap, List.filterMap_flatMap,
    List.filterMap_flatMap]
  congr 1
  funext s
  cases s with
  | family f =>
    show ((f.outlets.flatMap Outlet.declarations).map Prod.fst).filterMap Symbol.outlet? =
      (f.outlets ++ []).filterMap Outlet.declaredId?
    rw [List.append_nil, List.map_flatMap, List.filterMap_flatMap, List.filterMap_eq_flatMap_toList]
    congr 1
    funext o
    exact o.filterMap_declarations
  | _ => rfl

/-- Every outlet has a number of its own, if it has one. -/
theorem nodup_declaredIds (h : p.Passes) : (p.outlets.filterMap Outlet.declaredId?).Nodup := by
  rw [← p.filterMap_declarations]
  refine (nodup_declarations h).filterMap fun a b id ha hb => ?_
  rw [Symbol.outlet?_eq_some.1 ha, Symbol.outlet?_eq_some.1 hb]

end Passed

end MediaLanguage
