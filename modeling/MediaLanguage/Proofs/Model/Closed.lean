import MediaLanguage.Proofs.Characters
import MediaLanguage.Proofs.Validation.Passed

/-!
# Models of programs that pass are closed

A model names variables, templates and outlets, and what it names need not be there. It is there when the model is
that of a program whose validation passes. Validation and lowering go through a program each in its own way, so this
needs that no expression is lowered which validation has not seen.

* `Expr.references_lower`: the variables of a value are those of its expression, at every depth.
* `Program.drawn_of_mem`: every value of a model is drawn from expressions that validation looks at.
* `lower_closed`: a program whose numbers are finite has a verdict and a model, and if it passes the model is closed.
-/

namespace MediaLanguage

/-! ## What a model names -/

namespace Model

mutual

/-- The variables that a value uses, at every depth. -/
def Value.references : Value → List String
  | .reference name => [name]
  | .object fields => fieldReferences fields
  | .array items => itemReferences items
  | .string _ | .number _ | .boolean _ => []

/-- The variables that the fields of an object use. -/
def fieldReferences : List (String × Value) → List String
  | [] => []
  | (_, value) :: fields => value.references ++ fieldReferences fields

/-- The variables that the items of an array use. -/
def itemReferences : List Value → List String
  | [] => []
  | value :: items => value.references ++ itemReferences items

end

/-- The named values of a model: its variables, and the fields of its templates, outlets and events. -/
def Program.assignments (m : Program) : List Assignment :=
  m.bindings ++ m.templates.flatMap (fun t => t.blocks.flatMap TemplateBlock.fields)
    ++ m.outlets.flatMap (fun o => o.blocks.flatMap Block.fields) ++ m.events.flatMap fun e => e.impact ++ e.metadata

/-- The numbers of the outlets of a model. -/
def Program.outletIds (m : Program) : List Int :=
  m.outlets.filterMap Outlet.id

/-- A model that has what it names. -/
structure Program.Closed (m : Program) : Prop where
  /-- Every variable that a value uses, at any depth. -/
  references : ∀ a ∈ m.assignments, ∀ name ∈ a.value.references, ∃ b ∈ m.bindings, b.name = name
  /-- Every template that an outlet extends. -/
  templates : ∀ o ∈ m.outlets, ∀ name, o.templateRef = some name → ∃ t ∈ m.templates, t.name = name
  /-- Every outlet that an outlet is based on. -/
  bases : ∀ o ∈ m.outlets, ∀ id, o.baseRef = some id → ∃ b ∈ m.outlets, b.id = some id
  /-- Every outlet that data describe. -/
  data : ∀ d ∈ m.data, ∃ o ∈ m.outlets, o.id = some d.outlet

end Model

open Ast

/-! ## Values and expressions -/

namespace Ast

/-- The variables that an expression uses, at every depth. -/
def Expr.uses (e : Expr) : List String :=
  (e.walk.filterMap Expr.use?).map Prod.fst

/-- The variables that the members of an object use. -/
def memberUses (members : List Member) : List String :=
  ((walkMembers members).filterMap Expr.use?).map Prod.fst

mutual

/-- The value of an expression uses the variables of the expression. -/
theorem Expr.references_lower : ∀ e : Expr, e.lower.references = e.uses
  | .string .. | .number .. | .boolean .. | .reference .. => rfl
  | .object members position => by
    rw [Expr.lower, Model.Value.references, references_lowerMembers members]
    rfl

/-- The fields of an object use the variables of its members. -/
theorem references_lowerMembers : ∀ members : List Member,
    Model.fieldReferences (lowerMembers members) = memberUses members
  | [] => rfl
  | .assignment name value position :: members => by
    rw [lowerMembers, Model.fieldReferences, Expr.references_lower value, references_lowerMembers members]
    simp [Expr.uses, memberUses, walkMembers]
  | .period name range position :: members => by
    -- the two ends of a period are strings
    have hends : (Model.Value.object (("from", .string range.start.text) ::
        (range.finish.map fun d => ("to", Model.Value.string d.text)).toList)).references = [] := by
      cases range.finish <;> rfl
    rw [lowerMembers, Model.fieldReferences, references_lowerMembers members, hends]
    rfl

end

/-- The array of some objects uses the variables of the objects. -/
theorem references_array (objects : List ObjectLiteral) :
    Model.itemReferences (objects.map ObjectLiteral.lower) = objects.flatMap fun o => o.toExpr.uses := by
  induction objects with
  | nil => rfl
  | cons o objects ih =>
    rw [List.map_cons, Model.itemReferences, ih, ObjectLiteral.lower, Expr.references_lower, List.flatMap_cons]

/-! ## Values drawn from expressions -/

/-- The value uses no variable that none of the expressions uses. -/
def Drawn (es : List Expr) (a : Model.Assignment) : Prop :=
  ∀ name ∈ a.value.references, ∃ e ∈ es, name ∈ e.uses

section Drawn

variable {es fs : List Expr} {a : Model.Assignment}

/-- A value is drawn from more expressions. -/
theorem Drawn.mono (h : Drawn es a) (hsub : es ⊆ fs) : Drawn fs a := by
  intro name hname
  obtain ⟨e, he, huse⟩ := h name hname
  exact ⟨e, hsub he, huse⟩

/-- A value that is drawn from one part is drawn from all parts. -/
theorem Drawn.flatMap {β : Type} {part : β → List Expr} {b : β} {bs : List β} (h : Drawn (part b) a) (hb : b ∈ bs) :
    Drawn (bs.flatMap part) a :=
  h.mono fun _ he => List.mem_flatMap.2 ⟨b, hb, he⟩

/-- A named value is drawn from its expression. -/
theorem drawn_lower (name : String) (e : Expr) : Drawn [e] ⟨name, e.lower⟩ := by
  intro used hused
  rw [Expr.references_lower] at hused
  exact ⟨e, List.mem_singleton_self e, hused⟩

/-- Assignments are drawn from their values. -/
theorem drawn_assignments {as : List Assignment} (ha : a ∈ as.map Assignment.lower) :
    Drawn (as.map Assignment.value) a := by
  obtain ⟨b, hb, rfl⟩ := List.mem_map.1 ha
  refine (drawn_lower b.name b.value).mono fun e he => ?_
  rw [List.mem_singleton.1 he]
  exact List.mem_map_of_mem hb

/-- The fields of a block are drawn from its expressions. -/
theorem drawn_lowerFields {fields : List Field} (ha : a ∈ lowerFields fields) : Drawn (fieldExpressions fields) a :=
  drawn_assignments ha

/-- An identity field is drawn from its expressions. -/
theorem IdentityField.drawn {f : IdentityField} (ha : f.lower? = some a) : Drawn f.expressions a := by
  cases f with
  | assignment b =>
    cases ha
    exact drawn_lower b.name b.value
  | array b =>
    cases ha
    intro name hname
    rw [Model.Value.references, references_array] at hname
    obtain ⟨o, ho, huse⟩ := List.mem_flatMap.1 hname
    exact ⟨o.toExpr, List.mem_map_of_mem ho, huse⟩
  | comment c => cases ha

/-- The fields of a block of an outlet are drawn from its expressions. -/
theorem Block.drawn {b : Block} {m : Model.Block} (hb : b.lower? = some m) (ha : a ∈ m.fields) :
    Drawn b.expressions a := by
  cases b with
  | identity b =>
    cases hb
    obtain ⟨f, hf, hlower⟩ := List.mem_filterMap.1 ha
    exact (f.drawn hlower).flatMap hf
  | lifecycle b =>
    cases hb
    cases ha
  | characteristics b =>
    cases hb
    exact drawn_lowerFields ha
  | metadata b =>
    cases hb
    exact drawn_lowerFields ha
  | comment c => cases hb

/-- The fields of a block of a template are drawn from its expressions. -/
theorem Block.drawn_template {b : Block} {m : Model.TemplateBlock} (hb : b.lowerTemplate? = some m)
    (ha : a ∈ m.fields) : Drawn b.expressions a := by
  cases b with
  | characteristics b =>
    cases hb
    exact drawn_lowerFields ha
  | metadata b =>
    cases hb
    exact drawn_lowerFields ha
  | identity b => cases hb
  | lifecycle b => cases hb
  | comment c => cases hb

/-- The fields of an outlet are drawn from the expressions of its blocks. -/
theorem Outlet.drawn {o : Outlet} (ha : a ∈ o.lower.blocks.flatMap Model.Block.fields) :
    Drawn (o.blocks.flatMap Block.expressions) a := by
  obtain ⟨m, hm, ha⟩ := List.mem_flatMap.1 ha
  obtain ⟨b, hb, hlower⟩ := List.mem_filterMap.1 hm
  exact (b.drawn hlower ha).flatMap hb

/-- The fields of a template are drawn from the expressions of its blocks. -/
theorem Template.drawn {t : Template} (ha : a ∈ t.lower.blocks.flatMap Model.TemplateBlock.fields) :
    Drawn (t.blocks.flatMap Block.expressions) a := by
  obtain ⟨m, hm, ha⟩ := List.mem_flatMap.1 ha
  obtain ⟨b, hb, hlower⟩ := List.mem_filterMap.1 hm
  exact (b.drawn_template hlower ha).flatMap hb

/-- The fields of an event are drawn from its expressions. -/
theorem Event.drawn {e : Event} (ha : a ∈ e.lower.impact ++ e.lower.metadata) :
    Drawn (Statement.event e).expressions a := by
  apply drawn_assignments
  rw [List.map_append]
  exact ha

end Drawn

end Ast

/-! ## Parts of a model -/

section Parts

variable {p : Program}

/-- Families adopt no outlets. -/
theorem outlets_adopt (families : List Model.Family) (links : List Model.Link) (data : List Model.DataBlock) :
    (adopt families links data).flatMap Model.Family.outlets = families.flatMap Model.Family.outlets := by
  unfold adopt
  split
  · rfl
  · cases families <;> rfl

/-- Families adopt data. -/
theorem mem_data_adopt {families : List Model.Family} {links : List Model.Link} {data : List Model.DataBlock}
    {d : Model.DataBlock} (h : d ∈ (adopt families links data).flatMap Model.Family.data) :
    d ∈ families.flatMap Model.Family.data ∨ d ∈ data := by
  unfold adopt at h
  split at h
  · exact .inl h
  · cases families with
    | nil => simpa [globalFamily] using h
    | cons first others =>
      simp only [List.flatMap_cons, List.mem_append] at h ⊢
      tauto

/-- The model of a program, if it has one. -/
theorem Ast.Program.eq_toModel {m : Model.Program} (h : p.lower = .ok m) : m = p.toModel := by
  unfold Program.lower at h
  cases hintegers : Number.requireIntegers p.integers with
  | error e =>
    rw [hintegers] at h
    cases h
  | ok =>
    rw [hintegers] at h
    cases h
    rfl

/-- The outlets of a model are those of the program. -/
theorem Ast.Program.outlets_toModel (p : Program) : p.toModel.outlets = p.outlets.map Outlet.lower := by
  show (adopt _ _ _).flatMap Model.Family.outlets = _
  rw [outlets_adopt, List.flatMap_map, Program.outlets, List.map_flatMap]
  rfl

/-- The data of a model are those of the program. -/
theorem Ast.Program.exists_of_mem_data {d : Model.DataBlock} (h : d ∈ p.toModel.data) :
    ∃ d' ∈ p.allData, d'.lower = d := by
  obtain hfamily | hloose := mem_data_adopt h
  · rw [List.flatMap_map] at hfamily
    obtain ⟨f, hf, hd⟩ := List.mem_flatMap.1 hfamily
    obtain ⟨d', hd', rfl⟩ := List.mem_map.1 hd
    exact ⟨d', List.mem_append_left _ (List.mem_flatMap.2 ⟨f, hf, hd'⟩), rfl⟩
  · obtain ⟨d', hd', rfl⟩ := List.mem_map.1 hloose
    exact ⟨d', List.mem_append_right _ hd', rfl⟩

/-- A value that is drawn from a statement is drawn from the program. -/
theorem Ast.Drawn.of_statement {s : Statement} (hs : s ∈ p.statements) {a : Model.Assignment}
    (h : Drawn s.expressions a) : Drawn p.expressions a :=
  h.flatMap hs

/-- Every value of a model is drawn from the expressions of the program. -/
theorem Ast.Program.drawn_of_mem {a : Model.Assignment} (ha : a ∈ p.toModel.assignments) : Drawn p.expressions a := by
  unfold Model.Program.assignments at ha
  rw [p.outlets_toModel, List.mem_append, List.mem_append, List.mem_append] at ha
  obtain ((hbinding | htemplate) | houtlet) | hevent := ha
  · obtain ⟨d, hd, rfl⟩ := List.mem_map.1 hbinding
    obtain ⟨s, hs, hlet⟩ := List.mem_filterMap.1 hd
    split at hlet <;> cases hlet
    exact .of_statement hs (drawn_lower d.name d.value)
  · obtain ⟨t, ht, ha⟩ := List.mem_flatMap.1 htemplate
    obtain ⟨d, hd, rfl⟩ := List.mem_map.1 ht
    obtain ⟨s, hs, htemplate⟩ := List.mem_filterMap.1 hd
    split at htemplate <;> cases htemplate
    exact .of_statement hs (Template.drawn ha)
  · obtain ⟨t, ht, ha⟩ := List.mem_flatMap.1 houtlet
    obtain ⟨o, ho, rfl⟩ := List.mem_map.1 ht
    obtain ⟨f, hf, ho⟩ := List.mem_flatMap.1 ho
    obtain ⟨s, hs, hfamily⟩ := List.mem_filterMap.1 hf
    split at hfamily <;> cases hfamily
    refine .of_statement hs ((Outlet.drawn ha).mono fun e he => ?_)
    exact List.mem_append_left _ (List.mem_flatMap.2 ⟨o, ho, he⟩)
  · obtain ⟨t, ht, ha⟩ := List.mem_flatMap.1 hevent
    obtain ⟨e, he, rfl⟩ := List.mem_map.1 ht
    obtain ⟨s, hs, hevent⟩ := List.mem_filterMap.1 he
    split at hevent <;> cases hevent
    exact .of_statement hs (Event.drawn ha)

/-- The variables of an expression of a program are variables that the program uses. -/
theorem Ast.Program.exists_use {e : Expr} (he : e ∈ p.expressions) {name : String} (hname : name ∈ e.uses) :
    ∃ position, (name, position) ∈ p.variableUses := by
  obtain ⟨⟨_, position⟩, huse, rfl⟩ := List.mem_map.1 hname
  obtain ⟨f, hf, huse⟩ := List.mem_filterMap.1 huse
  exact ⟨position, List.mem_filterMap.2 ⟨f, List.mem_flatMap.2 ⟨e, he, hf⟩, huse⟩⟩

end Parts

/-! ## Closed models -/

section Closed

variable {p : Program}

/-- An outlet that is declared is in the model. -/
theorem exists_model_outlet {id : Int} (h : p.collected.1.declares (.outlet id)) :
    ∃ o ∈ p.toModel.outlets, o.id = some id := by
  obtain ⟨o, ho, hid⟩ := exists_outlet h
  rw [p.outlets_toModel]
  exact ⟨o.lower, List.mem_map_of_mem ho, hid⟩

/-- The model of a program that passes is closed. -/
theorem closed_of_passes (h : p.Passes) : p.toModel.Closed where
  references := by
    intro a ha name hname
    obtain ⟨e, he, huse⟩ := Program.drawn_of_mem ha name hname
    obtain ⟨position, huse⟩ := Program.exists_use he huse
    obtain ⟨d, hd, rfl⟩ := exists_binding (variable_declared h huse)
    exact ⟨_, List.mem_map_of_mem hd, rfl⟩
  templates := by
    intro o ho name hname
    rw [p.outlets_toModel] at ho
    obtain ⟨source, hsource, rfl⟩ := List.mem_map.1 ho
    obtain ⟨clause, hclause, htemplate⟩ := Option.bind_eq_some_iff.1 hname
    cases clause with
    | template base position =>
      cases htemplate
      obtain ⟨t, ht, rfl⟩ := exists_template (template_declared h hsource hclause)
      exact ⟨t.lower, List.mem_map_of_mem ht, rfl⟩
    | outlet => cases htemplate
  bases := by
    intro o ho id hid
    rw [p.outlets_toModel] at ho
    obtain ⟨source, hsource, rfl⟩ := List.mem_map.1 ho
    obtain ⟨number, hnumber, rfl⟩ := Option.map_eq_some_iff.1 hid
    obtain ⟨clause, hclause, houtlet⟩ := Option.bind_eq_some_iff.1 hnumber
    cases clause with
    | template => cases houtlet
    | outlet base position =>
      cases houtlet
      exact exists_model_outlet (base_declared h hsource hclause)
  data := by
    intro d hd
    obtain ⟨source, hsource, rfl⟩ := Program.exists_of_mem_data hd
    exact exists_model_outlet (data_declared h hsource)

/-- A program that passes has a model, if its numbers are finite, and the model has what it names. -/
theorem lower_closed (hfinite : ∀ x ∈ p.integers, x.isFinite) {v : Verdict} (hv : p.validate = .ok v)
    (hpassed : v.passed = true) : ∃ m, p.lower = .ok m ∧ m.Closed := by
  refine ⟨p.toModel, ?_, closed_of_passes (passes_of_validate hv hpassed)⟩
  rw [Program.lower, Number.requireIntegers_of_finite hfinite]
  rfl

/-- What is computed of a text whose program passes and has a model holds of the verdict and the model. -/
theorem exists_model_of_source {source : String} {α : Type} {say : Program → α} {said : α}
    (h : ((parse source).toOption.map fun p => ((Validator.integers p ++ p.integers).all Number.isFinite,
      (Validator.run {} p).verdict.passed, say p)) = some (true, true, said)) :
    ∃ p v, parse source = .ok p ∧ p.validate = .ok v ∧ v.passed = true ∧ p.lower = .ok p.toModel ∧ say p = said := by
  cases hp : parse source with
  | error e =>
    rw [hp] at h
    cases h
  | ok p =>
    rw [hp] at h
    obtain ⟨hfinite, hpassed, hsaid⟩ : (Validator.integers p ++ p.integers).all Number.isFinite = true ∧
        (Validator.run {} p).verdict.passed = true ∧ say p = said := by
      simpa [Except.toOption] using h
    rw [List.all_append, Bool.and_eq_true, List.all_eq_true, List.all_eq_true] at hfinite
    have hlower : p.lower = .ok p.toModel := by
      rw [Program.lower, Number.requireIntegers_of_finite hfinite.2]
      rfl
    exact ⟨p, _, rfl, validate_of_finite hfinite.1, hpassed, hlower, hsaid⟩

/-- A variable that an object in a template and an item of an identity use, an outlet that extends the template, an
outlet that is based on the first, and data. -/
def closedSample : Program :=
  ⟨[.letVariable ⟨"x", .number (.finite false 1 0) ⟨1, 9, 8⟩, ⟨1, 1, 0⟩⟩,
    .template ⟨"T", "OUTLET", [.metadata ⟨[.assignment ⟨"k",
      .object [.assignment "y" (.reference "x" ⟨2, 34, 43⟩) ⟨2, 30, 39⟩] ⟨2, 28, 37⟩, ⟨2, 24, 33⟩⟩], ⟨2, 15, 24⟩⟩],
      ⟨2, 1, 10⟩⟩,
    .family ⟨"F", [
      .outlet ⟨"A", some (.template "T" ⟨4, 12, 70⟩), [.identity ⟨[
        .assignment ⟨"ID", .number (.finite false 3 (-1)) ⟨5, 18, 110⟩, ⟨5, 13, 105⟩⟩,
        .array ⟨"k", [⟨[.assignment "y" (.reference "x" ⟨6, 11, 130⟩) ⟨6, 9, 128⟩], ⟨6, 7, 126⟩⟩], ⟨6, 3, 122⟩⟩],
        ⟨5, 3, 95⟩⟩], ⟨4, 3, 61⟩⟩,
      .outlet ⟨"B", some (.outlet (.finite false 1 0) ⟨8, 12, 150⟩), [.identity ⟨[
        .assignment ⟨"id", .number (.finite false 1 1) ⟨8, 35, 173⟩, ⟨8, 30, 168⟩⟩], ⟨8, 21, 159⟩⟩], ⟨8, 3, 141⟩⟩],
      ⟨3, 1, 48⟩⟩,
    .data ⟨.finite false 1 1, [], ⟨10, 1, 190⟩⟩]⟩

/-- The sample passes, so its model is closed. -/
theorem lower_closed_sample :
    (∀ x ∈ closedSample.integers, x.isFinite) ∧ closedSample.validate = .ok (Validator.run {} closedSample).verdict ∧
      (Validator.run {} closedSample).verdict.passed = true ∧ ∃ m, closedSample.lower = .ok m ∧ m.Closed := by
  have hfinite : ∀ x ∈ closedSample.integers, x.isFinite := by decide +kernel
  have hv : closedSample.validate = .ok (Validator.run {} closedSample).verdict :=
    validate_of_finite (by decide +kernel)
  have hpassed : (Validator.run {} closedSample).verdict.passed = true := by decide +kernel
  exact ⟨hfinite, hv, hpassed, lower_closed hfinite hv hpassed⟩

end Closed

end MediaLanguage
