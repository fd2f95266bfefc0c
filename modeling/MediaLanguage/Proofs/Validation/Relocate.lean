import MediaLanguage.Proofs.Model.Relocate
import MediaLanguage.Proofs.Validation.Passed

/-!
# The verdict on a program that is moved

No rule looks at a place: of a program that is moved it finds the same issues at the places moved alike
(`Statement.check_moving`, `Program.checkReferences_relocate`). Only the hint at an earlier declaration spells a place
out, so the issues of symbols that are declared again agree in what they say and in their moved places, but not in
the hint.

* `located_run_relocate`: the issues of a program that is moved are those of the program, at the places moved alike.
* `error?_of_relocate_eq`: of two programs that are moved onto each other both pass, or both fail with an error that
  says the same, at places that are moved onto each other.
-/

namespace MediaLanguage

variable (f : Position → Position)

/-! ## Issues -/

/-- An issue at another place. -/
def Issue.relocate (i : Issue) : Issue :=
  { i with position := f i.position }

/-- What an issue says, and its place after a move. -/
def Issue.located (i : Issue) : Finding × Position :=
  (i.finding, f i.position)

@[simp] theorem Issue.located_relocate (i : Issue) : (i.relocate f).located id = i.located f := rfl

/-- A rule is broken at the other place if it is broken. -/
@[simp] theorem Issue.when_relocate (i : Issue) (broken : Bool) :
    (i.relocate f).when broken = (i.when broken).map (Issue.relocate f) := by
  cases broken <;> rfl

section ContextPath

variable (path : ContextPath) (code message suggestion : String) (position : Position)

@[simp] theorem ContextPath.error_moving :
    path.error code message (f position) suggestion =
      (path.error code message position suggestion).relocate f := rfl

@[simp] theorem ContextPath.warning_moving :
    path.warning code message (f position) suggestion =
      (path.warning code message position suggestion).relocate f := rfl

@[simp] theorem ContextPath.info_moving :
    path.info code message (f position) suggestion = (path.info code message position suggestion).relocate f := rfl

end ContextPath

section Repeats

variable {α κ : Type} [BEq κ] {key : α → κ} {g : α → α}

/-- Elements that are rewritten and keep their keys repeat where the elements do. -/
theorem markRepeats_rewritten (h : ∀ x, key (g x) = key x) (seen : List κ) (xs : List α) :
    markRepeats key seen (xs.map g) = (markRepeats key seen xs).map (Prod.map g id) := by
  induction xs generalizing seen with
  | nil => rfl
  | cons x xs ih => simp [markRepeats, h, ih]

/-- The repeated elements among elements that are rewritten and keep their keys. -/
theorem repeats_rewritten (h : ∀ x, key (g x) = key x) (xs : List α) :
    repeats key (xs.map g) = (repeats key xs).map g := by
  rw [repeats, repeats, markRepeats_rewritten h, List.filter_map]
  simp [Function.comp_def]

end Repeats

namespace Ast

/-! ## Rules -/

section Rules

variable (path : ContextPath)

theorem Import.check_moving (d : Import) :
    (d.view (.moving f)).check path = (d.check path).map (Issue.relocate f) := by
  simp [Import.check, Import.view]

theorem Variable.check_moving (d : Variable) :
    (d.view (.moving f)).check path = (d.check path).map (Issue.relocate f) := by
  simp [Variable.check, Variable.view]

theorem UnitField.check_moving (x : UnitField) :
    (x.view (.moving f)).check path = (x.check path).map (Issue.relocate f) := by
  obtain ⟨name, ⟨type, place⟩, primaryKey, position⟩ := x
  cases type with
  | text length =>
    cases length with
    | none => rfl
    | some length => simp [UnitField.check, UnitField.view, TypeExpr.view]
  | category values => simp [UnitField.check, UnitField.view, TypeExpr.view, Function.comp_def]
  | _ => rfl

theorem UnitDeclaration.check_moving (u : UnitDeclaration) :
    (u.view (.moving f)).check path = (u.check path).map (Issue.relocate f) := by
  have hfields : markRepeats UnitField.name [] (u.fields.map (UnitField.view (.moving f))) =
      (markRepeats UnitField.name [] u.fields).map (Prod.map (UnitField.view (.moving f)) id) :=
    markRepeats_rewritten (g := UnitField.view (.moving f)) (fun _ => rfl) [] u.fields
  have hkeys : (u.fields.map (UnitField.view (.moving f))).any UnitField.primaryKey =
      u.fields.any UnitField.primaryKey := by
    rw [List.any_map]
    rfl
  simp only [UnitDeclaration.check, UnitDeclaration.view, hfields, hkeys, List.flatMap_map, List.map_append,
    List.map_flatMap, Prod.map_fst, Prod.map_snd, UnitField.check_moving]
  simp [UnitField.view]

theorem VocabularyBody.check_moving (b : VocabularyBody) :
    (b.view (.moving f)).check path = (b.check path).map (Issue.relocate f) := by
  have hentries : repeats (fun e : VocabularyEntry => e.key.text) (b.entries.map (VocabularyEntry.view (.moving f))) =
      (repeats (fun e : VocabularyEntry => e.key.text) b.entries).map (VocabularyEntry.view (.moving f)) :=
    repeats_rewritten (g := VocabularyEntry.view (.moving f)) (fun _ => rfl) b.entries
  simp only [VocabularyBody.check, VocabularyBody.view, hentries]
  simp [VocabularyEntry.view, Function.comp_def]

theorem Vocabulary.check_moving (v : Vocabulary) :
    (v.view (.moving f)).check path = (v.check path).map (Issue.relocate f) := by
  simp only [Vocabulary.check, Vocabulary.view, List.map_append]
  rw [flatMap_rewritten (VocabularyBody.check_moving f _)]
  simp

@[simp] theorem Identity.names_moving (b : Identity) : (b.view (.moving f)).names = b.names := by
  rw [names, names, Identity.view, List.filterMap_map]
  congr 1
  funext x
  cases x <;> rfl

theorem checkIdentity_moving (blocks : List Identity) :
    checkIdentity path (blocks.map (Identity.view (.moving f))) =
      (checkIdentity path blocks).map (Issue.relocate f) := by
  cases blocks with
  | nil => rfl
  | cons first others =>
    simp only [List.map_cons, checkIdentity, List.flatMap_cons, List.flatMap_map, Identity.names_moving]
    simp [Identity.view]

theorem Lifecycle.check_moving (b : Lifecycle) :
    (b.view (.moving f)).check path = (b.check path).map (Issue.relocate f) := by
  have hentries : repeats LifecycleEntry.status (b.entries.map (LifecycleEntry.view (.moving f))) =
      (repeats LifecycleEntry.status b.entries).map (LifecycleEntry.view (.moving f)) :=
    repeats_rewritten (g := LifecycleEntry.view (.moving f)) (fun _ => rfl) b.entries
  simp only [Lifecycle.check, Lifecycle.view, hentries]
  simp [LifecycleEntry.view, Function.comp_def]

@[simp] theorem FieldBlock.assignments_moving (b : FieldBlock) :
    (b.view (.moving f)).assignments = b.assignments.map (Assignment.view (.moving f)) :=
  Ast.assignments_moving f b.fields

theorem FieldBlock.checkCharacteristics_moving (b : FieldBlock) :
    (b.view (.moving f)).checkCharacteristics path = (b.checkCharacteristics path).map (Issue.relocate f) := by
  have hassignments : repeats Assignment.name (b.assignments.map (Assignment.view (.moving f))) =
      (repeats Assignment.name b.assignments).map (Assignment.view (.moving f)) :=
    repeats_rewritten (g := Assignment.view (.moving f)) (fun _ => rfl) b.assignments
  simp only [FieldBlock.checkCharacteristics, FieldBlock.assignments_moving, hassignments]
  simp [FieldBlock.view, Assignment.view, Function.comp_def]

theorem FieldBlock.checkMetadata_moving (b : FieldBlock) :
    (b.view (.moving f)).checkMetadata path = (b.checkMetadata path).map (Issue.relocate f) := by
  simp only [FieldBlock.checkMetadata, FieldBlock.assignments_moving]
  simp [FieldBlock.view]

theorem Block.check_moving (b : Block) :
    (b.view (.moving f)).check path = (b.check path).map (Issue.relocate f) := by
  cases b with
  | lifecycle b => exact b.check_moving f path
  | characteristics b => exact b.checkCharacteristics_moving f path
  | metadata b => exact b.checkMetadata_moving f path
  | _ => rfl

theorem checkBlocks_moving (blocks : List Block) :
    checkBlocks path (blocks.map (Block.view (.moving f))) = (checkBlocks path blocks).map (Issue.relocate f) := by
  rw [checkBlocks, checkBlocks, identities_moving, checkIdentity_moving, List.map_append,
    flatMap_rewritten (Block.check_moving f path)]

theorem Template.check_moving (t : Template) :
    (t.view (.moving f)).check path = (t.check path).map (Issue.relocate f) := by
  simp [Template.check, Template.view, checkBlocks_moving]

theorem Outlet.check_moving (o : Outlet) :
    (o.view (.moving f)).check path = (o.check path).map (Issue.relocate f) := by
  have hcharacteristics : (o.blocks.map (Block.view (.moving f))).any Block.isCharacteristics =
      o.blocks.any Block.isCharacteristics := by
    rw [List.any_map]
    congr 1
    funext b
    cases b <;> rfl
  simp only [Outlet.check, Outlet.view, hcharacteristics, identities_moving, checkBlocks_moving]
  simp

variable (symbols : Symbols)

theorem Data.check_moving (d : Data) :
    (d.view (.moving f)).check symbols path = (d.check symbols path).map (Issue.relocate f) := by
  have hcomments : (d.blocks.map (DataBlock.view (.moving f))).all DataBlock.isComment =
      d.blocks.all DataBlock.isComment := by
    rw [List.all_map]
    congr 1
    funext b
    cases b <;> rfl
  simp only [Data.check, Data.view, hcomments]
  simp

theorem DiachronicLink.check_moving (l : DiachronicLink) :
    (l.view (.moving f)).check symbols path = (l.check symbols path).map (Issue.relocate f) := by
  simp [DiachronicLink.check, DiachronicLink.view, List.map_flatMap]

theorem SynchronousLink.check_moving (l : SynchronousLink) :
    (l.view (.moving f)).check symbols path = (l.check symbols path).map (Issue.relocate f) := by
  simp [SynchronousLink.check, SynchronousLink.view, OutletSpec.view, List.map_flatMap, Function.comp_def]

theorem Link.check_moving (l : Link) :
    (l.view (.moving f)).check symbols path = (l.check symbols path).map (Issue.relocate f) := by
  cases l with
  | diachronic l => exact l.check_moving f path symbols
  | synchronous l => exact l.check_moving f path symbols

theorem FamilyMember.check_moving (m : FamilyMember) :
    (m.view (.moving f)).check symbols path = (m.check symbols path).map (Issue.relocate f) := by
  cases m with
  | outlet o => exact o.check_moving f path
  | link l => exact l.check_moving f path symbols
  | data d => exact d.check_moving f path symbols
  | _ => rfl

theorem Family.check_moving (x : Family) :
    (x.view (.moving f)).check symbols path = (x.check symbols path).map (Issue.relocate f) := by
  simp only [Family.check, Family.outlets_moving, Family.links_moving, List.length_map]
  simp only [Family.view, List.map_append]
  rw [flatMap_rewritten (fun m => FamilyMember.check_moving f _ symbols m)]
  simp

/-- The rules for a statement that is moved. -/
theorem Statement.check_moving (s : Statement) :
    (s.view (.moving f)).check symbols path = (s.check symbols path).map (Issue.relocate f) := by
  cases s with
  | importFile d => exact d.check_moving f path
  | letVariable d => exact d.check_moving f path
  | template d => exact d.check_moving f path
  | unit d => exact d.check_moving f path
  | vocabulary d => exact d.check_moving f path
  | family d => exact d.check_moving f path symbols
  | data d => exact d.check_moving f path symbols
  | link d => exact d.check_moving f path symbols
  | _ => rfl

end Rules

/-! ## References -/

section References

variable (path : ContextPath) (symbols : Symbols)

theorem Outlet.checkInheritance_moving (o : Outlet) :
    (o.view (.moving f)).checkInheritance symbols path =
      (o.checkInheritance symbols path).map (Issue.relocate f) := by
  obtain ⟨name, inheritance, blocks, position⟩ := o
  cases inheritance with
  | none => rfl
  | some clause => cases clause <;> simp [Outlet.checkInheritance, Outlet.view, Inheritance.view]

theorem Family.checkInheritance_moving (x : Family) :
    (x.view (.moving f)).checkInheritance symbols path =
      (x.checkInheritance symbols path).map (Issue.relocate f) := by
  rw [Family.checkInheritance, Family.checkInheritance, Family.outlets_moving,
    flatMap_rewritten fun o => Outlet.checkInheritance_moving f _ symbols o]
  rfl

theorem fieldExpressions_moving (fields : List Field) :
    fieldExpressions (fields.map (Field.view (.moving f))) = (fieldExpressions fields).map (Expr.view (.moving f)) := by
  rw [fieldExpressions, fieldExpressions, assignments_moving]
  simp [Assignment.view, Function.comp_def]

theorem IdentityField.expressions_moving (x : IdentityField) :
    (x.view (.moving f)).expressions = x.expressions.map (Expr.view (.moving f)) := by
  cases x <;> simp [IdentityField.view, IdentityField.expressions, ArrayAssignment.view, Assignment.view,
    Function.comp_def]

theorem Block.expressions_moving (b : Block) :
    (b.view (.moving f)).expressions = b.expressions.map (Expr.view (.moving f)) := by
  cases b with
  | identity b => exact flatMap_rewritten (IdentityField.expressions_moving f) b.fields
  | lifecycle b => exact flatMap_rewritten (fun e => fieldExpressions_moving f e.attributes) b.entries
  | characteristics b => exact fieldExpressions_moving f b.fields
  | metadata b => exact fieldExpressions_moving f b.fields
  | comment c => rfl

theorem Data.expressions_moving (d : Data) :
    (d.view (.moving f)).expressions = d.expressions.map (Expr.view (.moving f)) := by
  have hattributes : ∀ m : Metric, (m.view (.moving f)).attributes.map Assignment.value =
      (m.attributes.map Assignment.value).map (Expr.view (.moving f)) := by
    intro m
    simp [Metric.view, Assignment.view, Function.comp_def]
  rw [Data.expressions, Data.expressions, Data.years_moving]
  apply flatMap_rewritten
  intro y
  rw [Year.view, flatMap_rewritten (YearBlock.figures_moving f) y.blocks, flatMap_rewritten hattributes]

theorem SourceField.expressions_moving (x : SourceField) :
    (x.view (.moving f)).expressions = x.expressions.map (Expr.view (.moving f)) := by
  cases x with
  | nested a => exact fieldExpressions_moving f a.fields
  | _ => rfl

/-- The expressions of a statement that is moved. -/
theorem Statement.expressions_moving (s : Statement) :
    (s.view (.moving f)).expressions = s.expressions.map (Expr.view (.moving f)) := by
  have hblocks := flatMap_rewritten (Block.expressions_moving f)
  cases s with
  | template d => exact hblocks d.blocks
  | family d =>
    simp only [Statement.view, Statement.expressions, Family.outlets_moving, Family.data_moving, List.map_append]
    rw [flatMap_rewritten (Data.expressions_moving f), flatMap_rewritten fun o => hblocks o.blocks]
  | data d => exact d.expressions_moving f
  | event d => simp [Statement.view, Statement.expressions, Event.view, Assignment.view, Function.comp_def]
  | catalog d =>
    exact flatMap_rewritten (fun x => flatMap_rewritten (SourceField.expressions_moving f) x.fields) d.sources
  | _ => rfl

mutual

/-- The parts of an expression that is moved. -/
theorem Expr.walk_moving : ∀ e : Expr, (e.view (.moving f)).walk = e.walk.map (Expr.view (.moving f))
  | .string .. | .number .. | .boolean .. | .reference .. => rfl
  | .object members _ => by
    simp only [Expr.view, Expr.walk, List.map_cons, walkMembers_moving members]

/-- The parts of the members of an object that is moved. -/
theorem walkMembers_moving : ∀ members : List Member,
    walkMembers (viewMembers (.moving f) members) = (walkMembers members).map (Expr.view (.moving f))
  | [] => rfl
  | .assignment _ value _ :: members => by
    simp only [viewMembers, Member.view, walkMembers, List.map_append, value.walk_moving, walkMembers_moving members]
  | .period .. :: members => by
    simp only [viewMembers, Member.view, walkMembers, walkMembers_moving members]

end

/-- The variables that a program uses when it is moved. -/
theorem Program.variableUses_relocate (p : Program) :
    (p.relocate f).variableUses = p.variableUses.map (Prod.map id f) := by
  rw [Program.variableUses, Program.variableUses, Program.expressions, Program.expressions, statements_relocate,
    flatMap_rewritten (Statement.expressions_moving f), flatMap_rewritten (Expr.walk_moving f)]
  apply filterMap_rewritten
  intro e
  cases e <;> rfl

/-- The rules for the references of a program that is moved. -/
theorem Program.checkReferences_relocate (p : Program) :
    (p.relocate f).checkReferences symbols path = (p.checkReferences symbols path).map (Issue.relocate f) := by
  have huse : ∀ here use, checkUse symbols here (Prod.map id f use) =
      (checkUse symbols here use).map (Issue.relocate f) := by
    intro here use
    simp [checkUse]
  rw [Program.checkReferences, Program.checkReferences, families_relocate, variableUses_relocate,
    flatMap_rewritten fun x => Family.checkInheritance_moving f _ symbols x, List.flatMap_map]
  simp [huse, List.map_flatMap]

end References

/-! ## Declarations -/

theorem Outlet.declarations_moving (o : Outlet) :
    (o.view (.moving f)).declarations = o.declarations.map (Prod.map id f) := by
  rw [Outlet.declarations, Outlet.declarations, Outlet.declaredId?_moving]
  cases o.declaredId? <;> rfl

theorem Statement.declarations_moving (s : Statement) :
    (s.view (.moving f)).declarations = s.declarations.map (Prod.map id f) := by
  cases s with
  | family d =>
    simp only [Statement.view, Statement.declarations, Family.outlets_moving, List.map_cons]
    rw [flatMap_rewritten (Outlet.declarations_moving f)]
    rfl
  | _ => rfl

/-- What a program declares when it is moved. -/
theorem Program.declarations_relocate (p : Program) :
    (p.relocate f).declarations = p.declarations.map (Prod.map id f) :=
  flatMap_rewritten (Statement.declarations_moving f) p.statements

end Ast

/-- Tables with the same symbols are filled alike by declarations at other places, which raise issues that say the
same there. -/
theorem Symbols.collect_relocate (path : List String) (declarations : List (Symbol × Position)) {s t : Symbols}
    (h : s.keys = t.keys) :
    (s.collect path (declarations.map (Prod.map id f))).1.keys = (t.collect path declarations).1.keys ∧
      (s.collect path (declarations.map (Prod.map id f))).2.map (Issue.located id) =
        (t.collect path declarations).2.map (Issue.located f) := by
  induction declarations generalizing s t with
  | nil => exact ⟨h, rfl⟩
  | cons declaration declarations ih =>
    obtain ⟨symbol, position⟩ := declaration
    have hinsert : (s.insert symbol (f position)).keys = (t.insert symbol position).keys := by
      rw [keys_insert, keys_insert, h]
    obtain ⟨hkeys, hissues⟩ := ih hinsert
    have hdeclares : s.declares symbol = t.declares symbol := by
      rw [Bool.eq_iff_iff, declares_iff, declares_iff, h]
    refine ⟨hkeys, ?_⟩
    simp only [List.map_cons, Prod.map, id, Symbols.collect, List.map_append]
    refine congr (congrArg _ ?_) hissues
    unfold declares at hdeclares
    cases hs : s.find? symbol <;> cases ht : t.find? symbol <;> simp_all [redeclared, Issue.located, Issue.finding]

/-! ## Verdicts -/

section Verdicts

open Ast

variable {f} {g : Position → Position} {p q : Program}

/-- The issues of the later steps of a validation, of a program that is moved. -/
theorem ruleIssues_relocate (p : Program) : (p.relocate f).ruleIssues = p.ruleIssues.map (Issue.relocate f) := by
  have hkeys : (p.relocate f).collected.1.keys = p.collected.1.keys := by
    rw [Program.collected, Program.declarations_relocate]
    exact (Symbols.collect_relocate f ["Program"] p.declarations rfl).1
  have hagree : (p.relocate f).collected.1.Agree p.collected.1 := by
    intro symbol
    rw [Bool.eq_iff_iff, Symbols.declares_iff, Symbols.declares_iff, hkeys]
  have hcheck : Statement.check (p.relocate f).collected.1 ["Program"] = Statement.check p.collected.1 ["Program"] :=
    funext (Statement.check_congr hagree _)
  rw [Program.ruleIssues, Program.ruleIssues, List.map_append, hcheck, Program.checkReferences_congr hagree,
    Program.checkReferences_relocate, Program.statements_relocate,
    flatMap_rewritten fun s => Statement.check_moving f _ _ s]

/-- The issues of a program that is moved are those of the program, at the places moved alike. -/
theorem located_run_relocate (p : Program) :
    (Validator.run {} (p.relocate f)).issues.map (Issue.located id) =
      (Validator.run {} p).issues.map (Issue.located f) := by
  have hcollected : (p.relocate f).collected.2.map (Issue.located id) = p.collected.2.map (Issue.located f) := by
    rw [Program.collected, Program.declarations_relocate]
    exact (Symbols.collect_relocate f ["Program"] p.declarations rfl).2
  rw [Validator.issues_run, Validator.issues_run, List.map_append, List.map_append, hcollected, ruleIssues_relocate,
    List.map_map]
  rfl

/-- The first error of a validation is the error of its verdict. -/
theorem Validator.error?_verdict (v : Validator) :
    v.verdict.error? = (v.issues.filter fun i => i.severity == .error).head?.map Issue.toError := by
  by_cases h : v.count .error = 0
  · have hnone : (v.issues.filter fun i => i.severity == .error) = [] := by
      rwa [Validator.count, List.countP_eq_length_filter, List.length_eq_zero_iff] at h
    rw [hnone, Verdict.error?]
    simp [Validator.verdict, Validator.summary, h]
  · rw [Verdict.error?, if_neg (by simpa [Validator.verdict, Validator.summary] using h)]
    rfl

/-- Of two programs that are moved onto each other both pass, or both fail with an error that says the same, at places
that are moved onto each other. -/
theorem error?_of_relocate_eq (h : p.relocate f = q.relocate g) :
    ((Validator.run {} p).verdict.error? = none ∧ (Validator.run {} q).verdict.error? = none) ∨
      ∃ name message place place', (Validator.run {} p).verdict.error? = some (.semantic name message place) ∧
        (Validator.run {} q).verdict.error? = some (.semantic name message place') ∧ f place = g place' := by
  have hlocated : (Validator.run {} p).issues.map (Issue.located f) =
      (Validator.run {} q).issues.map (Issue.located g) := by
    rw [← located_run_relocate p, h, located_run_relocate q]
  have hfirst : ((Validator.run {} p).issues.filter fun i => i.severity == .error).head?.map (Issue.located f) =
      ((Validator.run {} q).issues.filter fun i => i.severity == .error).head?.map (Issue.located g) := by
    have hfilter := congrArg (fun l => (l.filter fun i => i.1.severity == .error).head?) hlocated
    rw [List.filter_map, List.filter_map, List.head?_map, List.head?_map] at hfilter
    exact hfilter
  rw [Validator.error?_verdict, Validator.error?_verdict]
  cases hi : ((Validator.run {} p).issues.filter fun i => i.severity == .error).head? with
  | none =>
    rw [hi, Option.map_none, eq_comm, Option.map_eq_none_iff] at hfirst
    exact .inl ⟨rfl, by rw [hfirst]; rfl⟩
  | some i =>
    rw [hi, Option.map_some, eq_comm, Option.map_eq_some_iff] at hfirst
    obtain ⟨j, hj, hij⟩ := hfirst
    simp only [Issue.located, Issue.finding, Prod.mk.injEq, Finding.mk.injEq] at hij
    obtain ⟨⟨-, hcode, hmessage, -⟩, hplace⟩ := hij
    refine .inr ⟨_, _, _, j.position, rfl, ?_, hplace.symm⟩
    rw [hj, ← hcode, ← hmessage]
    rfl

end Verdicts

end MediaLanguage
