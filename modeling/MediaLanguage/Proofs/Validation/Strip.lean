import MediaLanguage.Proofs.Model.Strip
import MediaLanguage.Proofs.Validation.Relocate

/-!
# The verdict on a program without comments

A comment declares nothing, uses nothing and breaks no rule. Two rules see one: a template that holds only comments is
not empty, and neither is such a family, so either gets a warning once its comments are left out. All other issues are
the same (`Outlet.check_strip`, `Program.checkReferences_strip`), and so are all errors
(`errors_run_strip`).

* `validate_lower_strip`: without comments a program passes or fails as it does with them, with the same errors, and
  its model differs at most in the comments of families.
-/

namespace MediaLanguage

/-- The errors among issues. -/
def errorsOf (issues : List Issue) : List Issue :=
  issues.filter fun i => i.severity == .error

@[simp] theorem errorsOf_append (is js : List Issue) : errorsOf (is ++ js) = errorsOf is ++ errorsOf js :=
  List.filter_append ..

theorem errorsOf_flatMap {α : Type} (xs : List α) (issues : α → List Issue) :
    errorsOf (xs.flatMap issues) = xs.flatMap fun x => errorsOf (issues x) :=
  List.filter_flatMap

/-- A warning is no error. -/
@[simp] theorem errorsOf_warning (path : ContextPath) (code message suggestion : String) (position : Position)
    (broken : Bool) : errorsOf ((path.warning code message position suggestion).when broken) = [] := by
  cases broken <;> rfl

namespace Ast

variable (drop : Comment → Bool)

/-! ## Blocks -/

section Rules

variable (path : ContextPath)

@[simp] theorem Identity.names_strip (b : Identity) : (b.strip drop).names = b.names := by
  have hnames : (b.strip drop).names = b.names.map id :=
    filterMap_strip (fun x => by cases x <;> simp [IdentityField.strip?]) b.fields
  rw [hnames, List.map_id]

theorem checkIdentity_strip (blocks : List Identity) :
    checkIdentity path (blocks.map (Identity.strip drop)) = checkIdentity path blocks := by
  cases blocks with
  | nil => rfl
  | cons first others =>
    simp only [List.map_cons, checkIdentity, List.flatMap_cons, List.flatMap_map, Identity.names_strip]
    rfl

theorem Lifecycle.check_strip (b : Lifecycle) : (b.strip drop).check path = b.check path := by
  have hentries : repeats LifecycleEntry.status (b.entries.map (LifecycleEntry.strip drop)) =
      (repeats LifecycleEntry.status b.entries).map (LifecycleEntry.strip drop) :=
    repeats_rewritten (g := LifecycleEntry.strip drop) (fun _ => rfl) b.entries
  simp only [Lifecycle.check, Lifecycle.strip, hentries, List.isEmpty_map, List.map_map]
  rfl

@[simp] theorem FieldBlock.assignments_strip (b : FieldBlock) : (b.strip drop).assignments = b.assignments :=
  Ast.assignments_strip drop b.fields

theorem FieldBlock.checkCharacteristics_strip (b : FieldBlock) :
    (b.strip drop).checkCharacteristics path = b.checkCharacteristics path := by
  simp only [FieldBlock.checkCharacteristics, FieldBlock.assignments_strip]
  rfl

theorem FieldBlock.checkMetadata_strip (b : FieldBlock) :
    (b.strip drop).checkMetadata path = b.checkMetadata path := by
  simp only [FieldBlock.checkMetadata, FieldBlock.assignments_strip]
  rfl

theorem checkBlocks_strip (blocks : List Block) :
    checkBlocks path (blocks.filterMap (Block.strip? drop)) = checkBlocks path blocks := by
  have hblocks : (blocks.filterMap (Block.strip? drop)).flatMap (Block.check path) =
      blocks.flatMap (Block.check path) := by
    apply flatMap_strip
    intro b
    cases b with
    | identity b => rfl
    | lifecycle b => simp [Block.strip?, Block.check, Lifecycle.check_strip]
    | characteristics b => simp [Block.strip?, Block.check, FieldBlock.checkCharacteristics_strip]
    | metadata b => simp [Block.strip?, Block.check, FieldBlock.checkMetadata_strip]
    | comment c => cases h : c.strip? drop <;> simp [Block.strip?, Block.check, h]
  rw [checkBlocks, checkBlocks, identities_strip, checkIdentity_strip, hblocks]

/-! ## Declarations -/

/-- The errors of a template; whether it is empty is a warning. -/
theorem Template.errors_check_strip (t : Template) :
    errorsOf ((t.strip drop).check path) = errorsOf (t.check path) := by
  simp only [Template.check, errorsOf_append, errorsOf_warning, Template.strip, checkBlocks_strip]

theorem Outlet.check_strip (o : Outlet) : (o.strip drop).check path = o.check path := by
  have hcharacteristics : (o.blocks.filterMap (Block.strip? drop)).any Block.isCharacteristics =
      o.blocks.any Block.isCharacteristics := by
    rw [List.any_filterMap]
    congr 1
    funext b
    cases b with
    | comment c => cases h : c.strip? drop <;> simp [Block.strip?, Block.isCharacteristics, h]
    | _ => rfl
  simp only [Outlet.check, Outlet.strip, identities_strip, List.isEmpty_map, hcharacteristics, checkBlocks_strip]

variable (symbols : Symbols)

theorem Data.check_strip (d : Data) : (d.strip drop).check symbols path = d.check symbols path := by
  have hcomments : (d.blocks.filterMap (DataBlock.strip? drop)).all DataBlock.isComment =
      d.blocks.all DataBlock.isComment := by
    rw [List.all_filterMap]
    congr 1
    funext b
    cases b with
    | comment c => cases h : c.strip? drop <;> simp [DataBlock.strip?, DataBlock.isComment, h]
    | _ => rfl
  simp only [Data.check, Data.strip, hcomments]

theorem Link.check_strip (l : Link) : (l.strip drop).check symbols path = l.check symbols path := by
  cases l <;> rfl

/-- The members of a family. -/
theorem Family.checkMembers_strip (f : Family) :
    (f.strip drop).members.flatMap (FamilyMember.check symbols path) =
      f.members.flatMap (FamilyMember.check symbols path) := by
  apply flatMap_strip
  intro m
  cases m with
  | outlet o => simp [FamilyMember.strip?, FamilyMember.check, Outlet.check_strip]
  | reference r => rfl
  | data d => simp [FamilyMember.strip?, FamilyMember.check, Data.check_strip]
  | link l => simp [FamilyMember.strip?, FamilyMember.check, Link.check_strip]
  | comment c => cases h : c.strip? drop <;> simp [FamilyMember.strip?, FamilyMember.check, h]

/-- The errors of a family; whether it is empty is a warning. -/
theorem Family.errors_check_strip (f : Family) :
    errorsOf ((f.strip drop).check symbols path) = errorsOf (f.check symbols path) := by
  simp only [Family.check, errorsOf_append, errorsOf_warning, Family.checkMembers_strip]
  rfl

/-- The errors of the statements of a program. -/
theorem Program.errors_check_strip (p : Program) :
    errorsOf ((p.strip drop).statements.flatMap (Statement.check symbols path)) =
      errorsOf (p.statements.flatMap (Statement.check symbols path)) := by
  rw [errorsOf_flatMap, errorsOf_flatMap]
  apply flatMap_strip
  intro s
  cases s with
  | template d => simp [Statement.strip?, Statement.check, Template.errors_check_strip]
  | family d => simp [Statement.strip?, Statement.check, Family.errors_check_strip]
  | data d => simp [Statement.strip?, Statement.check, Data.check_strip]
  | link d => simp [Statement.strip?, Statement.check, Link.check_strip]
  | comment c => cases h : c.strip? drop <;> simp [Statement.strip?, Statement.check, h, errorsOf]
  | _ => simp [Statement.strip?, Statement.check]

end Rules

/-! ## References -/

section References

variable (path : ContextPath) (symbols : Symbols)

theorem Outlet.checkInheritance_strip (o : Outlet) :
    (o.strip drop).checkInheritance symbols path = o.checkInheritance symbols path := rfl

theorem Family.checkInheritance_strip (f : Family) :
    (f.strip drop).checkInheritance symbols path = f.checkInheritance symbols path := by
  rw [Family.checkInheritance, Family.checkInheritance, Family.outlets_strip, List.flatMap_map]
  rfl

@[simp] theorem fieldExpressions_strip (fields : List Field) :
    fieldExpressions (fields.filterMap (Field.strip? drop)) = fieldExpressions fields := by
  rw [fieldExpressions, fieldExpressions, assignments_strip]

@[simp] theorem Identity.expressions_strip (b : Identity) :
    (b.strip drop).fields.flatMap IdentityField.expressions = b.fields.flatMap IdentityField.expressions := by
  apply flatMap_strip
  intro x
  cases x with
  | comment c => cases h : c.strip? drop <;> simp [IdentityField.strip?, IdentityField.expressions, h]
  | _ => simp [IdentityField.strip?]

/-- The expressions of blocks. -/
@[simp] theorem blockExpressions_strip (blocks : List Block) :
    (blocks.filterMap (Block.strip? drop)).flatMap Block.expressions = blocks.flatMap Block.expressions := by
  apply flatMap_strip
  intro b
  cases b with
  | identity b => simp [Block.strip?, Block.expressions]
  | lifecycle b => simp [Block.strip?, Block.expressions, Lifecycle.strip, LifecycleEntry.strip, List.flatMap_map]
  | characteristics b => simp [Block.strip?, Block.expressions, FieldBlock.strip]
  | metadata b => simp [Block.strip?, Block.expressions, FieldBlock.strip]
  | comment c => cases h : c.strip? drop <;> simp [Block.strip?, Block.expressions, h]

@[simp] theorem Data.expressions_strip (d : Data) : (d.strip drop).expressions = d.expressions := by
  rw [Data.expressions, Data.expressions, Data.years_strip, List.flatMap_map]
  simp

@[simp] theorem Source.expressions_strip (x : Source) :
    (x.strip drop).fields.flatMap SourceField.expressions = x.fields.flatMap SourceField.expressions := by
  apply flatMap_strip
  intro y
  cases y with
  | nested a => simp [SourceField.strip?, SourceField.expressions, NestedAssignment.strip]
  | comment c => cases h : c.strip? drop <;> simp [SourceField.strip?, SourceField.expressions, h]
  | _ => simp [SourceField.strip?]

/-- The expressions of a program are in no comment. -/
theorem Program.expressions_strip (p : Program) : (p.strip drop).expressions = p.expressions := by
  apply flatMap_strip
  intro s
  cases s with
  | template d => simp [Statement.strip?, Statement.expressions, Template.strip]
  | family d => simp [Statement.strip?, Statement.expressions, Outlet.strip, List.flatMap_map]
  | data d => simp [Statement.strip?, Statement.expressions]
  | event d => simp [Statement.strip?, Statement.expressions, Event.strip]
  | catalog d => simp [Statement.strip?, Statement.expressions, Catalog.strip, List.flatMap_map]
  | comment c => cases h : c.strip? drop <;> simp [Statement.strip?, Statement.expressions, h]
  | _ => simp [Statement.strip?, Statement.expressions]

/-- The rules for the references of a program without comments. -/
theorem Program.checkReferences_strip (p : Program) :
    (p.strip drop).checkReferences symbols path = p.checkReferences symbols path := by
  rw [Program.checkReferences, Program.checkReferences, Program.variableUses, Program.variableUses,
    Program.expressions_strip, Program.families_strip, List.flatMap_map]
  simp only [Family.checkInheritance_strip]

end References

/-- Comments declare nothing. -/
theorem Program.declarations_strip (p : Program) : (p.strip drop).declarations = p.declarations := by
  have houtlet : ∀ o : Outlet, (o.strip drop).declarations = o.declarations := by
    intro o
    rw [Outlet.declarations, Outlet.declarations, Outlet.declaredId?_strip]
    rfl
  apply flatMap_strip
  intro s
  cases s with
  | family d =>
    simp only [Statement.strip?, Option.toList_some, List.flatMap_singleton, Statement.declarations,
      Family.outlets_strip, List.flatMap_map, houtlet]
    rfl
  | comment c => cases h : c.strip? drop <;> simp [Statement.strip?, Statement.declarations, h]
  | _ => simp [Statement.strip?, Statement.declarations, Template.strip]

end Ast

/-! ## Verdicts -/

section Verdicts

open Ast

variable (drop : Comment → Bool)

/-- The errors of a validation are the same without comments. -/
theorem errors_run_strip (p : Program) :
    errorsOf (Validator.run {} (p.strip drop)).issues = errorsOf (Validator.run {} p).issues := by
  have hcollected : (p.strip drop).collected = p.collected := by
    rw [Program.collected, Program.collected, Program.declarations_strip]
  simp only [Validator.issues_run, Program.ruleIssues, errorsOf_append, hcollected, Program.errors_check_strip,
    Program.checkReferences_strip]

/-- Without comments a program passes or fails as it does with them, with the same errors, and its model differs at
most in the comments of families. -/
theorem validate_lower_strip {p : Program} (hfinite : ∀ x ∈ Validator.integers p ++ p.integers, x.isFinite) :
    ∃ v v' m m', p.validate = .ok v ∧ (p.strip drop).validate = .ok v' ∧ v'.passed = v.passed ∧
      v'.ofSeverity .error = v.ofSeverity .error ∧
      p.lower = .ok m ∧ (p.strip drop).lower = .ok m' ∧ m'.silenced = m.silenced := by
  obtain ⟨hvalidated, hlowered⟩ := List.forall_mem_append.1 hfinite
  have herrors := errors_run_strip drop p
  have hpassed : (Validator.run {} (p.strip drop)).verdict.passed = (Validator.run {} p).verdict.passed := by
    simp only [Validator.verdict, Validator.summary, Validator.count, List.countP_eq_length_filter]
    exact congrArg (fun issues => issues.length == 0) herrors
  refine ⟨_, _, _, _, ?_, ?_, hpassed, herrors, ?_, ?_, p.silenced_toModel_strip drop⟩
  · rw [Program.validate, Number.requireIntegers_of_finite hvalidated]
    rfl
  · rw [Program.validate, Validator.integers_strip, Number.requireIntegers_of_finite hvalidated]
    rfl
  · rw [Program.lower, Number.requireIntegers_of_finite hlowered]
    rfl
  · rw [Program.lower, Program.integers_strip, Number.requireIntegers_of_finite hlowered]
    rfl

/-- A template and a family that hold only a comment, and data for an outlet that is not declared. -/
def remarkedProgram : Program :=
  ⟨[.template ⟨"t", "x", [.comment ⟨"a", false, ⟨1, 16, 15⟩⟩], ⟨1, 1, 0⟩⟩,
    .family ⟨"f", [.comment ⟨"b", true, ⟨2, 14, 35⟩⟩], ⟨2, 1, 22⟩⟩, .comment ⟨"c", false, ⟨3, 1, 44⟩⟩,
    .data ⟨.finite false 1 0, [], ⟨4, 1, 49⟩⟩]⟩

/-- The template and the family are empty without their comments, which is no error. -/
theorem validate_lower_strip_remarked :
    (∀ x ∈ Validator.integers remarkedProgram ++ remarkedProgram.integers, x.isFinite) ∧
    ∃ v v' m m', remarkedProgram.validate = .ok v ∧
      Program.validate ⟨[.template ⟨"t", "x", [], ⟨1, 1, 0⟩⟩, .family ⟨"f", [], ⟨2, 1, 22⟩⟩,
        .data ⟨.finite false 1 0, [], ⟨4, 1, 49⟩⟩]⟩ = .ok v' ∧
      v'.passed = v.passed ∧ v'.ofSeverity .error = v.ofSeverity .error ∧ remarkedProgram.lower = .ok m ∧
      Program.lower ⟨[.template ⟨"t", "x", [], ⟨1, 1, 0⟩⟩, .family ⟨"f", [], ⟨2, 1, 22⟩⟩,
        .data ⟨.finite false 1 0, [], ⟨4, 1, 49⟩⟩]⟩ = .ok m' ∧
      m'.silenced = m.silenced := by
  have hfinite : ∀ x ∈ Validator.integers remarkedProgram ++ remarkedProgram.integers, x.isFinite := by decide
  exact ⟨hfinite, validate_lower_strip (fun _ => true) hfinite⟩

end Verdicts

end MediaLanguage
