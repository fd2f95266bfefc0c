import MediaLanguage.Proofs.Text.Plain
import MediaLanguage.Proofs.Validation.Passed

/-!
# What rules raise

Whatever a program holds, an issue that its rules raise has a code from one table (`ruleCodes`), because no rule makes
its name out of a part of the program; and its context starts with the path at which the rules are asked. There is one
lemma for the rules of each kind of declaration, and the rules of a part are asked at a longer path
(`AllRaised.shorten`).

* `Statement.allRaised_check`, `Program.allRaised_checkReferences`, `Symbols.allRaised_collect`: the three steps of a
  validation.
* `Validator.code_mem_of_run`: every issue of a validation has a code of the table.
* `isWord_of_mem_ruleCodes`: the codes of the table are words.
-/

namespace MediaLanguage

open Ast

/-- The names of the rules: those against second declarations, those of each kind of declaration, and those of
references. -/
def ruleCodes : List String :=
  redeclarationCodes ++
    ["IMPORT_NO_EXTENSION", "IMPORT_RELATIVE_PATH", "VAR_NAMING",
      "UNIT_EMPTY", "UNIT_NO_PRIMARY_KEY", "UNIT_FIELD_DUPLICATE",
      "FIELD_TEXT_ZERO_LENGTH", "FIELD_TEXT_LARGE", "FIELD_CATEGORY_EMPTY", "FIELD_CATEGORY_DUPLICATE",
      "VOCAB_EMPTY", "VOCAB_BODY_EMPTY", "VOCAB_DUPLICATE_KEY",
      "IDENTITY_NO_ID", "IDENTITY_NO_TITLE", "LIFECYCLE_EMPTY", "LIFECYCLE_DUPLICATE_STATUS",
      "CHARACTERISTICS_EMPTY", "CHARACTERISTICS_DUPLICATE", "METADATA_EMPTY",
      "TEMPLATE_EMPTY", "OUTLET_NO_IDENTITY", "OUTLET_NO_CHARACTERISTICS",
      "DATA_OUTLET_NOT_FOUND", "DATA_EMPTY",
      "RELATIONSHIP_PREDECESSOR_NOT_FOUND", "RELATIONSHIP_SUCCESSOR_NOT_FOUND", "RELATIONSHIP_OUTLET1_NOT_FOUND",
      "RELATIONSHIP_OUTLET2_NOT_FOUND", "RELATIONSHIP_SELF_REFERENCE",
      "FAMILY_EMPTY", "FAMILY_NO_OUTLETS", "FAMILY_SINGLE_OUTLET_RELATIONSHIPS",
      "TEMPLATE_NOT_FOUND", "OUTLET_NOT_FOUND", "VARIABLE_NOT_FOUND"]

theorem isWord_of_mem_ruleCodes : ∀ code ∈ ruleCodes, IsWord code := by
  decide

/-! ## Issues below a path -/

/-- The context of an issue starts with the names on a path. -/
def Issue.Below (path : ContextPath) (i : Issue) : Prop :=
  ∃ rest, i.context = contextText (path ++ rest)

/-- All issues are below a path. -/
def AllBelow (path : ContextPath) (issues : List Issue) : Prop :=
  ∀ i ∈ issues, i.Below path

section AllBelow

variable {path : ContextPath}

/-- What is below a longer path is below its first part. -/
theorem Issue.Below.shorten {names : List String} {i : Issue} (h : i.Below (path ++ names)) : i.Below path := by
  obtain ⟨rest, hrest⟩ := h
  exact ⟨names ++ rest, by rw [hrest, List.append_assoc]⟩

theorem AllBelow.shorten {names : List String} {issues : List Issue} (h : AllBelow (path ++ names) issues) :
    AllBelow path issues :=
  fun i hi => (h i hi).shorten

theorem allBelow_nil : AllBelow path [] :=
  List.forall_mem_nil _

theorem allBelow_append {is js : List Issue} : AllBelow path (is ++ js) ↔ AllBelow path is ∧ AllBelow path js :=
  List.forall_mem_append

end AllBelow

/-- A rule raises the issue at a path or below it. -/
structure Issue.Raised (path : ContextPath) (i : Issue) : Prop where
  named : i.code ∈ ruleCodes
  below : i.Below path

/-- Rules raise all issues at a path or below it. -/
def AllRaised (path : ContextPath) (issues : List Issue) : Prop :=
  ∀ i ∈ issues, i.Raised path

section AllRaised

variable {path : ContextPath} {α : Type}

theorem AllRaised.below {issues : List Issue} (h : AllRaised path issues) : AllBelow path issues :=
  fun i hi => (h i hi).below

/-- What is raised below a longer path is raised below its first part. -/
theorem AllRaised.shorten {names : List String} {issues : List Issue} (h : AllRaised (path ++ names) issues) :
    AllRaised path issues :=
  fun i hi => ⟨(h i hi).named, (h i hi).below.shorten⟩

@[simp] theorem allRaised_nil : AllRaised path [] :=
  List.forall_mem_nil _

@[simp] theorem allRaised_append {is js : List Issue} :
    AllRaised path (is ++ js) ↔ AllRaised path is ∧ AllRaised path js :=
  List.forall_mem_append

@[simp] theorem allRaised_flatMap {xs : List α} {issues : α → List Issue} :
    AllRaised path (xs.flatMap issues) ↔ ∀ x ∈ xs, AllRaised path (issues x) :=
  List.forall_mem_flatMap

@[simp] theorem allRaised_map {xs : List α} {issue : α → Issue} :
    AllRaised path (xs.map issue) ↔ ∀ x ∈ xs, (issue x).Raised path :=
  List.forall_mem_map

@[simp] theorem allRaised_when {i : Issue} {broken : Bool} :
    AllRaised path (i.when broken) ↔ (broken → i.Raised path) := by
  cases broken <;> simp [AllRaised, Issue.when]

section Path

variable (path) (names : List String) (code message suggestion : String) (position : Position)

/-- An issue that is built at a path is raised there if its code is the name of a rule. -/
theorem ContextPath.raised_issue (severity : Severity) :
    ((path ++ names).issue severity code message position suggestion).Raised path ↔ code ∈ ruleCodes :=
  ⟨fun h => h.named, fun h => ⟨h, names, rfl⟩⟩

@[simp] theorem ContextPath.raised_error :
    ((path ++ names).error code message position suggestion).Raised path ↔ code ∈ ruleCodes :=
  path.raised_issue names code message suggestion position .error

@[simp] theorem ContextPath.raised_warning :
    ((path ++ names).warning code message position suggestion).Raised path ↔ code ∈ ruleCodes :=
  path.raised_issue names code message suggestion position .warning

@[simp] theorem ContextPath.raised_info :
    ((path ++ names).info code message position suggestion).Raised path ↔ code ∈ ruleCodes :=
  path.raised_issue names code message suggestion position .info

end Path

end AllRaised

namespace Ast

/-! ## Rules for declarations -/

section Rules

variable (path : ContextPath)

theorem Import.allRaised_check (d : Import) : AllRaised path (d.check path) := by
  simp [Import.check, ruleCodes]

theorem Variable.allRaised_check (d : Variable) : AllRaised path (d.check path) := by
  simp [Variable.check, ruleCodes]

theorem UnitField.allRaised_check (x : UnitField) : AllRaised path (x.check path) := by
  unfold UnitField.check
  split <;> simp [ruleCodes]

theorem UnitDeclaration.allRaised_check (u : UnitDeclaration) : AllRaised path (u.check path) := by
  simp [UnitDeclaration.check, (UnitField.allRaised_check _ _).shorten, ruleCodes]

theorem VocabularyBody.allRaised_check (b : VocabularyBody) : AllRaised path (b.check path) := by
  simp [VocabularyBody.check, ruleCodes]

theorem Vocabulary.allRaised_check (v : Vocabulary) : AllRaised path (v.check path) := by
  simp [Vocabulary.check, (VocabularyBody.allRaised_check _ _).shorten, ruleCodes]

theorem allRaised_checkIdentity (blocks : List Identity) : AllRaised path (checkIdentity path blocks) := by
  cases blocks with
  | nil => exact allRaised_nil
  | cons first others =>
    simp [checkIdentity, ruleCodes]

theorem Block.allRaised_check (b : Block) : AllRaised path (b.check path) := by
  cases b with
  | lifecycle b =>
    simp [Block.check, Lifecycle.check, ruleCodes]
  | characteristics b =>
    simp [Block.check, FieldBlock.checkCharacteristics, ruleCodes]
  | metadata b =>
    simp [Block.check, FieldBlock.checkMetadata, ruleCodes]
  | identity b => exact allRaised_nil
  | comment c => exact allRaised_nil

theorem allRaised_checkBlocks (blocks : List Block) : AllRaised path (checkBlocks path blocks) := by
  simp [checkBlocks, allRaised_checkIdentity, Block.allRaised_check]

theorem Template.allRaised_check (t : Template) : AllRaised path (t.check path) := by
  simp [Template.check, (allRaised_checkBlocks _ _).shorten, ruleCodes]

theorem Outlet.allRaised_check (o : Outlet) : AllRaised path (o.check path) := by
  simp [Outlet.check, (allRaised_checkBlocks _ _).shorten, ruleCodes]

variable (symbols : Symbols)

theorem Data.allRaised_check (d : Data) : AllRaised path (d.check symbols path) := by
  simp [Data.check, ruleCodes]

theorem Link.allRaised_check (l : Link) : AllRaised path (l.check symbols path) := by
  cases l with
  | diachronic l =>
    simp [Link.check, DiachronicLink.check, ruleCodes]
  | synchronous l =>
    simp [Link.check, SynchronousLink.check, ruleCodes]

theorem FamilyMember.allRaised_check (m : FamilyMember) : AllRaised path (m.check symbols path) := by
  cases m with
  | outlet o => exact o.allRaised_check path
  | link l => exact l.allRaised_check path symbols
  | data d => exact d.allRaised_check path symbols
  | reference r => exact allRaised_nil
  | comment c => exact allRaised_nil

theorem Family.allRaised_check (f : Family) : AllRaised path (f.check symbols path) := by
  simp [Family.check, (FamilyMember.allRaised_check _ _ _).shorten, ruleCodes]

/-- The rules for a statement raise their issues below the path. -/
theorem Statement.allRaised_check (s : Statement) : AllRaised path (s.check symbols path) := by
  cases s with
  | importFile d => exact d.allRaised_check path
  | letVariable d => exact d.allRaised_check path
  | template d => exact d.allRaised_check path
  | unit d => exact d.allRaised_check path
  | vocabulary d => exact d.allRaised_check path
  | family d => exact d.allRaised_check path symbols
  | data d => exact d.allRaised_check path symbols
  | link d => exact d.allRaised_check path symbols
  | _ => exact allRaised_nil

end Rules

/-! ## References and declarations -/

section References

variable (path : ContextPath) (symbols : Symbols)

theorem Outlet.allRaised_checkInheritance (o : Outlet) : AllRaised path (o.checkInheritance symbols path) := by
  unfold Outlet.checkInheritance
  split <;> simp [ruleCodes]

theorem Family.allRaised_checkInheritance (f : Family) : AllRaised path (f.checkInheritance symbols path) := by
  simp [Family.checkInheritance, (Outlet.allRaised_checkInheritance _ _ _).shorten]

/-- The rules for references raise their issues below the path. -/
theorem Program.allRaised_checkReferences (p : Program) : AllRaised path (p.checkReferences symbols path) := by
  simp [Program.checkReferences, (Family.allRaised_checkInheritance _ _ _).shorten, checkUse, ruleCodes]

end References

end Ast

/-- Second declarations raise their issues at the path. -/
theorem Symbols.allRaised_collect (path : ContextPath) (s : Symbols) (declarations : List (Symbol × Position)) :
    AllRaised path (s.collect path declarations).2 := by
  induction declarations generalizing s with
  | nil => exact allRaised_nil
  | cons declaration declarations ih =>
    obtain ⟨symbol, position⟩ := declaration
    rw [Symbols.collect, allRaised_append]
    refine ⟨?_, ih _⟩
    intro i hi
    rw [Option.mem_toList, Option.map_eq_some_iff] at hi
    obtain ⟨earlier, -, rfl⟩ := hi
    refine ⟨?_, [], by rw [List.append_nil]; rfl⟩
    cases symbol <;> simp [redeclared, Symbol.redeclaration, ruleCodes, redeclarationCodes]

/-- Every issue of a validation has a code of the table. -/
theorem Validator.code_mem_of_run {p : Program} {i : Issue} (h : i ∈ (run {} p).issues) : i.code ∈ ruleCodes := by
  have hrules : AllRaised ["Program"] p.ruleIssues := by
    refine allRaised_append.2 ⟨?_, p.allRaised_checkReferences _ _⟩
    exact allRaised_flatMap.2 fun s _ => s.allRaised_check _ _
  rw [issues_run] at h
  exact (allRaised_append.2 ⟨Symbols.allRaised_collect _ _ _, hrules⟩ i h).named

end MediaLanguage
