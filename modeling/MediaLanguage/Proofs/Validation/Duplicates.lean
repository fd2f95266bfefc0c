import MediaLanguage.Proofs.Validation.Collect
import MediaLanguage.Proofs.Validation.Passed

/-!
# Repetition is found exactly

Each rule against repetition has a list to go through: the declarations of one kind, the fields of a unit, the values
of a column, the keys of a body, the statuses or characteristics of a block. It reports every element that has occurred
in front, and nothing else does.

* `Statement.duplicatesOf_check`: what the rules for a statement report about repetition; the other rules report none.
* `ofCode_verdict`: the issues of one rule against repetition, from the declarations and from the statements.
* `duplicates_exact`: what these are, for every program whose numbers are finite, and the table of declarations.
-/

namespace MediaLanguage

open Ast

/-! ## Rules for one declaration -/

/-- The rules against repetition, of declarations and of the parts of one. -/
def duplicateCodes : List String :=
  redeclarationCodes ++ ["UNIT_FIELD_DUPLICATE", "FIELD_CATEGORY_DUPLICATE", "VOCAB_DUPLICATE_KEY",
    "LIFECYCLE_DUPLICATE_STATUS", "CHARACTERISTICS_DUPLICATE"]

/-- The issues that report a repetition. -/
def duplicatesOf (issues : List Issue) : List Issue :=
  issues.filter fun i => duplicateCodes.contains i.code

section Selection

variable {is js : List Issue} {path : ContextPath} {severity : Severity} {code message suggestion : String}
  {position : Position} {broken : Bool}

@[simp] theorem duplicatesOf_append : duplicatesOf (is ++ js) = duplicatesOf is ++ duplicatesOf js :=
  List.filter_append ..

theorem duplicatesOf_flatMap {α : Type} (xs : List α) (issues : α → List Issue) :
    duplicatesOf (xs.flatMap issues) = xs.flatMap fun x => duplicatesOf (issues x) :=
  List.filter_flatMap

/-- A rule that is not against repetition. -/
theorem duplicatesOf_when (h : duplicateCodes.contains code = false) :
    duplicatesOf ((path.issue severity code message position suggestion).when broken) = [] := by
  cases broken with
  | false => rfl
  | true =>
    refine List.filter_cons_of_neg ?_
    rw [ContextPath.issue, h]
    exact Bool.false_ne_true

/-- Issues that all report a repetition. -/
theorem duplicatesOf_map {α : Type} {xs : List α} {issue : α → Issue} (hcode : ∀ x, (issue x).code = code)
    (h : duplicateCodes.contains code = true) : duplicatesOf (xs.map issue) = xs.map issue := by
  refine List.filter_eq_self.2 fun i hi => ?_
  obtain ⟨x, -, rfl⟩ := List.mem_map.1 hi
  rw [hcode, h]

end Selection

namespace Ast

/-- The values of a column with categories. -/
def UnitField.values (f : UnitField) : List String :=
  match f.type.type with
  | .category values => values
  | _ => []

/-- The issue that a unit has a field of the name of another in front. -/
def UnitDeclaration.fieldRepeated (path : ContextPath) (u : UnitDeclaration) (f : UnitField) : Issue :=
  ContextPath.error (path ++ [s!"Unit({u.name})"]) "UNIT_FIELD_DUPLICATE"
    s!"Field '{f.name}' is declared multiple times in unit '{u.name}'" f.position "Remove duplicate field declaration"

/-- The issue that a column has a value twice. -/
def UnitField.valueRepeated (path : ContextPath) (f : UnitField) (value : String) : Issue :=
  ContextPath.error (path ++ [s!"Field({f.name})"]) "FIELD_CATEGORY_DUPLICATE"
    s!"CATEGORY field '{f.name}' has duplicate value '{value}'" f.position
    "Remove duplicate values from CATEGORY field"

/-- The issue that a body has an entry with the key of another in front. -/
def VocabularyBody.keyRepeated (path : ContextPath) (b : VocabularyBody) (e : VocabularyEntry) : Issue :=
  ContextPath.error (path ++ [s!"VocabBody({b.name})"]) "VOCAB_DUPLICATE_KEY"
    s!"Vocabulary body '{b.name}' has duplicate key '{e.key.text}'" e.position
    "Remove duplicate key or use different key"

/-- The issue that a block has a status twice. -/
def LifecycleEntry.repeated (path : ContextPath) (e : LifecycleEntry) : Issue :=
  ContextPath.warning (path ++ ["Lifecycle"]) "LIFECYCLE_DUPLICATE_STATUS" s!"Duplicate lifecycle status '{e.status}'"
    e.position "Each status should appear only once"

/-- The issue that a block has a characteristic twice. -/
def Assignment.repeated (path : ContextPath) (a : Assignment) : Issue :=
  ContextPath.warning (path ++ ["Characteristics"]) "CHARACTERISTICS_DUPLICATE" s!"Duplicate characteristic '{a.name}'"
    a.position "Remove duplicate characteristic"

section Rules

variable (path : ContextPath)

theorem Import.duplicatesOf_check (d : Import) : duplicatesOf (d.check path) = [] := by
  simp (disch := decide) only [Import.check, ContextPath.warning, ContextPath.info, duplicatesOf_append,
    duplicatesOf_when, List.append_nil]

theorem Variable.duplicatesOf_check (d : Variable) : duplicatesOf (d.check path) = [] := by
  simp (disch := decide) only [Variable.check, ContextPath.warning, duplicatesOf_when]

theorem UnitField.duplicatesOf_check (f : UnitField) :
    duplicatesOf (f.check path) = (repeats id f.values).map (f.valueRepeated path) := by
  obtain ⟨name, ⟨type, place⟩, primaryKey, position⟩ := f
  cases type with
  | category values =>
    simp (disch := decide) only [UnitField.check, ContextPath.error, duplicatesOf_append, duplicatesOf_when,
      List.nil_append]
    exact duplicatesOf_map (fun _ => rfl) (show duplicateCodes.contains "FIELD_CATEGORY_DUPLICATE" = true by decide)
  | text length =>
    cases length with
    | none => rfl
    | some length =>
      simp (disch := decide) only [UnitField.check, ContextPath.error, ContextPath.warning, duplicatesOf_append,
        duplicatesOf_when, List.append_nil]
      rfl
  | _ => rfl

theorem UnitDeclaration.duplicatesOf_check (u : UnitDeclaration) :
    duplicatesOf (u.check path) = (markRepeats UnitField.name [] u.fields).flatMap fun x =>
      (u.fieldRepeated path x.1).when x.2 ++
        (repeats id x.1.values).map (x.1.valueRepeated (path ++ [s!"Unit({u.name})"])) := by
  have hfield : ∀ x : UnitField × Bool, duplicatesOf ((u.fieldRepeated path x.1).when x.2) =
      (u.fieldRepeated path x.1).when x.2 := by
    rintro ⟨f, _ | _⟩
    · rfl
    · exact List.filter_cons_of_pos (show duplicateCodes.contains "UNIT_FIELD_DUPLICATE" = true by decide)
  simp (disch := decide) only [UnitDeclaration.check, ContextPath.error, ContextPath.warning, duplicatesOf_append,
    duplicatesOf_when, List.nil_append, duplicatesOf_flatMap, UnitField.duplicatesOf_check]
  congr 1
  funext x
  exact congrArg (· ++ _) (hfield x)

theorem VocabularyBody.duplicatesOf_check (b : VocabularyBody) :
    duplicatesOf (b.check path) = (repeats (fun e => e.key.text) b.entries).map (b.keyRepeated path) := by
  simp (disch := decide) only [VocabularyBody.check, ContextPath.warning, duplicatesOf_append, duplicatesOf_when,
    List.nil_append]
  exact duplicatesOf_map (fun _ => rfl) (show duplicateCodes.contains "VOCAB_DUPLICATE_KEY" = true by decide)

theorem Vocabulary.duplicatesOf_check (v : Vocabulary) :
    duplicatesOf (v.check path) = v.bodies.flatMap fun b =>
      (repeats (fun e => e.key.text) b.entries).map (b.keyRepeated (path ++ [s!"Vocabulary({v.name})"])) := by
  simp (disch := decide) only [Vocabulary.check, ContextPath.error, duplicatesOf_append, duplicatesOf_when,
    List.nil_append, duplicatesOf_flatMap, VocabularyBody.duplicatesOf_check]

theorem checkIdentity_duplicatesOf (blocks : List Identity) : duplicatesOf (checkIdentity path blocks) = [] := by
  cases blocks with
  | nil => rfl
  | cons first others =>
    simp (disch := decide) only [checkIdentity, ContextPath.error, ContextPath.warning, duplicatesOf_append,
      duplicatesOf_when, List.append_nil]

theorem Lifecycle.duplicatesOf_check (b : Lifecycle) :
    duplicatesOf (b.check path) = (repeats LifecycleEntry.status b.entries).map (LifecycleEntry.repeated path) := by
  simp (disch := decide) only [Lifecycle.check, ContextPath.warning, duplicatesOf_append, duplicatesOf_when,
    List.nil_append]
  exact duplicatesOf_map (fun _ => rfl) (show duplicateCodes.contains "LIFECYCLE_DUPLICATE_STATUS" = true by decide)

theorem FieldBlock.duplicatesOf_checkCharacteristics (b : FieldBlock) :
    duplicatesOf (b.checkCharacteristics path) =
      (repeats Assignment.name b.assignments).map (Assignment.repeated path) := by
  simp (disch := decide) only [FieldBlock.checkCharacteristics, ContextPath.warning, duplicatesOf_append,
    duplicatesOf_when, List.nil_append]
  exact duplicatesOf_map (fun _ => rfl) (show duplicateCodes.contains "CHARACTERISTICS_DUPLICATE" = true by decide)

theorem FieldBlock.duplicatesOf_checkMetadata (b : FieldBlock) : duplicatesOf (b.checkMetadata path) = [] := by
  simp (disch := decide) only [FieldBlock.checkMetadata, ContextPath.info, duplicatesOf_when]

/-- The statuses of a block. -/
def Block.entries : Block → List LifecycleEntry
  | .lifecycle b => b.entries
  | _ => []

/-- The characteristics of a block. -/
def Block.assignments : Block → List Assignment
  | .characteristics b => b.assignments
  | _ => []

/-- What is repeated in a block. -/
def Block.duplicates (path : ContextPath) (b : Block) : List Issue :=
  (repeats LifecycleEntry.status b.entries).map (LifecycleEntry.repeated path) ++
    (repeats Assignment.name b.assignments).map (Assignment.repeated path)

theorem checkBlocks_duplicatesOf (blocks : List Block) :
    duplicatesOf (checkBlocks path blocks) = blocks.flatMap (Block.duplicates path) := by
  rw [checkBlocks, duplicatesOf_append, checkIdentity_duplicatesOf, List.nil_append, duplicatesOf_flatMap]
  congr 1
  funext b
  cases b with
  | lifecycle b => exact (b.duplicatesOf_check path).trans (List.append_nil _).symm
  | characteristics b => exact b.duplicatesOf_checkCharacteristics path
  | metadata b => exact b.duplicatesOf_checkMetadata path
  | _ => rfl

theorem Template.duplicatesOf_check (t : Template) :
    duplicatesOf (t.check path) = t.blocks.flatMap (Block.duplicates (path ++ [s!"Template({t.name})"])) := by
  simp (disch := decide) only [Template.check, ContextPath.warning, duplicatesOf_append, duplicatesOf_when,
    List.nil_append, checkBlocks_duplicatesOf]

theorem Outlet.duplicatesOf_check (o : Outlet) :
    duplicatesOf (o.check path) = o.blocks.flatMap (Block.duplicates (path ++ [s!"Outlet({o.name})"])) := by
  simp (disch := decide) only [Outlet.check, ContextPath.error, ContextPath.warning, duplicatesOf_append,
    duplicatesOf_when, List.nil_append, checkBlocks_duplicatesOf]

variable (symbols : Symbols)

theorem Data.duplicatesOf_check (d : Data) : duplicatesOf (d.check symbols path) = [] := by
  simp (disch := decide) only [Data.check, ContextPath.error, ContextPath.warning, duplicatesOf_append,
    duplicatesOf_when, List.append_nil]

theorem Link.duplicatesOf_check (l : Link) : duplicatesOf (l.check symbols path) = [] := by
  have hnone : ∀ id : Option Int, id.toList.flatMap (fun _ => ([] : List Issue)) = [] := by
    intro id
    cases id <;> rfl
  cases l with
  | diachronic l =>
    simp (disch := decide) only [Link.check, DiachronicLink.check, ContextPath.error, ContextPath.warning,
      duplicatesOf_append, duplicatesOf_when, duplicatesOf_flatMap, List.append_nil, hnone]
  | synchronous l =>
    simp (disch := decide) only [Link.check, SynchronousLink.check, ContextPath.error, ContextPath.warning,
      duplicatesOf_append, duplicatesOf_when, duplicatesOf_flatMap, List.append_nil, hnone]

/-- The outlet that a member of a family is. -/
def FamilyMember.outlet? : FamilyMember → Option Outlet
  | .outlet o => some o
  | _ => none

theorem Family.duplicatesOf_check (f : Family) :
    duplicatesOf (f.check symbols path) = f.outlets.flatMap fun o =>
      o.blocks.flatMap (Block.duplicates (path ++ [s!"Family({f.name})"] ++ [s!"Outlet({o.name})"])) := by
  have hmember : ∀ (path : ContextPath) (m : FamilyMember), duplicatesOf (m.check symbols path) =
      m.outlet?.toList.flatMap fun o => o.blocks.flatMap (Block.duplicates (path ++ [s!"Outlet({o.name})"])) := by
    intro path m
    cases m with
    | outlet o => exact (o.duplicatesOf_check path).trans (List.append_nil _).symm
    | link l => exact l.duplicatesOf_check path symbols
    | data d => exact d.duplicatesOf_check path symbols
    | _ => rfl
  have houtlets : f.outlets = f.members.flatMap fun m => m.outlet?.toList := List.filterMap_eq_flatMap_toList _ _
  simp (disch := decide) only [Family.check, ContextPath.warning, duplicatesOf_append, duplicatesOf_when,
    List.nil_append, List.append_nil, duplicatesOf_flatMap, hmember, houtlets, List.flatMap_assoc]

theorem Program.duplicatesOf_checkReferences (p : Program) : duplicatesOf (p.checkReferences symbols path) = [] := by
  have hinheritance : ∀ (path : ContextPath) (o : Outlet), duplicatesOf (o.checkInheritance symbols path) = [] := by
    intro path o
    unfold Outlet.checkInheritance
    split
    · rfl
    · simp (disch := decide) only [ContextPath.error, duplicatesOf_when]
    · simp (disch := decide) only [ContextPath.error, duplicatesOf_when]
  have huse : ∀ (path : ContextPath) (use : String × Position), duplicatesOf (checkUse symbols path use) = [] := by
    intro path use
    simp (disch := decide) only [checkUse, ContextPath.error, duplicatesOf_when]
  rw [Program.checkReferences, duplicatesOf_append, duplicatesOf_flatMap, duplicatesOf_flatMap]
  simp [Family.checkInheritance, duplicatesOf_flatMap, hinheritance, huse]

/-! ## Rules for a statement -/

/-- The blocks of a statement, each with the path of its template or outlet. -/
def Statement.placedBlocks : Statement → List (ContextPath × Block)
  | .template t => t.blocks.map fun b => (["Program"] ++ [s!"Template({t.name})"], b)
  | .family f => f.outlets.flatMap fun o =>
    o.blocks.map fun b => (["Program"] ++ [s!"Family({f.name})"] ++ [s!"Outlet({o.name})"], b)
  | _ => []

/-- The blocks of templates and outlets, each with the path of its template or outlet. -/
def Program.placedBlocks (p : Program) : List (ContextPath × Block) :=
  p.statements.flatMap Statement.placedBlocks

/-- What is repeated in the parts of a unit or vocabulary. -/
def Statement.repeatedParts : Statement → List Issue
  | .unit u => (markRepeats UnitField.name [] u.fields).flatMap fun x =>
    (u.fieldRepeated ["Program"] x.1).when x.2 ++
      (repeats id x.1.values).map (x.1.valueRepeated (["Program"] ++ [s!"Unit({u.name})"]))
  | .vocabulary v => v.bodies.flatMap fun b =>
    (repeats (fun e => e.key.text) b.entries).map (b.keyRepeated (["Program"] ++ [s!"Vocabulary({v.name})"]))
  | _ => []

/-- What the rules for a statement report about repetition. -/
theorem Statement.duplicatesOf_check (s : Statement) : duplicatesOf (s.check symbols ["Program"]) =
    s.repeatedParts ++ s.placedBlocks.flatMap fun x => x.2.duplicates x.1 := by
  cases s with
  | importFile d => exact d.duplicatesOf_check _
  | letVariable d => exact d.duplicatesOf_check _
  | unit d => exact (d.duplicatesOf_check _).trans (List.append_nil _).symm
  | vocabulary d => exact (d.duplicatesOf_check _).trans (List.append_nil _).symm
  | template d =>
    rw [placedBlocks, List.flatMap_map]
    exact d.duplicatesOf_check _
  | family d =>
    rw [placedBlocks, List.flatMap_assoc]
    simp only [List.flatMap_map]
    exact d.duplicatesOf_check _ symbols
  | data d => exact d.duplicatesOf_check _ symbols
  | link d => exact d.duplicatesOf_check _ symbols
  | _ => rfl

end Rules

end Ast

/-! ## The issues of one rule -/

/-- The issues that break one rule. -/
def issuesOf (code : String) (issues : List Issue) : List Issue :=
  issues.filter fun i => i.code == code

section Codes

variable {is js : List Issue} {code other : String} {p : Program}

@[simp] theorem issuesOf_append : issuesOf code (is ++ js) = issuesOf code is ++ issuesOf code js :=
  List.filter_append ..

theorem issuesOf_flatMap {α : Type} (xs : List α) (issues : α → List Issue) :
    issuesOf code (xs.flatMap issues) = xs.flatMap fun x => issuesOf code (issues x) :=
  List.filter_flatMap

theorem issuesOf_map {α : Type} {xs : List α} {issue : α → Issue} (hcode : ∀ x, (issue x).code = other) :
    issuesOf code (xs.map issue) = if other = code then xs.map issue else [] := by
  split
  · next h => exact List.filter_eq_self.2 fun i hi => by grind
  · next h => exact List.filter_eq_nil_iff.2 fun i hi => by grind

theorem issuesOf_when {i : Issue} {broken : Bool} :
    issuesOf code (i.when broken) = if i.code = code then i.when broken else [] := by
  cases broken <;> by_cases h : i.code = code <;> simp [issuesOf, Issue.when, h]

/-- The issues of a rule against repetition are among those that report a repetition. -/
theorem issuesOf_duplicatesOf (h : duplicateCodes.contains code = true) :
    issuesOf code (duplicatesOf is) = issuesOf code is := by
  unfold issuesOf duplicatesOf
  rw [List.filter_filter]
  refine List.filter_congr fun i _ => ?_
  by_cases hi : i.code = code
  · rw [hi, h, Bool.and_true]
  · simp [hi]

/-- The issues of a rule against repetition, step by step and statement by statement. -/
theorem ofCode_verdict (h : duplicateCodes.contains code = true) :
    (Validator.run {} p).verdict.ofCode code =
      issuesOf code p.collected.2 ++ p.statements.flatMap fun s =>
        issuesOf code s.repeatedParts ++ s.placedBlocks.flatMap fun x => issuesOf code (x.2.duplicates x.1) := by
  have hreferences : issuesOf code (p.checkReferences p.collected.1 ["Program"]) = [] := by
    rw [← issuesOf_duplicatesOf h, Program.duplicatesOf_checkReferences]
    rfl
  show issuesOf code (Validator.run {} p).issues = _
  rw [Validator.issues_run, issuesOf_append, Program.ruleIssues, issuesOf_append, hreferences, List.append_nil,
    issuesOf_flatMap]
  congr 2
  funext s
  rw [← issuesOf_duplicatesOf h, Statement.duplicatesOf_check, issuesOf_append, issuesOf_flatMap]

/-- The first step reports second declarations only. -/
theorem issuesOf_collected (h : redeclarationCodes.contains code = false) : issuesOf code p.collected.2 = [] := by
  refine List.filter_eq_nil_iff.2 fun i hi hcode => ?_
  have hredeclared := isRedeclaration_collect hi
  rw [Issue.isRedeclaration, beq_iff_eq.1 hcode, h] at hredeclared
  cases hredeclared

/-- The second declarations of one kind. -/
theorem issuesOf_collected_kind (kind : SymbolKind) : issuesOf kind.code p.collected.2 =
    (recurrences Prod.fst (p.declared kind)).map fun x => redeclared ["Program"] x.1.1 x.1.2 x.2.2 := by
  have hcode : ((fun i : Issue => i.code == kind.code) ∘ fun x : (Symbol × Position) × (Symbol × Position) =>
      redeclared ["Program"] x.1.1 x.1.2 x.2.2) = fun x => x.1.1.kind == kind := by
    funext x
    show (x.1.1.redeclaration.1 == kind.code) = _
    rw [Symbol.redeclaration_code, Bool.eq_iff_iff, beq_iff_eq, beq_iff_eq, SymbolKind.code_injective.eq_iff]
  have hfilter : (recurrences Prod.fst p.declarations).filter (fun x => x.1.1.kind == kind) =
      recurrences Prod.fst (p.declarations.filter fun d => d.1.kind == kind) :=
    filter_recurrences (fun d : Symbol × Position => d.1.kind == kind) fun x y hxy => by rw [beq_iff_eq.1 hxy]
  rw [issuesOf, Program.collected, Symbols.issues_collect, List.filter_map, hcode, hfilter,
    Program.filter_declarations]

/-- Repeated elements, as issues of one rule. -/
theorem issuesOf_map_repeats {α κ : Type} [BEq κ] [LawfulBEq κ] {key : α → κ} {xs : List α} {issue : α → Issue}
    (hcode : ∀ x, (issue x).code = other) : issuesOf code ((repeats key xs).map issue) =
      if other = code then (recurrences key xs).map fun y => issue y.1 else [] := by
  rw [issuesOf_map hcode, repeats_eq_map_recurrences, List.map_map]
  rfl

/-- The repeated entries of a block, of one rule. -/
theorem issuesOf_blockDuplicates (x : ContextPath × Block) : issuesOf code (x.2.duplicates x.1) =
    (if "LIFECYCLE_DUPLICATE_STATUS" = code then
      (recurrences LifecycleEntry.status x.2.entries).map fun y => y.1.repeated x.1 else []) ++
    if "CHARACTERISTICS_DUPLICATE" = code then
      (recurrences Assignment.name x.2.assignments).map fun y => y.1.repeated x.1 else [] := by
  rw [Block.duplicates, issuesOf_append]
  exact congrArg₂ _ (issuesOf_map_repeats fun _ => rfl) (issuesOf_map_repeats fun _ => rfl)

/-- The elements that are marked, as issues. -/
theorem flatMap_markRepeats_when {α κ : Type} [BEq κ] {key : α → κ} {seen : List κ} {xs : List α} {issue : α → Issue} :
    ((markRepeats key seen xs).flatMap fun x => (issue x.1).when x.2) =
      (((markRepeats key seen xs).filter Prod.snd).map Prod.fst).map issue := by
  induction xs generalizing seen with
  | nil => rfl
  | cons x xs ih =>
    rw [markRepeats, List.flatMap_cons, ih]
    cases seen.contains (key x) <;> rfl

/-- The repeated fields and values of a unit, of one rule. -/
theorem issuesOf_unitParts (u : UnitDeclaration) : issuesOf code (Statement.unit u).repeatedParts =
    (markRepeats UnitField.name [] u.fields).flatMap fun x =>
      (if "UNIT_FIELD_DUPLICATE" = code then (u.fieldRepeated ["Program"] x.1).when x.2 else []) ++
      if "FIELD_CATEGORY_DUPLICATE" = code then
        (recurrences id x.1.values).map fun y => x.1.valueRepeated (["Program"] ++ [s!"Unit({u.name})"]) y.1
      else [] := by
  rw [Statement.repeatedParts, issuesOf_flatMap]
  congr 1
  funext x
  rw [issuesOf_append]
  exact congrArg₂ _ issuesOf_when (issuesOf_map_repeats fun _ => rfl)

/-- The repeated fields of a unit. -/
theorem issuesOf_unitFields (u : UnitDeclaration) :
    issuesOf "UNIT_FIELD_DUPLICATE" (Statement.unit u).repeatedParts =
      (recurrences UnitField.name u.fields).map fun x => u.fieldRepeated ["Program"] x.1 := by
  rw [issuesOf_unitParts]
  simp only [String.reduceEq, if_true, if_false, List.append_nil, flatMap_markRepeats_when]
  show (repeats UnitField.name u.fields).map (u.fieldRepeated ["Program"]) = _
  rw [repeats_eq_map_recurrences, List.map_map]
  rfl

/-- The repeated values of a unit. -/
theorem issuesOf_unitValues (u : UnitDeclaration) :
    issuesOf "FIELD_CATEGORY_DUPLICATE" (Statement.unit u).repeatedParts = u.fields.flatMap fun f =>
      (recurrences id f.values).map fun x => f.valueRepeated (["Program"] ++ [s!"Unit({u.name})"]) x.1 := by
  rw [issuesOf_unitParts]
  simp only [String.reduceEq, if_true, if_false, List.nil_append]
  conv_rhs => rw [← map_fst_markRepeats UnitField.name [] u.fields, List.flatMap_map]

/-- The repeated keys of a vocabulary, of one rule. -/
theorem issuesOf_vocabularyParts (d : Vocabulary) : issuesOf code (Statement.vocabulary d).repeatedParts =
    d.bodies.flatMap fun b => if "VOCAB_DUPLICATE_KEY" = code then
      (recurrences (fun e => e.key.text) b.entries).map fun y =>
        b.keyRepeated (["Program"] ++ [s!"Vocabulary({d.name})"]) y.1 else [] := by
  rw [Statement.repeatedParts, issuesOf_flatMap]
  congr 1
  funext b
  exact issuesOf_map_repeats fun _ => rfl

/-- A rule that finds nothing in the parts of units and vocabularies. -/
theorem issuesOf_repeatedParts_eq_nil (hfield : "UNIT_FIELD_DUPLICATE" ≠ code)
    (hvalue : "FIELD_CATEGORY_DUPLICATE" ≠ code) (hkey : "VOCAB_DUPLICATE_KEY" ≠ code) (s : Statement) :
    issuesOf code s.repeatedParts = [] := by
  cases s with
  | unit u => simp [issuesOf_unitParts, hfield, hvalue]
  | vocabulary d => simp [issuesOf_vocabularyParts, hkey]
  | _ => rfl

/-- A rule that finds nothing in blocks. -/
theorem issuesOf_blockDuplicates_eq_nil (hstatus : "LIFECYCLE_DUPLICATE_STATUS" ≠ code)
    (hcharacteristic : "CHARACTERISTICS_DUPLICATE" ≠ code) (x : ContextPath × Block) :
    issuesOf code (x.2.duplicates x.1) = [] := by
  simp [issuesOf_blockDuplicates, hstatus, hcharacteristic]

/-- The repeated parts of the statements of one kind. -/
theorem issuesOf_parts {α : Type} {select : Statement → Option α} {issues : α → List Issue}
    (h : ∀ s : Statement, issuesOf code s.repeatedParts = (select s).toList.flatMap issues) :
    (p.statements.flatMap fun s => issuesOf code s.repeatedParts) = (p.statements.filterMap select).flatMap issues := by
  rw [List.filterMap_eq_flatMap_toList, List.flatMap_assoc]
  simp only [h]

end Codes

/-! ## Verdicts -/

/-- The issues of a verdict against repetition are those of the elements that come again, in the order of the program.
A second declaration is an error that stands at its own place and says where the nearest declaration in front is. -/
structure ReportsRepetition (p : Program) (v : Verdict) : Prop where
  declarations : ∀ kind : SymbolKind, v.ofCode kind.code =
    (recurrences Prod.fst (p.declared kind)).map fun x => redeclared ["Program"] x.1.1 x.1.2 x.2.2
  places : ∀ kind : SymbolKind, (v.ofCode kind.code).map (fun i => (i.severity, i.position, i.suggestion)) =
    (recurrences Prod.fst (p.declared kind)).map fun x =>
      let noun := if x.1.1.kind = .outlet then "outlet" else "declaration"
      (.error, x.1.2, some s!"Previous {noun} at {x.2.2.line}:{x.2.2.column}")
  fields : v.ofCode "UNIT_FIELD_DUPLICATE" = p.units.flatMap fun u =>
    (recurrences UnitField.name u.fields).map fun x => u.fieldRepeated ["Program"] x.1
  values : v.ofCode "FIELD_CATEGORY_DUPLICATE" = p.units.flatMap fun u => u.fields.flatMap fun f =>
    (recurrences id f.values).map fun x => f.valueRepeated (["Program"] ++ [s!"Unit({u.name})"]) x.1
  keys : v.ofCode "VOCAB_DUPLICATE_KEY" = p.vocabularies.flatMap fun d => d.bodies.flatMap fun b =>
    (recurrences (fun e => e.key.text) b.entries).map fun x =>
      b.keyRepeated (["Program"] ++ [s!"Vocabulary({d.name})"]) x.1
  statuses : v.ofCode "LIFECYCLE_DUPLICATE_STATUS" = p.placedBlocks.flatMap fun x =>
    (recurrences LifecycleEntry.status x.2.entries).map fun y => y.1.repeated x.1
  characteristics : v.ofCode "CHARACTERISTICS_DUPLICATE" = p.placedBlocks.flatMap fun x =>
    (recurrences Assignment.name x.2.assignments).map fun y => y.1.repeated x.1

section Verdicts

variable (p : Program)

/-- Second declarations of a kind. -/
theorem ofCode_redeclared (kind : SymbolKind) : (Validator.run {} p).verdict.ofCode kind.code =
    (recurrences Prod.fst (p.declared kind)).map fun x => redeclared ["Program"] x.1.1 x.1.2 x.2.2 := by
  have hcode : duplicateCodes.contains kind.code = true := by cases kind <;> decide
  have hparts : ∀ s : Statement, issuesOf kind.code s.repeatedParts = [] :=
    issuesOf_repeatedParts_eq_nil (by cases kind <;> decide) (by cases kind <;> decide) (by cases kind <;> decide)
  have hblocks : ∀ x : ContextPath × Block, issuesOf kind.code (x.2.duplicates x.1) = [] :=
    issuesOf_blockDuplicates_eq_nil (by cases kind <;> decide) (by cases kind <;> decide)
  rw [ofCode_verdict hcode, issuesOf_collected_kind]
  simp [hparts, hblocks]

/-- Second declarations of a kind, with the places of those in front. -/
theorem places_redeclared (kind : SymbolKind) :
    ((Validator.run {} p).verdict.ofCode kind.code).map (fun i => (i.severity, i.position, i.suggestion)) =
      (recurrences Prod.fst (p.declared kind)).map fun x =>
        let noun := if x.1.1.kind = .outlet then "outlet" else "declaration"
        (.error, x.1.2, some s!"Previous {noun} at {x.2.2.line}:{x.2.2.column}") := by
  rw [ofCode_redeclared, List.map_map]
  refine List.map_congr_left fun x _ => ?_
  obtain ⟨⟨symbol, position⟩, -, earlier⟩ := x
  cases symbol <;> rfl

/-- What is repeated in the parts of units or vocabularies. -/
theorem ofCode_parts {code : String} (h : code ∈ ["UNIT_FIELD_DUPLICATE", "FIELD_CATEGORY_DUPLICATE",
    "VOCAB_DUPLICATE_KEY"]) : (Validator.run {} p).verdict.ofCode code =
      p.statements.flatMap fun s => issuesOf code s.repeatedParts := by
  have hcode : duplicateCodes.contains code = true ∧ redeclarationCodes.contains code = false ∧
      "LIFECYCLE_DUPLICATE_STATUS" ≠ code ∧ "CHARACTERISTICS_DUPLICATE" ≠ code := by
    revert code
    decide
  obtain ⟨hduplicate, hdeclared, hstatus, hcharacteristic⟩ := hcode
  rw [ofCode_verdict hduplicate, issuesOf_collected hdeclared]
  have hblocks : ∀ s : Statement, (s.placedBlocks.flatMap fun x => issuesOf code (x.2.duplicates x.1)) = [] := fun s =>
    List.flatMap_eq_nil_iff.2 fun x _ => issuesOf_blockDuplicates_eq_nil hstatus hcharacteristic x
  simp [hblocks]

/-- What is repeated in blocks. -/
theorem ofCode_blocks {code : String} (h : code ∈ ["LIFECYCLE_DUPLICATE_STATUS", "CHARACTERISTICS_DUPLICATE"]) :
    (Validator.run {} p).verdict.ofCode code = p.placedBlocks.flatMap fun x => issuesOf code (x.2.duplicates x.1) := by
  have hcode : duplicateCodes.contains code = true ∧ redeclarationCodes.contains code = false ∧
      "UNIT_FIELD_DUPLICATE" ≠ code ∧ "FIELD_CATEGORY_DUPLICATE" ≠ code ∧ "VOCAB_DUPLICATE_KEY" ≠ code := by
    revert code
    decide
  obtain ⟨hduplicate, hdeclared, hfield, hvalue, hkey⟩ := hcode
  rw [ofCode_verdict hduplicate, issuesOf_collected hdeclared, Program.placedBlocks, List.flatMap_assoc]
  simp [issuesOf_repeatedParts_eq_nil hfield hvalue hkey]

/-- The validation of a program reports repetition. -/
theorem reportsRepetition_verdict : ReportsRepetition p (Validator.run {} p).verdict where
  declarations := ofCode_redeclared p
  places := places_redeclared p
  fields := by
    rw [ofCode_parts p (by decide), Program.units]
    refine issuesOf_parts fun s => ?_
    cases s with
    | unit u => exact (issuesOf_unitFields u).trans (List.append_nil _).symm
    | vocabulary d => simp [issuesOf_vocabularyParts]
    | _ => rfl
  values := by
    rw [ofCode_parts p (by decide), Program.units]
    refine issuesOf_parts fun s => ?_
    cases s with
    | unit u => exact (issuesOf_unitValues u).trans (List.append_nil _).symm
    | vocabulary d => simp [issuesOf_vocabularyParts]
    | _ => rfl
  keys := by
    rw [ofCode_parts p (by decide), Program.vocabularies]
    refine issuesOf_parts fun s => ?_
    cases s with
    | unit u => simp [issuesOf_unitParts]
    | vocabulary d => simp [issuesOf_vocabularyParts]
    | _ => rfl
  statuses := by
    rw [ofCode_blocks p (by decide)]
    simp [issuesOf_blockDuplicates]
  characteristics := by
    rw [ofCode_blocks p (by decide)]
    simp [issuesOf_blockDuplicates]

/-- The table of the declarations of each kind. -/
theorem records_declared (kind : SymbolKind) : Symbols.Records (p.declared kind)
    ((Validator.run {} p).symbols.filter fun entry => entry.1.kind == kind) := by
  rw [Validator.symbols_run, Program.collected, Symbols.filter_collect fun symbol => symbol.kind == kind,
    Program.filter_declarations]
  exact Symbols.records_collect

end Verdicts

/-- The validation of a program whose numbers are finite reports every declaration, field, value, key, status and
characteristic that has occurred in front, each once and with the place of the nearest declaration in front, and
nothing else; and it leaves a table of the declarations of each kind. -/
theorem duplicates_exact {p : Program} (hfinite : ∀ x ∈ Validator.integers p, x.isFinite) :
    ∃ v, p.validate = .ok v ∧ ReportsRepetition p v ∧ ∀ kind,
      Symbols.Records (p.declared kind) ((Validator.run {} p).symbols.filter fun entry => entry.1.kind == kind) :=
  ⟨_, validate_of_finite hfinite, reportsRepetition_verdict p, records_declared p⟩

/-- Three units of one name with a field and a value that come again, a vocabulary whose keys are the number and the
text one, and three outlets with one number in two families, with a status and a characteristic that come again. -/
def repetitionSample : Program :=
  ⟨[.unit ⟨"u", [⟨"f", ⟨.category ["a", "b", "a"], ⟨2, 6, 15⟩⟩, false, ⟨2, 3, 12⟩⟩,
      ⟨"f", ⟨.number, ⟨3, 6, 42⟩⟩, false, ⟨3, 3, 39⟩⟩], ⟨1, 1, 0⟩⟩,
    .unit ⟨"u", [], ⟨5, 1, 60⟩⟩,
    .vocabulary ⟨"v", [⟨"b", [⟨.number (.finite false 1 0), "x", ⟨8, 5, 100⟩⟩, ⟨.quoted "1", "y", ⟨9, 5, 112⟩⟩],
      ⟨7, 3, 90⟩⟩], ⟨6, 1, 74⟩⟩,
    .family ⟨"F", [
      .outlet ⟨"A", none, [.identity ⟨[.assignment ⟨"id", .number (.finite false 1 0) ⟨12, 20, 160⟩, ⟨12, 15, 155⟩⟩],
        ⟨12, 5, 145⟩⟩], ⟨11, 3, 130⟩⟩,
      .outlet ⟨"B", none, [.identity ⟨[.assignment ⟨"id", .number (.finite false 1 0) ⟨15, 20, 200⟩, ⟨15, 15, 195⟩⟩],
        ⟨15, 5, 185⟩⟩,
        .lifecycle ⟨[⟨"active", .day "2001-01-01" ⟨16, 10, 220⟩, none, [], ⟨16, 5, 215⟩⟩,
          ⟨"active", .day "2002-01-01" ⟨17, 10, 240⟩, none, [], ⟨17, 5, 235⟩⟩], ⟨15, 50, 210⟩⟩], ⟨14, 3, 170⟩⟩],
      ⟨10, 1, 120⟩⟩,
    .unit ⟨"u", [], ⟨19, 1, 260⟩⟩,
    .family ⟨"G", [
      .outlet ⟨"C", none, [.identity ⟨[.assignment ⟨"id", .number (.finite false 1 0) ⟨22, 20, 310⟩, ⟨22, 15, 305⟩⟩],
        ⟨22, 5, 295⟩⟩,
        .characteristics ⟨[.assignment ⟨"k", .string "x" ⟨23, 9, 330⟩, ⟨23, 5, 326⟩⟩,
          .assignment ⟨"k", .string "y" ⟨24, 9, 345⟩, ⟨24, 5, 341⟩⟩], ⟨22, 50, 320⟩⟩], ⟨21, 3, 280⟩⟩], ⟨20, 1, 270⟩⟩]⟩

/-- Every rule finds what comes again in the sample. -/
theorem duplicates_exact_sample :
    (∀ x ∈ Validator.integers repetitionSample, x.isFinite) ∧
    ((duplicatesOf (Validator.run {} repetitionSample).issues).map Issue.code =
      ["UNIT_REDECLARED", "OUTLET_ID_DUPLICATE", "UNIT_REDECLARED", "OUTLET_ID_DUPLICATE", "FIELD_CATEGORY_DUPLICATE",
        "UNIT_FIELD_DUPLICATE", "VOCAB_DUPLICATE_KEY", "LIFECYCLE_DUPLICATE_STATUS", "CHARACTERISTICS_DUPLICATE"]) ∧
    ∃ v, repetitionSample.validate = .ok v ∧ ReportsRepetition repetitionSample v ∧ ∀ kind,
      Symbols.Records (repetitionSample.declared kind)
        ((Validator.run {} repetitionSample).symbols.filter fun entry => entry.1.kind == kind) := by
  obtain ⟨hfinite, hcodes⟩ : (∀ x ∈ Validator.integers repetitionSample, x.isFinite) ∧
      (duplicatesOf (Validator.run {} repetitionSample).issues).map Issue.code =
        ["UNIT_REDECLARED", "OUTLET_ID_DUPLICATE", "UNIT_REDECLARED", "OUTLET_ID_DUPLICATE",
          "FIELD_CATEGORY_DUPLICATE", "UNIT_FIELD_DUPLICATE", "VOCAB_DUPLICATE_KEY", "LIFECYCLE_DUPLICATE_STATUS",
          "CHARACTERISTICS_DUPLICATE"] := by decide +kernel
  exact ⟨hfinite, hcodes, duplicates_exact hfinite⟩

end MediaLanguage
