import MediaLanguage.Proofs.Validation.Symbol

/-!
# The steps of a validation

A step of a validation changes the context while it is at work: it enters a declaration, and what it adds stands in
the context that it has made. `Adds` says where a step starts and ends and what it adds; a step that enters has to be
followed by one that leaves (`Adds.enter`, `Adds.leave`) before the context is that of the start again.

* `Statement.reports_validate`, `Program.reports_validateReferences`: each step of the rules ends in the context that
  it has started in, whichever branches, loops and early ends it takes, and adds the issues of its declaration.
* `Validator.collectDeclarations_eq`, `checkStatements_eq`, `checkReferences_eq`, `run_eq`: what the steps that can be
  asked for do to a validator.
-/

namespace MediaLanguage

open Ast

/-- The validator after a step and another. -/
theorem Validator.after_bind (v : Validator) (m : Validation Unit) (n : Unit → Validation Unit) :
    v.after (m >>= n) = (v.after m).after (n ()) := rfl

namespace Validation

/-- A step that starts in the context `path` and ends in the context `path'`. It adds issues at the end, which depend
on the declared symbols alone, and changes nothing else. -/
def Adds (m : Validation Unit) (path path' : ContextPath) (issues : Symbols → List Issue) : Prop :=
  ∀ v : Validator, v.context = path →
    v.after m = { v with issues := v.issues ++ issues v.symbols, context := path' }

/-- A step that ends in the context that it has started in, wherever that is, and adds issues. -/
def Reports (m : Validation Unit) (issues : Symbols → ContextPath → List Issue) : Prop :=
  ∀ path, Adds m path path fun symbols => issues symbols path

/-! ## Sequences, conditions and loops -/

section Adds

variable {m n : Validation Unit} {path path' path'' : ContextPath} {name : String}
  {a b : Symbols → List Issue}

/-- Nothing is done. -/
theorem adds_nil : Adds (pure ()) path path fun _ => [] := by
  rintro v rfl
  show v = { v with issues := v.issues ++ [] }
  rw [List.append_nil]

/-- A step and another. -/
theorem Adds.andThen (hm : Adds m path path' a) (hn : Adds n path' path'' b) :
    Adds (m >>= fun _ => n) path path'' fun symbols => a symbols ++ b symbols := by
  intro v hv
  rw [Validator.after_bind, hm v hv, hn _ rfl, List.append_assoc]

/-- The same issues, written in another way. -/
theorem Adds.congr (h : ∀ symbols, a symbols = b symbols) (hm : Adds m path path' a) : Adds m path path' b := by
  rwa [← funext h]

/-- A step inside a declaration that is entered before it. -/
theorem Adds.enter (hm : Adds m (path ++ [name]) path' a) : Adds (push name >>= fun _ => m) path path' a := by
  rintro v rfl
  rw [Validator.after_bind]
  exact hm (v.push name) rfl

/-- A step inside a declaration that is left after it. -/
theorem Adds.leave (hm : Adds m path (path' ++ [name]) a) : Adds (m >>= fun _ => pop) path path' a := by
  intro v hv
  rw [Validator.after_bind, hm v hv]
  show Validator.pop _ = _
  rw [Validator.pop, List.dropLast_concat]

/-- A step under a condition. -/
theorem Adds.when (hm : Adds m path path a) (condition : Bool) :
    Adds (when condition m) path path fun symbols => if condition then a symbols else [] := by
  cases condition with
  | true => exact hm
  | false => exact adds_nil

/-- A step for a symbol that is not declared. -/
theorem Adds.unlessDeclared (hm : Adds m path path a) (symbol : Symbol) :
    Adds (unlessDeclared symbol m) path path fun symbols => if !symbols.declares symbol then a symbols else [] := by
  intro v hv
  exact hm.when (!v.symbols.declares symbol) v hv

variable {α κ : Type}

/-- A step for each element of a list. -/
theorem Adds.forM {f : α → Validation Unit} {issues : α → Symbols → List Issue} {xs : List α}
    (h : ∀ x ∈ xs, Adds (f x) path path (issues x)) :
    Adds (xs.forM f) path path fun symbols => xs.flatMap fun x => issues x symbols := by
  induction xs with
  | nil => exact adds_nil
  | cons x xs ih => exact (h x List.mem_cons_self).andThen (ih fun y hy => h y (List.mem_cons_of_mem x hy))

/-- A step for what may be there. -/
theorem Adds.forOption {f : α → Validation Unit} {issues : α → Symbols → List Issue} (x : Option α)
    (h : ∀ x, Adds (f x) path path (issues x)) :
    Adds (x.forM f) path path fun symbols => x.toList.flatMap fun x => issues x symbols := by
  cases x with
  | none => exact adds_nil
  | some x => simpa using h x

/-- A step for each element of a list, with whether its key has occurred. -/
theorem Adds.scan [BEq κ] {step : α → Bool → Validation Unit} {issues : α → Bool → Symbols → List Issue}
    (key : α → κ) (xs : List α) (h : ∀ x repeated, Adds (step x repeated) path path (issues x repeated)) :
    Adds (scan key xs step) path path
      fun symbols => (markRepeats key [] xs).flatMap fun x => issues x.1 x.2 symbols :=
  .forM fun x _ => h x.1 x.2

/-- An issue for each element whose key has occurred. -/
theorem Adds.scanRepeats [BEq κ] {step : α → Validation Unit} {issue : α → Issue} (key : α → κ) (xs : List α)
    (h : ∀ x, Adds (step x) path path fun _ => [issue x]) :
    Adds (MediaLanguage.scan key xs fun x repeated => Validation.when repeated (step x)) path path
      fun _ => (repeats key xs).map issue := by
  have hissues : ((markRepeats key [] xs).flatMap fun x => if x.2 then [issue x.1] else []) =
      (repeats key xs).map issue := by
    unfold repeats
    induction markRepeats key [] xs with
    | nil => rfl
    | cons x marks ih =>
      obtain ⟨x, repeated⟩ := x
      cases repeated <;> simp [ih]
  rw [← hissues]
  exact .scan key xs fun x repeated => (h x).when repeated

/-! ## Issues -/

section Issues

variable {code message suggestion : String} {position : Position}

theorem adds_error : Adds (addError code message position suggestion) path path
    fun _ => [path.error code message position suggestion] := by
  rintro v rfl
  rfl

theorem adds_warning : Adds (addWarning code message position suggestion) path path
    fun _ => [path.warning code message position suggestion] := by
  rintro v rfl
  rfl

theorem adds_info : Adds (addInfo code message position suggestion) path path
    fun _ => [path.info code message position suggestion] := by
  rintro v rfl
  rfl

end Issues

end Adds

end Validation

open Validation

/-! ## Rules for single declarations -/

namespace Ast

theorem Import.reports_validate (d : Import) : Reports d.validate fun _ path => d.check path := by
  intro path
  exact .enter (.andThen (adds_warning.when _) (.leave (adds_info.when _)))

theorem Variable.reports_validate (d : Variable) : Reports d.validate fun _ path => d.check path := by
  intro path
  exact .enter (.leave (adds_warning.when _))

theorem UnitField.reports_validate (f : UnitField) : Reports f.validate fun _ path => f.check path := by
  intro path
  have htype : Adds f.validateType (path ++ [s!"Field({f.name})"]) (path ++ [s!"Field({f.name})"])
      fun _ => f.check path := by
    unfold UnitField.validateType UnitField.check
    cases f.type.type with
    | text length =>
      cases length with
      | none => exact adds_nil
      | some length => exact .andThen (adds_error.when _) (adds_warning.when _)
    | category values => exact .andThen (adds_error.when _) (.scanRepeats _ _ fun _ => adds_error)
    | _ => exact adds_nil
  exact .enter (.leave htype)

theorem UnitDeclaration.reports_validate (u : UnitDeclaration) : Reports u.validate fun _ path => u.check path := by
  intro path
  refine .congr ?_ (.enter (.andThen (adds_error.when _) (.andThen (adds_warning.when _)
    (.leave (.scan _ _ fun f repeated => .andThen (adds_error.when _) (f.reports_validate _))))))
  intro symbols
  exact (List.append_assoc ..).symm

theorem VocabularyBody.reports_validate (b : VocabularyBody) : Reports b.validate fun _ path => b.check path := by
  intro path
  exact .enter (.andThen (adds_warning.when _) (.leave (.scanRepeats _ _ fun _ => adds_error)))

theorem Vocabulary.reports_validate (v : Vocabulary) : Reports v.validate fun _ path => v.check path := by
  intro path
  exact .enter (.andThen (adds_error.when _) (.leave (.forM fun b _ => b.reports_validate _)))

theorem reports_validateIdentity (blocks : List Identity) :
    Reports (validateIdentity blocks) fun _ path => checkIdentity path blocks := by
  intro path
  cases blocks with
  | nil => exact adds_nil
  | cons first others => exact .enter (.andThen (adds_error.when _) (.leave (adds_warning.when _)))

theorem Lifecycle.reports_validate (b : Lifecycle) : Reports b.validate fun _ path => b.check path := by
  intro path
  exact .enter (.andThen (adds_warning.when _) (.leave (.scanRepeats _ _ fun _ => adds_warning)))

theorem FieldBlock.reports_validateCharacteristics (b : FieldBlock) :
    Reports b.validateCharacteristics fun _ path => b.checkCharacteristics path := by
  intro path
  exact .enter (.andThen (adds_warning.when _) (.leave (.scanRepeats _ _ fun _ => adds_warning)))

theorem FieldBlock.reports_validateMetadata (b : FieldBlock) :
    Reports b.validateMetadata fun _ path => b.checkMetadata path := by
  intro path
  exact .enter (.leave (adds_info.when _))

theorem Block.reports_validate (b : Block) : Reports b.validate fun _ path => b.check path := by
  cases b with
  | lifecycle b => exact b.reports_validate
  | characteristics b => exact b.reports_validateCharacteristics
  | metadata b => exact b.reports_validateMetadata
  | identity | comment => exact fun _ => adds_nil

theorem reports_validateBlocks (blocks : List Block) :
    Reports (validateBlocks blocks) fun _ path => checkBlocks path blocks := by
  intro path
  exact .andThen (reports_validateIdentity _ path) (.forM fun b _ => b.reports_validate path)

theorem Template.reports_validate (t : Template) : Reports t.validate fun _ path => t.check path := by
  intro path
  exact .enter (.andThen (adds_warning.when _) (.leave (reports_validateBlocks _ _)))

theorem Outlet.reports_validate (o : Outlet) : Reports o.validate fun _ path => o.check path := by
  intro path
  refine .congr ?_ (.enter (.andThen (adds_error.when _) (.andThen (adds_warning.when _)
    (.leave (reports_validateBlocks _ _)))))
  intro symbols
  exact (List.append_assoc ..).symm

theorem Data.reports_validate (d : Data) : Reports d.validate fun symbols path => d.check symbols path := by
  intro path
  exact .enter (.andThen (adds_error.unlessDeclared _) (.leave (adds_warning.when _)))

theorem DiachronicLink.reports_validate (l : DiachronicLink) :
    Reports l.validate fun symbols path => l.check symbols path := by
  intro path
  refine .congr ?_ (.enter (.andThen (.forOption _ fun _ => adds_error.unlessDeclared _)
    (.andThen (.forOption _ fun _ => adds_error.unlessDeclared _) (.leave (adds_warning.when _)))))
  intro symbols
  exact (List.append_assoc ..).symm

theorem SynchronousLink.reports_validate (l : SynchronousLink) :
    Reports l.validate fun symbols path => l.check symbols path := by
  intro path
  refine .congr ?_ (.enter (.andThen (.forM fun x _ => .forOption _ fun _ => adds_error.unlessDeclared _)
    (.leave (adds_warning.when _))))
  intro symbols
  rw [List.flatMap_cons, List.flatMap_cons, List.flatMap_nil, List.append_nil]
  rfl

theorem Link.reports_validate (l : Link) : Reports l.validate fun symbols path => l.check symbols path := by
  cases l with
  | diachronic l => exact l.reports_validate
  | synchronous l => exact l.reports_validate

/-! ## Families and statements -/

theorem FamilyMember.reports_validate (m : FamilyMember) :
    Reports m.validate fun symbols path => m.check symbols path := by
  cases m with
  | outlet o => exact o.reports_validate
  | link l => exact l.reports_validate
  | data d => exact d.reports_validate
  | reference | comment => exact fun _ => adds_nil

theorem Family.reports_validate (f : Family) : Reports f.validate fun symbols path => f.check symbols path := by
  intro path
  refine .congr ?_ (.enter (.andThen (adds_warning.when _) (.andThen (.forM fun m _ => m.reports_validate _)
    (.andThen (adds_warning.when _) (.leave (adds_warning.when _))))))
  intro symbols
  simp only [← List.append_assoc]
  rfl

/-- The rules for a statement leave every declaration that they enter, and add the issues of the statement. -/
theorem Statement.reports_validate (d : Statement) :
    Reports d.validate fun symbols path => d.check symbols path := by
  cases d with
  | importFile d => exact d.reports_validate
  | letVariable d => exact d.reports_validate
  | template d => exact d.reports_validate
  | unit d => exact d.reports_validate
  | vocabulary d => exact d.reports_validate
  | family d => exact d.reports_validate
  | data d => exact d.reports_validate
  | link d => exact d.reports_validate
  | event | catalog | comment => exact fun _ => adds_nil

/-! ## References -/

theorem Outlet.reports_validateInheritance (o : Outlet) :
    Reports o.validateInheritance fun symbols path => o.checkInheritance symbols path := by
  intro path
  unfold Outlet.validateInheritance Outlet.checkInheritance
  cases o.inheritance with
  | none => exact adds_nil
  | some inheritance =>
    cases inheritance with
    | template name position => exact .enter (.leave (adds_error.unlessDeclared _))
    | outlet id position => exact .enter (.leave (adds_error.unlessDeclared _))

theorem Family.reports_validateInheritance (f : Family) :
    Reports f.validateInheritance fun symbols path => f.checkInheritance symbols path := by
  intro path
  exact .enter (.leave (.forM fun o _ => o.reports_validateInheritance _))

/-- The rules for references leave every declaration that they enter, and add the issues of the references. -/
theorem Program.reports_validateReferences (p : Program) :
    Reports p.validateReferences fun symbols path => p.checkReferences symbols path := by
  intro path
  exact .enter (.andThen (.forM fun f _ => f.reports_validateInheritance _)
    (.leave (.forM fun x _ => adds_error.unlessDeclared _)))

end Ast

/-! ## Declarations -/

/-- The validator after declarations: the table has them, and each that repeats an earlier one is an issue. -/
def Validator.collecting (v : Validator) (declarations : List (Symbol × Position)) : Validator :=
  let (symbols, issues) := v.symbols.collect v.context declarations
  { v with symbols, issues := v.issues ++ issues }

namespace Validation

/-- A step that makes declarations and changes nothing else. -/
def Declares (m : Validation Unit) (declarations : List (Symbol × Position)) : Prop :=
  ∀ v : Validator, v.after m = v.collecting declarations

section Declares

variable {m n : Validation Unit} {a b : List (Symbol × Position)}

/-- Nothing is declared. -/
theorem declares_nil : Declares (pure ()) [] := by
  intro v
  show v = { v with issues := v.issues ++ [] }
  rw [List.append_nil]

/-- A declaration adds its issue in the context at hand. -/
theorem declares_declare (symbol : Symbol) (position : Position) :
    Declares (declare symbol position) [(symbol, position)] := by
  intro v
  show Validator.after { v with symbols := v.symbols.insert symbol position } ((v.symbols.find? symbol).forM _) =
    v.collecting [(symbol, position)]
  unfold Validator.collecting Symbols.collect
  cases v.symbols.find? symbol with
  | none =>
    show Validator.mk _ _ _ = Validator.mk _ (v.issues ++ []) _
    rw [List.append_nil]
  | some earlier => rfl

/-- Some declarations and others. -/
theorem Declares.andThen (hm : Declares m a) (hn : Declares n b) : Declares (m >>= fun _ => n) (a ++ b) := by
  intro v
  rw [Validator.after_bind, hm v, hn]
  simp only [Validator.collecting, Symbols.collect_append, List.append_assoc]

/-- The declarations of each element of a list. -/
theorem Declares.forM {α : Type} {f : α → Validation Unit} {declarations : α → List (Symbol × Position)}
    (h : ∀ x, Declares (f x) (declarations x)) (xs : List α) : Declares (xs.forM f) (xs.flatMap declarations) := by
  induction xs with
  | nil => exact declares_nil
  | cons x xs ih => exact (h x).andThen ih

end Declares

end Validation

namespace Ast

theorem Outlet.declares_collect (o : Outlet) : Declares o.collect o.declarations := by
  unfold Outlet.collect Outlet.declarations
  cases o.declaredId? with
  | none => exact declares_nil
  | some id => exact declares_declare _ _

theorem Statement.declares_collect (d : Statement) : Declares d.collect d.declarations := by
  cases d with
  | family d => exact (declares_declare _ _).andThen (.forM Outlet.declares_collect d.outlets)
  | data | link | event | catalog | comment => exact declares_nil
  | _ => exact declares_declare _ _

end Ast

/-! ## Validators -/

namespace Validator

variable (v : Validator) (p : Program)

/-- The validator after a step that adds issues. -/
theorem after_of_reports {m : Validation Unit} {issues : Symbols → ContextPath → List Issue} (h : Reports m issues) :
    v.after m = v.report (issues v.symbols v.context) :=
  h v.context v rfl

theorem collectDeclarations_eq : v.collectDeclarations p = v.collecting p.declarations :=
  Declares.forM Statement.declares_collect p.statements v

theorem checkStatements_eq :
    v.checkStatements p = v.report (p.statements.flatMap (Statement.check v.symbols v.context)) := by
  have hreports : Reports (p.statements.forM Statement.validate)
      fun symbols path => p.statements.flatMap (Statement.check symbols path) := by
    intro path
    exact .forM fun d _ => d.reports_validate path
  exact v.after_of_reports hreports

theorem checkReferences_eq : v.checkReferences p = v.report (p.checkReferences v.symbols v.context) :=
  v.after_of_reports p.reports_validateReferences

/-- A validation enters the program, asks for the three steps, and leaves the program; the rules for the program as a
whole change nothing. -/
theorem run_eq :
    v.run p = ((((v.push "Program").collectDeclarations p).checkStatements p).checkReferences p).pop := by
  have hrules : ∀ w : Validator, (w.push "BusinessRules").pop = w := by
    intro w
    rw [push, pop, List.dropLast_concat]
  show ((((((v.push "Program").collectDeclarations p).checkStatements p).checkReferences p).push
    "BusinessRules").pop).pop = _
  rw [hrules]

end Validator

end MediaLanguage
