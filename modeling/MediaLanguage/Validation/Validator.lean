import MediaLanguage.Parser.Program
import MediaLanguage.Validation.References

/-!
# Validation

A validation has four steps, inside the program: it collects the declarations, checks the rules for each statement,
checks the references, and checks rules for the program as a whole, of which there are none yet. A validator can
also be asked for the first three by themselves. Numbers that a step has to turn into integers must be finite.
-/

namespace MediaLanguage

open Validation

namespace Ast

/-! ## Declarations -/

/-- Declares the number of an outlet, if it has one. -/
def Outlet.collect (o : Outlet) : Validation Unit :=
  o.declaredId?.forM fun id => declare (.outlet id) o.position

/-- Declares what a statement declares. -/
def Statement.collect : Statement → Validation Unit
  | .importFile d => declare (.importFile d.path) d.position
  | .letVariable d => declare (.letVariable d.name) d.position
  | .template d => declare (.template d.name) d.position
  | .unit d => declare (.unit d.name) d.position
  | .vocabulary d => declare (.vocabulary d.name) d.position
  | .family d => do
    declare (.family d.name) d.position
    d.outlets.forM Outlet.collect
  | .data _ | .link _ | .event _ | .catalog _ | .comment _ => pure ()

/-- Declares what a program declares. -/
def Program.collect (p : Program) : Validation Unit :=
  p.statements.forM Statement.collect

/-- The rules for a program as a whole: there are none. -/
def validateBusinessRules : Validation Unit := do
  push "BusinessRules"
  pop

/-! ## Numbers -/

/-- The numbers of declared outlets. -/
def Program.declaredNumbers (p : Program) : List Number :=
  p.outlets.filterMap Outlet.idNumber?

/-- The numbers of outlets that statements refer to. -/
def Statement.referredNumbers : Statement → List Number
  | .family d => d.members.flatMap fun
    | .data d => [d.target]
    | .link l => l.integers
    | _ => []
  | .data d => [d.target]
  | .link d => d.integers
  | _ => []

/-- The numbers of outlets that other outlets build on. -/
def Program.baseNumbers (p : Program) : List Number :=
  p.outlets.filterMap fun o => o.inheritance.bind Inheritance.outlet?

end Ast

/-! ## Steps -/

namespace Validator

/-- The declarations of a program. -/
def collectDeclarations (v : Validator) (p : Ast.Program) : Validator :=
  v.after p.collect

/-- The rules for each statement. -/
def checkStatements (v : Validator) (p : Ast.Program) : Validator :=
  v.after (p.statements.forM Ast.Statement.validate)

/-- The rules for references. -/
def checkReferences (v : Validator) (p : Ast.Program) : Validator :=
  v.after p.validateReferences

/-- How many issues have a severity. -/
def count (v : Validator) (s : Severity) : Nat :=
  v.issues.countP fun i => i.severity == s

/-- The counts of issues and of constructs. -/
def summary (v : Validator) : Summary where
  errors := v.count .error
  warnings := v.count .warning
  info := v.count .info
  constructs := v.symbols.countP fun d => d.1.isConstruct

/-- The steps of a validation, inside the program. -/
def run (v : Validator) (p : Ast.Program) : Validator :=
  v.after do
    Validation.push "Program"
    p.collect
    p.statements.forM Ast.Statement.validate
    p.validateReferences
    Ast.validateBusinessRules
    Validation.pop

/-- The verdict on what the validator has seen. -/
def verdict (v : Validator) : Verdict where
  issues := v.issues
  passed := v.summary.errors == 0
  summary := v.summary

/-- The numbers that validation turns into integers. -/
def integers (p : Ast.Program) : List Number :=
  p.declaredNumbers ++ p.statements.flatMap Ast.Statement.referredNumbers ++ p.baseNumbers

end Validator

/-- The verdict on a program. -/
def Ast.Program.validate (p : Ast.Program) : Except ConversionError Verdict :=
  (Number.requireIntegers (Validator.integers p)).map fun _ => (Validator.run {} p).verdict

end MediaLanguage
