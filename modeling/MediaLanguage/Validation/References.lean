import MediaLanguage.Validation.Rules

/-!
# References between declarations

What outlets take over has to be declared, and so has every variable that an expression uses. `Program.expressions`
lists the expressions of a program in the order in which their variables are looked up.
-/

namespace MediaLanguage.Ast

open Validation

/-! ## Inheritance -/

/-- The rule that what an outlet takes over is declared. -/
def Inheritance.validate : Inheritance → Validation Unit
  | .template name position =>
    unlessDeclared (.template name) do
      addError "TEMPLATE_NOT_FOUND" s!"Template '{name}' not found" position "Declare the template before using it"
  | .outlet id position =>
    unlessDeclared (.outlet id.integerPart) do
      let number := id.text
      addError "OUTLET_NOT_FOUND" s!"Outlet with ID {number} not found" position
        "Declare the base outlet before referencing it"

/-- The rule for an outlet; an outlet that takes nothing over is not entered. -/
def Outlet.validateInheritance (o : Outlet) : Validation Unit := do
  let some inheritance := o.inheritance | return
  push s!"Outlet({o.name})"
  inheritance.validate
  pop

/-- The rule for the outlets of a family. -/
def Family.validateInheritance (f : Family) : Validation Unit := do
  push s!"Family({f.name})"
  f.outlets.forM Outlet.validateInheritance
  pop

/-! ## Expressions -/

/-- The expressions of an identity field. -/
def IdentityField.expressions : IdentityField → List Expr
  | .assignment a => [a.value]
  | .array a => a.values.map ObjectLiteral.toExpr
  | .comment _ => []

/-- The expressions among fields. -/
def fieldExpressions (fields : List Field) : List Expr :=
  (fields.filterMap Field.assignment?).map Assignment.value

/-- The expressions of a block. -/
def Block.expressions : Block → List Expr
  | .identity b => b.fields.flatMap IdentityField.expressions
  | .lifecycle b => b.entries.flatMap fun e => fieldExpressions e.attributes
  | .characteristics b => fieldExpressions b.fields
  | .metadata b => fieldExpressions b.fields
  | .comment _ => []

/-- The expressions of data: the attributes of figures. -/
def Data.expressions (d : Data) : List Expr :=
  d.years.flatMap fun y => (y.blocks.flatMap YearBlock.figures).flatMap fun m => m.attributes.map Assignment.value

/-- The expressions of a source. -/
def SourceField.expressions : SourceField → List Expr
  | .assignment a => [a.value]
  | .nested a => fieldExpressions a.fields
  | .tag _ | .comment _ => []

/-- The expressions of a statement; in a family those of the outlets come before those of the data. -/
def Statement.expressions : Statement → List Expr
  | .letVariable d => [d.value]
  | .template d => d.blocks.flatMap Block.expressions
  | .family d => d.outlets.flatMap (fun o => o.blocks.flatMap Block.expressions) ++ d.data.flatMap Data.expressions
  | .data d => d.expressions
  | .event d => (d.impact ++ d.metadata).map Assignment.value
  | .catalog d => d.sources.flatMap fun s => s.fields.flatMap SourceField.expressions
  | .importFile _ | .unit _ | .vocabulary _ | .link _ | .comment _ => []

/-- The expressions of a program. -/
def Program.expressions (p : Program) : List Expr :=
  p.statements.flatMap Statement.expressions

/-- The variable that an expression uses itself. -/
def Expr.use? : Expr → Option (String × Position)
  | .reference name position => some (name, position)
  | _ => none

/-- The variables that a program uses, with the places of their uses. -/
def Program.variableUses (p : Program) : List (String × Position) :=
  (p.expressions.flatMap Expr.walk).filterMap Expr.use?

/-- The rule that a variable is declared. -/
def validateUse (name : String) (position : Position) : Validation Unit :=
  unlessDeclared (.letVariable name) do
    addError "VARIABLE_NOT_FOUND" s!"Variable '{name}' not found" position "Declare the variable before using it"

/-- The rules for the references of a program. -/
def Program.validateReferences (p : Program) : Validation Unit := do
  push "References"
  p.families.forM Family.validateInheritance
  p.variableUses.forM fun (name, position) => validateUse name position
  pop

end MediaLanguage.Ast
