import MediaLanguage.Validation.Symbol

/-!
# The state of a validation

A validator keeps the symbols and issues of the programs it has seen, and the declarations it stands in. `Validation`
is the type of its steps: a rule enters the declaration that it looks at, adds its issues in that context, and leaves
the declaration again.
-/

namespace MediaLanguage

/-- The names of the declarations around a place, outermost first. -/
abbrev ContextPath := List String

/-- The state of a validation. -/
structure Validator where
  symbols : Symbols := []
  issues : List Issue := []
  /-- The declarations around the place at hand, outermost first. -/
  context : ContextPath := []

namespace Validator

/-- The validator inside a declaration. -/
def push (v : Validator) (name : String) : Validator :=
  { v with context := v.context ++ [name] }

/-- The validator outside the innermost declaration. -/
def pop (v : Validator) : Validator :=
  { v with context := v.context.dropLast }

/-- The validator with more issues. -/
def report (v : Validator) (issues : List Issue) : Validator :=
  { v with issues := v.issues ++ issues }

/-- An issue in the context of the validator. -/
def issue (v : Validator) (severity : Severity) (code message : String) (position : Position)
    (suggestion : Option String) : Issue :=
  ⟨severity, code, message, position, suggestion, contextText v.context⟩

end Validator

/-- The steps of a validation. -/
abbrev Validation := StateM Validator

/-- The validator after a step. -/
def Validator.after (v : Validator) (step : Validation Unit) : Validator :=
  (step.run v).2

namespace Validation

/-! ## Context -/

/-- Enters a declaration. -/
def push (name : String) : Validation Unit :=
  modify fun v => v.push name

/-- Leaves the innermost declaration. -/
def pop : Validation Unit :=
  modify Validator.pop

/-! ## Issues -/

/-- Adds an issue in the context at hand. -/
def addIssue (severity : Severity) (code message : String) (position : Position) (suggestion : Option String) :
    Validation Unit :=
  modify fun v => v.report [v.issue severity code message position suggestion]

/-- Adds an error. -/
def addError (code message : String) (position : Position) (suggestion : String) : Validation Unit :=
  addIssue .error code message position (some suggestion)

/-- Adds a warning. -/
def addWarning (code message : String) (position : Position) (suggestion : String) : Validation Unit :=
  addIssue .warning code message position (some suggestion)

/-- Adds a remark. -/
def addInfo (code message : String) (position : Position) (suggestion : String) : Validation Unit :=
  addIssue .info code message position (some suggestion)

/-! ## Conditions -/

/-- A step that is taken under a condition. -/
def when (condition : Bool) (step : Validation Unit) : Validation Unit :=
  if condition then step else pure ()

/-- A step that is taken if a symbol is not declared. -/
def unlessDeclared (symbol : Symbol) (step : Validation Unit) : Validation Unit := do
  let v ← get
  when (!v.symbols.declares symbol) step

/-! ## Declarations -/

/-- Declares a symbol; a declaration that repeats an earlier one is an error. -/
def declare (symbol : Symbol) (position : Position) : Validation Unit := do
  let v ← get
  set { v with symbols := v.symbols.insert symbol position }
  (v.symbols.find? symbol).forM fun earlier =>
    addError symbol.redeclaration.1 symbol.redeclaration.2 position (symbol.previously earlier)

end Validation

end MediaLanguage
