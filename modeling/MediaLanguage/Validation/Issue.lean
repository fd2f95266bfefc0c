import MediaLanguage.Error

/-!
# Findings of a validation

An issue says which rule is broken, where, and how grave that is. A verdict collects the issues of a validation and
passes if none of them is an error.
-/

namespace MediaLanguage

/-- How grave an issue is. -/
inductive Severity where
  | error | warning | info
deriving DecidableEq

/-- The name of a severity. -/
def Severity.label : Severity → String
  | .error => "Error"
  | .warning => "Warning"
  | .info => "Info"

/-- A broken rule. -/
structure Issue where
  severity : Severity
  /-- The name of the rule. -/
  code : String
  message : String
  position : Position
  suggestion : Option String
  /-- The declarations around the place, outermost first. -/
  context : String
deriving DecidableEq

/-- Counts of issues and of declarations. -/
structure Summary where
  errors : Nat
  warnings : Nat
  info : Nat
  constructs : Nat
deriving DecidableEq

/-- The outcome of a validation. -/
structure Verdict where
  issues : List Issue
  passed : Bool
  summary : Summary

namespace Verdict

/-- The issues of one severity. -/
def ofSeverity (v : Verdict) (s : Severity) : List Issue :=
  v.issues.filter fun i => i.severity == s

/-- The issues that break one rule. -/
def ofCode (v : Verdict) (code : String) : List Issue :=
  v.issues.filter fun i => i.code == code

end Verdict

/-- Whether `part` occurs in a text. -/
def occursIn (part : List Char) : List Char → Bool
  | [] => part.isEmpty
  | c :: cs => part.isPrefixOf (c :: cs) || occursIn part cs

/-- The kind of error that the breaking of a rule is. -/
def errorKind (code : String) : String :=
  if code == "VARIABLE_NOT_FOUND" then "undefined_variable"
  else if code.startsWith "IMPORT_" then "import_error"
  else if occursIn "DUPLICATE".toList code.toList || code.endsWith "_REDECLARED" then "duplicate_definition"
  else if code.startsWith "FIELD_" then "type_mismatch"
  else "invalid_field"

/-- An issue as an error. -/
def Issue.toError (i : Issue) : Error :=
  .semantic (errorKind i.code) i.message i.position

/-- The first error of a verdict that does not pass. -/
def Verdict.error? (v : Verdict) : Option Error :=
  if v.passed then none else ((v.ofSeverity .error).head?).map Issue.toError

end MediaLanguage
