import MediaLanguage.Json
import MediaLanguage.Validation.Issue

/-!
# Reports as JSON
-/

namespace MediaLanguage

/-- An issue as an object; a missing suggestion is left out. -/
def Issue.toJson (i : Issue) : Json :=
  .object ([
    ("severity", .string i.severity.label),
    ("code", .string i.code),
    ("message", .string i.message),
    ("position", .object [("line", .nat i.position.line), ("column", .nat i.position.column)])]
    ++ (i.suggestion.map fun s => ("suggestion", .string s)).toList)

/-- A verdict as an object. -/
def Verdict.toJson (v : Verdict) : Json :=
  .object [
    ("passed", .bool v.passed),
    ("summary", .object [
      ("errors", .nat v.summary.errors),
      ("warnings", .nat v.summary.warnings),
      ("info", .nat v.summary.info),
      ("total_constructs", .nat v.summary.constructs)]),
    ("issues", .array (v.issues.map Issue.toJson))]

/-- The report as JSON, in ASCII. -/
def Verdict.jsonReport (v : Verdict) : String :=
  v.toJson.text true

end MediaLanguage
