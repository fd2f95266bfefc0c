import MediaLanguage.Text.Case
import MediaLanguage.Validation.Issue

/-!
# Reports in plain text

A header, the counts, and the issues one after the other.
-/

namespace MediaLanguage

/-- A text that is there and not empty. -/
def present? (s : Option String) : Option String :=
  s.filter fun t => !t.isEmpty

namespace Issue

/-- The severity in capitals and brackets. -/
def badge (i : Issue) : String :=
  let label := Text.upper i.severity.label
  s!"[{label}]"

/-- An issue: what and where, then the suggestion and the context if there are any. -/
def text (i : Issue) : String :=
  let suggestion := ((present? i.suggestion).map fun s => s!"\n   Suggestion: {s}").getD ""
  let context := ((present? (some i.context)).map fun s => s!"\n   Context: {s}").getD ""
  s!"{i.badge} {i.code} ({i.position.text}): {i.message}" ++ suggestion ++ context

end Issue

namespace Verdict

/-- The first line of a report. -/
def header (fileName : Option String) : String :=
  match present? fileName with
  | some name => s!"Validation Report for: {name}"
  | none => "Validation Report"

/-- The word for the outcome. -/
def status (v : Verdict) : String :=
  if v.passed then "PASSED" else "FAILED"

/-- The issues, numbered from one. -/
def issueLines (v : Verdict) : List String :=
  (v.issues.zipIdx 1).map fun (issue, number) => s!"{number}. {issue.text}"

/-- The report in plain text. -/
def plainReport (v : Verdict) (fileName : Option String) : String :=
  let counts := [
    header fileName,
    Text.repeated 50 '=',
    s!"Status: {v.status}",
    s!"Total Constructs: {v.summary.constructs}",
    s!"Errors: {v.summary.errors}",
    s!"Warnings: {v.summary.warnings}",
    s!"Info: {v.summary.info}",
    ""]
  let findings :=
    if v.issues.isEmpty then ["No issues found!"]
    else ["Issues Found:", Text.repeated 30 '-'] ++ v.issueLines
  Text.unlines (counts ++ findings) ++ "\n"

end Verdict

end MediaLanguage
