import MediaLanguage.Text.Lines
import MediaLanguage.Validation.Issue

/-!
# Reports as comma-separated values

One record for each issue, after a record with the names of the columns. The columns with free text are always in
quotes, a quote inside written twice.
-/

namespace MediaLanguage

namespace Csv

/-- The text with each quote written twice. -/
def escape (cs : List Char) : List Char :=
  cs.flatMap fun c => if c = '"' then ['"', '"'] else [c]

/-- A field in quotes. -/
def quote (s : String) : String :=
  String.ofList ('"' :: escape s.toList ++ ['"'])

/-- The names of the columns. -/
def columns : List String :=
  ["Severity", "Code", "Line", "Column", "Message", "Suggestion", "Context"]

/-- Fields as a record. -/
def record (fields : List String) : String :=
  String.intercalate "," fields

end Csv

/-- The record of an issue. -/
def Issue.csvRecord (i : Issue) : String :=
  Csv.record [i.severity.label, i.code, toString i.position.line, toString i.position.column, Csv.quote i.message,
    Csv.quote (i.suggestion.getD ""), Csv.quote i.context]

/-- The report as comma-separated values. -/
def Verdict.csvReport (v : Verdict) : String :=
  Text.unlines (Csv.record Csv.columns :: v.issues.map Issue.csvRecord) ++ "\n"

end MediaLanguage
