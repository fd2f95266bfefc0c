import MediaLanguage.Ast.Document
import MediaLanguage.Command.Session
import MediaLanguage.Console.Table
import MediaLanguage.Parser.Program
import MediaLanguage.Report.Csv
import MediaLanguage.Report.Document
import MediaLanguage.Report.Styled
import MediaLanguage.Validation.Validator

/-!
# Commands that look at a source

`lex` lists the tokens of a file, `parse` its statements, and `validate` its issues.
-/

namespace MediaLanguage.Shell

/-- A value, or the error that there is none, shown with the lines of the file around its place. An infinite integer
ends the command without a message. -/
def orFail {α : Type} (file : Path) (source : String) : Except Error α → Shell α
  | .ok a => return a
  | .error (.conversion _) => stop
  | .error e => fail (e.report (some ⟨file.toString, source⟩))

/-- The program in a file. -/
def load (file : Path) : Shell Ast.Program := do
  let source ← read file
  orFail file source (parse source)

/-- A value; without one the command ends, and has no message. -/
def orStop {α : Type} : Option α → Shell α
  | some a => return a
  | none => stop

/-! ## Tokens -/

/-- Lists the tokens of a file. -/
def lex (file : Path) : Shell Unit := do
  let source ← read file
  let stream ← orFail file source ((tokenize source).mapError Error.lexical)
  print (String.join (stream.withEnd.map fun t => t.listing ++ "\n"))

/-! ## Statements -/

/-- The most characters of a comment that are shown. -/
def shownComment : Nat := 40

/-- A comment, cut short if it is long. -/
def commentName (text : String) : String :=
  let cs := Text.strip text.toList
  if cs.length ≤ shownComment then String.ofList cs else String.ofList (cs.take (shownComment - 3)) ++ "..."

/-- What a statement is called in a list of statements. -/
def statementName : Ast.Statement → String
  | .importFile d => d.path
  | .letVariable d => d.name
  | .unit d => d.name
  | .vocabulary d => d.name
  | .template d => d.name
  | .family d => d.name
  | .data d => "FOR " ++ d.target.text
  | .link d => d.name
  | .event d => d.name
  | .catalog d => d.name
  | .comment d => commentName d.text

/-- The statements of a program as a table. -/
def statementTable (title : String) (p : Ast.Program) : Console.Table String where
  title := title
  columns := [⟨"#", some 4⟩, ⟨"Kind", none⟩, ⟨"Name", none⟩, ⟨"Position", none⟩]
  rows := (p.statements.zipIdx 1).map fun (s, number) =>
    [toString number, s.kind, statementName s, s.position.text]

/-- Lists the statements of a file, or writes its program as a document. Names with faulty tags cannot be listed. -/
def parse (file : Path) (json : Bool) : Shell Unit := do
  let p ← load file
  if json then print (p.toJson.text false ++ "\n")
  else
    write (.drawn (← orStop (statementTable file.name p).render?))
    let count := p.statements.length
    info s!"{count} top-level statement(s)"

/-! ## Issues -/

/-- A form of report. -/
inductive ReportFormat where
  | text | json | csv
deriving DecidableEq

/-- Every form of report. -/
def reportFormats : List ReportFormat := [.text, .json, .csv]

/-- The name by which a form is chosen. -/
def ReportFormat.name : ReportFormat → String
  | .text => "text"
  | .json => "json"
  | .csv => "csv"

/-- Writes a report of a verdict in a form; `plain` asks for text without styles, which need not be shown on a
terminal. -/
def report (v : Verdict) (fileName : String) (plain : Bool) : ReportFormat → Shell Unit
  | .json => print (v.jsonReport ++ "\n")
  | .csv => print v.csvReport
  | .text =>
    if plain then print (v.plainReport (some fileName))
    else write (.drawn (Text.shown (v.styledReport (some fileName)).plain))

/-- Validates a file and writes a report; ends with a failure if there are errors. -/
def validate (file : Path) (format : String) (plain : Bool) : Shell Unit := do
  match reportFormats.find? fun f => f.name == format with
  | none =>
    let names := String.intercalate ", " (reportFormats.map ReportFormat.name)
    fail s!"Unknown format '{format}'; expected one of {names}"
  | some f =>
    let p ← load file
    let v ← orStop p.validate.toOption
    report v file.name plain f
    if !v.passed then stop

end MediaLanguage.Shell
