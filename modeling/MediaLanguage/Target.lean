import MediaLanguage.Anmi.Script
import MediaLanguage.Graph.Script
import MediaLanguage.Sql.Script
import MediaLanguage.Validation.Validator

/-!
# Targets

A target is a form of output. `Target.text` writes a model in it, and `compile` goes the whole way from a source text,
which has to be free of errors.
-/

namespace MediaLanguage

/-- A failed conversion as an error. -/
def orConversionError {α : Type} : Except ConversionError α → Except Error α
  | .ok a => .ok a
  | .error e => .error (.conversion e)

/-- A form of output. -/
inductive Target where
  | sql
  | anmi
  | graph
deriving DecidableEq

namespace Target

/-- Every target once, by name. -/
def all : List Target := [.graph, .sql, .anmi]

/-- The name by which a target is chosen. -/
def name : Target → String
  | .sql => "sql"
  | .anmi => "sql_anmi"
  | .graph => "cypher"

/-- The ending of the files of a target. -/
def extension : Target → String
  | .sql => ".sql"
  | .anmi => ".anmi.sql"
  | .graph => ".cypher"

/-- The target with a name. -/
def ofName? (name : String) : Option Target :=
  all.find? fun t => t.name == name

/-- The target with a name, or the error that there is none. -/
def ofName (name : String) : Except Error Target :=
  match ofName? name with
  | some t => .ok t
  | none =>
    let names := String.intercalate ", " (all.map Target.name)
    .error (.generation (.invalidTarget name s!"available targets: {names}"))

/-- A model in the form of a target. -/
def text (t : Target) (p : Model.Program) : Except Error String :=
  match t with
  | .sql => (Sql.emit p).map Sql.Script.render
  | .anmi => orConversionError ((Anmi.script p).map Sql.Script.render)
  | .graph => (Graph.emit p).map Graph.Script.render

/-- The part of the text of a target that is the same for every model. -/
def fixedText : Target → String
  | .sql => Sql.Script.render Sql.coreSchema
  | .anmi => Sql.Script.render Anmi.tableSchema
  | .graph => Graph.Script.render Graph.constraintScript

end Target

/-! ## Generation -/

/-- The outcome of a generation: the text, which is empty if there are errors. -/
structure Generation where
  content : String
  errors : List String
  warnings : List String

/-- Whether a value is the placeholder for an object. -/
def isPlaceholder : Model.Value → Bool
  | .string s => s == Parser.objectPlaceholder
  | _ => false

/-- Warnings about the placeholders among some characteristics. -/
def placeholderWarnings (owner : String) (fields : List Model.Assignment) : List String :=
  (fields.filter fun f => isPlaceholder f.value).map fun f =>
    s!"{owner}: characteristic '{f.name}' is emitted as '{Parser.objectPlaceholder}'"

/-- Warnings about the characteristics of a model whose objects are not kept. -/
def Model.Program.warnings (p : Model.Program) : List String :=
  p.templates.flatMap (fun t => placeholderWarnings s!"Template '{t.name}'" t.characteristics)
    ++ p.outlets.flatMap fun o => placeholderWarnings s!"Outlet '{o.name}'" o.characteristics

namespace Generation

/-- The outcome of writing a model. -/
def ofText (p : Model.Program) : Except GenerationError String → Generation
  | .ok content => ⟨content, [], p.warnings⟩
  | .error e => ⟨"", [e.message], p.warnings⟩

/-- Whether there is a text. -/
def success (g : Generation) : Bool :=
  g.errors.isEmpty

/-- The text, or the first error as a failure. -/
def result (g : Generation) : Except Error String :=
  match g.errors with
  | [] => .ok g.content
  | message :: _ => .error (.generation (.failure message .start))

end Generation

/-- A model written in the form of a target. An error that is told is an outcome; another error is none. -/
def Target.generate (t : Target) (p : Model.Program) : Except Error Generation :=
  match t.text p with
  | .ok text => .ok (.ofText p (.ok text))
  | .error (.generation e) => if e.isTold then .ok (.ofText p (.error e)) else .error (.generation e)
  | .error e => .error e

/-- The text that a source text compiles to, for a target chosen by name. -/
def compile (source targetName : String) : Except Error String := do
  let target ← Target.ofName targetName
  let program ← parse source
  let verdict ← orConversionError program.validate
  match verdict.error? with
  | some e => throw e
  | none =>
    let model ← orConversionError program.lower
    (← target.generate model).result

end MediaLanguage
