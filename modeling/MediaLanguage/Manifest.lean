import MediaLanguage.Path
import MediaLanguage.Target
import MediaLanguage.Toml.Reader

/-!
# Manifests

The manifest of a project names its sources and says which outputs to generate, and where. Every setting has a
default, and a project without a manifest has all the defaults. Paths in a manifest start at its directory.
-/

namespace MediaLanguage

/-- The settings of a project. -/
structure Manifest where
  name : Toml := .string "mdsl-project"
  version : Toml := .string "0.1.0"
  /-- The source files. -/
  sources : List String := []
  /-- The directory of the generated files. -/
  directory : String := "build"
  /-- Whether to generate each of the targets. -/
  sql : Toml := .boolean true
  anmi : Toml := .boolean false
  graph : Toml := .boolean true
  /-- Whether a warning ends a build. -/
  failOnWarnings : Toml := .boolean false

/-- Why there is no manifest. -/
inductive ManifestError where
  /-- The file is no settings file. -/
  | malformed
  /-- A setting has a value of a type that it cannot have. -/
  | wrongType (setting : String)
deriving DecidableEq

/-- The text of an error about the manifest at a path. -/
def ManifestError.message (path : Path) : ManifestError → String
  | .malformed =>
    let file := path.toString
    s!"Invalid TOML in {file}"
  | .wrongType setting => s!"Setting '{setting}' has a value of the wrong type"

namespace Manifest

/-- A section of a settings file; a section that is not there is empty. -/
def settings (document : Toml) (name : String) : Except ManifestError Toml :=
  match document.get? name with
  | none => .ok (.table [])
  | some (.table entries) => .ok (.table entries)
  | some _ => .error (.wrongType name)

/-- A text among the settings. -/
def text (settings : Toml) (name default : String) : Except ManifestError String :=
  match settings.get? name with
  | none => .ok default
  | some (.string value) => .ok value
  | some _ => .error (.wrongType name)

/-- The text that a value is. -/
def text? : Toml → Option String
  | .string value => some value
  | _ => none

/-- The texts that a value holds: the items of an array, the keys of a table, or the characters of a text. -/
def texts? : Toml → Option (List String)
  | .array items => items.mapM text?
  | .table entries => some (entries.map Prod.fst)
  | .string value => some (value.toList.map fun c => String.ofList [c])
  | _ => none

/-- Texts among the settings, by default none. -/
def texts (settings : Toml) (name : String) : Except ManifestError (List String) :=
  match settings.get? name with
  | none => .ok []
  | some v =>
    match texts? v with
    | some values => .ok values
    | none => .error (.wrongType name)

/-- The manifest that a settings file describes. -/
def ofToml (document : Toml) : Except ManifestError Manifest := do
  let defaults : Manifest := {}
  let project ← settings document "project"
  let sources ← settings document "sources"
  let output ← settings document "output"
  let validation ← settings document "validation"
  return {
    name := (project.get? "name").getD defaults.name
    version := (project.get? "version").getD defaults.version
    sources := ← texts sources "paths"
    directory := ← text output "directory" defaults.directory
    sql := (output.get? "sql").getD defaults.sql
    anmi := (output.get? "sql_anmi").getD defaults.anmi
    graph := (output.get? "cypher").getD defaults.graph
    failOnWarnings := (validation.get? "fail_on_warnings").getD defaults.failOnWarnings }

/-- The manifest that a text writes. -/
def parse (source : String) : Except ManifestError Manifest :=
  match Toml.parse? source with
  | none => .error .malformed
  | some document => ofToml document

/-- The targets that a manifest switches on. -/
def targets (m : Manifest) : List Target :=
  (if m.sql.isOn then [Target.sql] else []) ++ (if m.anmi.isOn then [Target.anmi] else [])
    ++ (if m.graph.isOn then [Target.graph] else [])

end Manifest

/-- A project: a manifest, and the directory that it lies in. -/
structure Project where
  manifest : Manifest
  root : Path

namespace Project

/-- The project with a manifest at `path`, whose text is `source?` if there is such a file. -/
def load (path : Path) (source? : Option String) : Except ManifestError Project :=
  match source? with
  | none => .ok ⟨{}, path.parent⟩
  | some source => (Manifest.parse source).map (⟨·, path.parent⟩)

/-- The source files of a project. -/
def sourceFiles (p : Project) : List Path :=
  p.manifest.sources.map fun s => p.root.join (Path.ofString s)

/-- The directory of the generated files. -/
def outputDirectory (p : Project) : Path :=
  p.root.join (Path.ofString p.manifest.directory)

/-- The file that a target of a source goes to. -/
def artifact (p : Project) (source : Path) (t : Target) : Path :=
  p.outputDirectory.join (Path.ofString (source.stem ++ t.extension))

end Project

end MediaLanguage
