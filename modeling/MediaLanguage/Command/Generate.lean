import MediaLanguage.Command.Inspect
import MediaLanguage.Manifest

/-!
# Commands that generate

`emit` generates the output of one file for one target, and `build` that of every source of a project for every target
that its manifest switches on. Both validate first, and generate nothing from a source with errors.
-/

namespace MediaLanguage.Shell

/-- The model of a file and the verdict on its program. -/
def prepare (file : Path) : Shell (Model.Program × Verdict) := do
  let p ← load file
  let model ← orStop p.lower.toOption
  return (model, ← orStop p.validate.toOption)

/-- Generates the output of a file, and writes it to another file or to the output. -/
def emit (t : Target) (file : Path) (output : Option Path) : Shell Unit := do
  let (model, verdict) ← prepare file
  if !verdict.passed then
    print (verdict.plainReport (some file.name))
    fail s!"Validation failed with {verdict.summary.errors} error(s); nothing generated"
  let g ← orStop (t.generate model).toOption
  if let some target := output then
    if g.success then writeFile target g.content
  g.warnings.forM warning
  if let some message := g.errors.head? then fail message
  match output with
  | none => print g.content
  | some target => success ("Wrote " ++ target.toString)

/-- Writes the output of a source for a target of a project. -/
def buildTarget (p : Project) (source : Path) (model : Model.Program) (t : Target) : Shell Unit := do
  let g ← orStop (t.generate model).toOption
  if let some message := g.errors.head? then fail (t.name ++ ": " ++ message)
  let file := p.artifact source t
  writeFile file g.content
  success (t.name ++ ": " ++ file.toString)

/-- Writes the outputs of a source of a project. -/
def buildSource (p : Project) (number : Nat) (source : Path) : Shell Unit := do
  let count := p.sourceFiles.length
  let name := source.name
  say s!"[{number}/{count}] Compiling {name}"
  let (model, verdict) ← prepare source
  let place := source.toString
  if !verdict.passed then
    print (verdict.plainReport (some name))
    fail s!"Validation failed for {place}"
  if p.manifest.failOnWarnings.isOn && verdict.summary.warnings != 0 then
    print (verdict.plainReport (some name))
    fail s!"{verdict.summary.warnings} warning(s) in {place} and fail_on_warnings is set"
  p.manifest.targets.forM (buildTarget p source model)

/-- The project with a manifest; a directory cannot be one. -/
def loadProject (manifest : Path) : Shell Project := do
  let path := (← get).workspace.locate manifest
  if (← get).workspace.leadsToDirectory path then stop
  match Project.load path (← read? path) with
  | .ok p => return p
  | .error .malformed => fail (ManifestError.malformed.message path)
  | .error (.wrongType _) => stop

/-- Writes all outputs of the project with a manifest. -/
def build (manifest : Path) : Shell Unit := do
  let p ← loadProject manifest
  if p.sourceFiles.isEmpty then
    let file := manifest.toString
    fail s!"No sources configured in {file}"
  (p.sourceFiles.zipIdx 1).forM fun (source, number) => buildSource p number source
  let sources := p.sourceFiles.length
  let targets := p.manifest.targets.length
  info s!"Built {sources} source(s) for {targets} target(s)"

end MediaLanguage.Shell
