import MediaLanguage.Path
import MediaLanguage.Text.Terminal

/-!
# Sessions

A command runs in a session. It sees the files of a workspace, writes files, and says something at its output and at
its errors. `Shell` is the type of its steps: each goes on with the session that the steps before it have left, and a
step that fails ends the command.

What a command says is kept as it says it. What is written of a text that is echoed is up to the echo with which a
command runs; `Text.printed` is that of an output that is no terminal.
-/

namespace MediaLanguage

/-- The files that a command sees: the directory it runs in, and texts by absolute paths without `..`. -/
structure Workspace where
  directory : Path
  files : List (Path × String) := []

namespace Workspace

/-- Whether names from the root on lead to a directory: one that holds a file, or holds the current directory. -/
def isDirectory (w : Workspace) (parts : List String) : Bool :=
  parts.isPrefixOf w.directory.parts
    || w.files.any fun (p, _) => parts.isPrefixOf p.parts && parts.length < p.parts.length

/-- The names that a path leads to, after the names of `done`; `..` leads from a directory to the one above it. -/
def follow? (w : Workspace) : List String → List String → Option (List String)
  | done, [] => some done
  | done, name :: rest =>
    if name = ".." then if w.isDirectory done then w.follow? done.dropLast rest else none
    else w.follow? (done ++ [name]) rest

/-- The text of a file. -/
def get? (w : Workspace) (p : Path) : Option String :=
  let whole := w.directory.join p
  (w.follow? [] whole.parts).bind fun parts => w.files.lookup { whole with parts }

/-- The place of a file that is written. -/
def locate (w : Workspace) (p : Path) : Path :=
  (w.directory.join p).normalize

/-- Whether a path leads to a directory. -/
def leadsToDirectory (w : Workspace) (p : Path) : Bool :=
  w.isDirectory (w.locate p).parts

/-- Whether names from the root on lead to a file. -/
def isFile (w : Workspace) (parts : List String) : Bool :=
  w.files.any fun (p, _) => p.parts == parts

/-- Whether a path has no file in its way, after the names of `done`; directories that it leads through are made. -/
def isOpen (w : Workspace) : List String → List String → Bool
  | _, [] => true
  | done, name :: rest =>
    !w.isFile done && w.isOpen (if name = ".." then done.dropLast else done ++ [name]) rest

/-- Whether a file can be written: no directory is at its place, and no file in the way there. -/
def canWrite (w : Workspace) (p : Path) : Bool :=
  w.isOpen [] (w.directory.join p).parts && !w.leadsToDirectory p

/-- The workspace after a file is written. -/
def put (w : Workspace) (p : Path) (text : String) : Workspace :=
  { w with files := (w.locate p, text) :: w.files.filter fun f => f.1 ≠ w.locate p }

end Workspace

/-- What a command says: a text that is echoed as it is, or one that is drawn as a terminal shows it. -/
inductive Utterance where
  | echoed (text : String)
  | drawn (text : String)

/-- What is written of an utterance. -/
def Utterance.text (echo : String → String) : Utterance → String
  | .echoed text => echo text
  | .drawn text => text

/-- What is written of utterances. -/
def transcript (echo : String → String) (utterances : List Utterance) : String :=
  String.join (utterances.map fun u => u.text echo)

/-- A command at work. -/
structure Session where
  workspace : Workspace
  output : List Utterance := []
  errors : List Utterance := []

/-- The number with which a command ends early. -/
abbrev ExitCode := Nat

/-- A step of a command. -/
abbrev Shell := ExceptT ExitCode (StateM Session)

namespace Shell

/-- Says something at the output. -/
def write (u : Utterance) : Shell Unit :=
  modify fun s => { s with output := s.output ++ [u] }

/-- Says something at the errors. -/
def writeError (u : Utterance) : Shell Unit :=
  modify fun s => { s with errors := s.errors ++ [u] }

/-- Writes text to the output that need not be shown on a terminal. -/
def print (text : String) : Shell Unit :=
  write (.echoed text)

/-- Writes a line for the terminal to the output. -/
def say (text : String) : Shell Unit :=
  write (.drawn (Text.shown text ++ "\n"))

/-- Tells of a success. -/
def success (text : String) : Shell Unit :=
  say ("✓ " ++ text)

/-- Tells of a failure that does not end the command. -/
def failure (text : String) : Shell Unit :=
  say ("✗ " ++ text)

/-- Tells of something worth knowing. -/
def info (text : String) : Shell Unit :=
  say ("ℹ " ++ text)

/-- Tells of a warning. -/
def warning (text : String) : Shell Unit :=
  writeError (.drawn (Text.shown ("⚠ " ++ text) ++ "\n"))

/-- Ends the command. -/
def stop {α : Type} : Shell α :=
  throw 1

/-- Ends the command with an error. -/
def fail {α : Type} (message : String) : Shell α := do
  writeError (.echoed ("Error: " ++ message ++ "\n"))
  stop

/-- The text of a file, with line feeds at the ends of its lines. -/
def read? (p : Path) : Shell (Option String) := do
  return ((← get).workspace.get? p).map fun text => String.ofList (Text.unifyLineEnds text.toList)

/-- The text of a file that has to be there. -/
def read (p : Path) : Shell String := do
  match ← read? p with
  | some text => return text
  | none =>
    let file := p.toString
    fail s!"File not found: {file}"

/-- Writes a file; the command ends if that is not possible. -/
def writeFile (p : Path) (text : String) : Shell Unit := do
  if !(← get).workspace.canWrite p then stop
  modify fun s => { s with workspace := s.workspace.put p text }

end Shell

/-- What a command leaves behind. -/
structure Outcome where
  exitCode : ExitCode
  output : String
  errors : String
  workspace : Workspace

/-- What a session leaves behind that ends with a number. -/
def Session.outcome (echo : String → String) (s : Session) (code : ExitCode) : Outcome :=
  ⟨code, transcript echo s.output, transcript echo s.errors, s.workspace⟩

/-- Runs the steps of a command in a workspace. -/
def Shell.run (steps : Shell Unit) (w : Workspace) (echo : String → String := Text.printed) : Outcome :=
  match steps { workspace := w } with
  | (.ok _, s) => s.outcome echo 0
  | (.error code, s) => s.outcome echo code

end MediaLanguage
