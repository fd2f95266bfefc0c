import MediaLanguage.Command.Arguments

/-!
# The program

Reads the files that a command needs, runs the command on them, and writes what it leaves behind.
-/

namespace MediaLanguage

/-- The text of a file, if it can be read. -/
def readFile? (p : Path) : IO (Option String) := do
  try
    return some (← IO.FS.readFile p.toString)
  catch _ =>
    return none

/-- The workspace with the files at some paths. -/
def Workspace.load (w : Workspace) (paths : List Path) : IO Workspace :=
  paths.foldlM (fun w p => do
    match ← readFile? (w.directory.join p) with
    | some text => return w.put p text
    | none => return w) w

/-- Writes the files of a workspace that another does not have. -/
def Workspace.save (after before : Workspace) : IO Unit :=
  after.files.forM fun (p, text) => do
    if before.files.lookup p != some text then
      IO.FS.createDirAll p.parent.toString
      IO.FS.writeFile p.toString text

/-- Runs a command line in the current directory. -/
def runProgram (arguments : List String) : IO UInt32 := do
  let empty : Workspace := { directory := Path.ofString (← IO.currentDir).toString }
  let reads := fun w => ((Command.ofArguments? arguments).map (·.reads w)).getD []
  let start ← empty.load (reads empty)
  let before ← start.load (reads start)
  let outcome := runArguments arguments before
  (← IO.getStdout).putStr outcome.output
  (← IO.getStderr).putStr outcome.errors
  outcome.workspace.save before
  return UInt32.ofNat outcome.exitCode

end MediaLanguage

/-- The command line. -/
def main (arguments : List String) : IO UInt32 :=
  MediaLanguage.runProgram arguments
