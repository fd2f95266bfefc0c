import MediaLanguage.Command.Generate
import MediaLanguage.Command.Sample

/-!
# The command line

`Command.ofArguments?` reads the words of a command line, and `Command.run` does what they ask for. Options may stand
anywhere behind the name of the command; two hyphens end them. A long option has its value behind an equals sign or in
the next word; short options may share a word, and the value of a short option is the rest of its word or the next word.
Of an option that is given twice, the last counts.
-/

namespace MediaLanguage

/-- What the program can do. -/
inductive Command where
  | lex (file : Path)
  | parse (file : Path) (json : Bool)
  | validate (file : Path) (format : String) (plain : Bool)
  | emit (target : Target) (file : Path) (output : Option Path)
  | build (manifest : Path)
  | test

namespace Command

/-! ## Words -/

/-- An option that a command knows. -/
structure Switch where
  long : String
  short : Option Char := none
  takesValue : Bool := false

/-- What the words of a command line say: the options that are given, with their values, and the other words. -/
structure Words where
  switches : List (String × String) := []
  operands : List String := []

/-- The value of an option. -/
def Words.value? (w : Words) (long : String) : Option String :=
  w.switches.lookup long

/-- Whether an option is given. -/
def Words.has (w : Words) (long : String) : Bool :=
  (w.value? long).isSome

/-- What a word says together with what the words behind it say; of several values of an option, theirs counts. -/
def Words.add (w : Words) (given : List (String × String)) : Words :=
  { w with switches := w.switches ++ given }

/-- The options that a word gives, with their values, and an option whose value is the next word. -/
structure Given where
  switches : List (String × String) := []
  waiting : Option String := none

/-- The short options of a word without its hyphen; only the last may take a value. -/
def shortSwitches? (known : List Switch) : List Char → Option Given
  | [] => some {}
  | c :: cs =>
    match known.find? fun s => s.short == some c with
    | none => none
    | some s =>
      if s.takesValue then
        some (if cs.isEmpty then { waiting := some s.long } else { switches := [(s.long, String.ofList cs)] })
      else (shortSwitches? known cs).map fun g => { g with switches := (s.long, "") :: g.switches }

/-- The long option of a word without its hyphens. -/
def longSwitch? (known : List Switch) (cs : List Char) : Option Given :=
  let name := String.ofList (cs.takeWhile (· != '='))
  match known.find? fun s => s.long == name, cs.dropWhile (· != '=') with
  | none, _ => none
  | some s, _ :: value => if s.takesValue then some { switches := [(s.long, String.ofList value)] } else none
  | some s, [] => some (if s.takesValue then { waiting := some s.long } else { switches := [(s.long, "")] })

/-- Whether a word gives options: it starts with a hyphen and is more than that. -/
def isSwitch (word : String) : Bool :=
  word.startsWith "-" && word != "-"

/-- The options that a word gives, if the command knows them. -/
def switches? (known : List Switch) (word : String) : Option Given :=
  match word.toList with
  | '-' :: '-' :: cs => longSwitch? known cs
  | _ :: cs => shortSwitches? known cs
  | [] => none

/-- What words say, the first of which is the value of an option if one is `waiting`. -/
def readWords? (known : List Switch) (waiting : Option String) : List String → Option Words
  | [] => if waiting.isSome then none else some {}
  | word :: rest =>
    match waiting with
    | some long => (readWords? known none rest).map (·.add [(long, word)])
    | none =>
      if word = "--" then some { operands := rest }
      else if isSwitch word then
        match switches? known word with
        | none => none
        | some g => (readWords? known g.waiting rest).map (·.add g.switches)
      else (readWords? known none rest).map fun w => { w with operands := word :: w.operands }

/-! ## Commands -/

/-- A command with one file and some options. -/
def withFile? (known : List Switch) (make : Words → Path → Command) (words : List String) : Option Command :=
  match readWords? known none words with
  | some w =>
    match w.operands with
    | [file] => some (make w (Path.ofString file))
    | _ => none
  | none => none

/-- The command that generates for a target. -/
def emit? (t : Target) : List String → Option Command :=
  withFile? [{ long := "output", short := some 'o', takesValue := true }] fun w file =>
    .emit t file ((w.value? "output").map Path.ofString)

/-- The name of a manifest, unless another is given. -/
def defaultManifest : String := "mdsl.toml"

/-- A command without a file. -/
def withoutFile? (known : List Switch) (make : Words → Command) (words : List String) : Option Command :=
  match readWords? known none words with
  | some w => if w.operands.isEmpty then some (make w) else none
  | none => none

/-- The command that a command line asks for, if it is well formed. -/
def ofArguments? : List String → Option Command
  | "lex" :: words => withFile? [] (fun _ file => .lex file) words
  | "parse" :: words => withFile? [{ long := "json" }] (fun w file => .parse file (w.has "json")) words
  | "validate" :: words =>
    withFile? [{ long := "format", short := some 'f', takesValue := true }, { long := "no-color" }]
      (fun w file => .validate file ((w.value? "format").getD "text") (w.has "no-color")) words
  | "sql" :: words => emit? .sql words
  | "sql-anmi" :: words => emit? .anmi words
  | "cypher" :: words => emit? .graph words
  | "build" :: words =>
    withoutFile? [{ long := "config", short := some 'c', takesValue := true }]
      (fun w => .build (Path.ofString ((w.value? "config").getD defaultManifest))) words
  | "test" :: words => withoutFile? [] (fun _ => .test) words
  | _ => none

/-- The steps of a command. -/
def steps : Command → Shell Unit
  | .lex file => Shell.lex file
  | .parse file json => Shell.parse file json
  | .validate file format plain => Shell.validate file format plain
  | .emit target file output => Shell.emit target file output
  | .build manifest => Shell.build manifest
  | .test => Shell.test

/-- Runs a command in a workspace. -/
def run (c : Command) (w : Workspace) (echo : String → String := Text.printed) : Outcome :=
  c.steps.run w echo

/-- The files that a command reads, as far as the files of the workspace tell: a build reads its manifest, which names
the others. -/
def reads (c : Command) (w : Workspace) : List Path :=
  match c with
  | .lex file | .parse file _ | .validate file .. | .emit _ file _ => [file]
  | .build manifest =>
    let path := w.locate manifest
    match Project.load path (w.get? path) with
    | .ok p => path :: p.sourceFiles
    | .error _ => [path]
  | .test => []

end Command

/-- Runs a command line; one that is not well formed does nothing and ends with two. -/
def runArguments (arguments : List String) (w : Workspace) (echo : String → String := Text.printed) : Outcome :=
  match Command.ofArguments? arguments with
  | some c => c.run w echo
  | none => ⟨2, "", "Error: the command line is not well formed\n", w⟩

end MediaLanguage
