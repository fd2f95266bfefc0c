import MediaLanguage.Number.Basic
import MediaLanguage.Position
import MediaLanguage.Text.Lines

/-!
# Errors

Every failure of the compiler is a cause, and a place in the source where it has one. `Error.message` is the one
place where causes are put into words, `Error.name` gives each its short name, and `Error.report` adds a heading and,
for a failure to read a file, the lines of the source around the place.
-/

namespace MediaLanguage

/-- Why a text cannot be cut into tokens. -/
inductive LexicalCause where
  | unexpectedCharacter (character : String)
  | unterminatedString
  | invalidNumber (text : String)
  | invalidEscape (sequence : String)
deriving DecidableEq

/-- A text cannot be cut into tokens, at a place. -/
structure LexicalError where
  cause : LexicalCause
  position : Position
deriving DecidableEq

/-- Why a sequence of tokens is no program. -/
inductive GrammarCause where
  | unexpectedToken (found : String) (expected : List String)
  | missingDelimiter (delimiter : String)
  | invalidSyntax (message : String)
  | unexpectedEnd (expected : String)
deriving DecidableEq

/-- A sequence of tokens is no program, at a place. -/
structure GrammarError where
  cause : GrammarCause
  position : Position
deriving DecidableEq

/-- Why no output is generated. -/
inductive GenerationError where
  | unsupportedFeature (feature target : String) (position : Position)
  | invalidTarget (target message : String)
  | failure (message : String) (position : Position)
  /-- A table of the target has nothing for a key. -/
  | missingKey (key : String)
deriving DecidableEq

/-- A failure of the compiler. -/
inductive Error where
  | lexical (error : LexicalError)
  | grammar (error : GrammarError)
  /-- A program that breaks a rule; `name` is the kind of rule. -/
  | semantic (name message : String) (position : Position)
  | generation (error : GenerationError)
  /-- A number that has to be an integer and is none. -/
  | conversion (error : ConversionError)
deriving DecidableEq

/-- The short name of a lexical cause. -/
def LexicalCause.name : LexicalCause → String
  | .unexpectedCharacter _ => "unexpected_character"
  | .unterminatedString => "unterminated_string"
  | .invalidNumber _ => "invalid_number"
  | .invalidEscape _ => "invalid_escape"

/-- The wording of a lexical error. -/
def LexicalError.message (e : LexicalError) : String :=
  let place := e.position.text
  match e.cause with
  | .unexpectedCharacter character => s!"Unexpected character '{character}' at {place}"
  | .unterminatedString => s!"Unterminated string literal at {place}"
  | .invalidNumber text => s!"Invalid number '{text}' at {place}"
  | .invalidEscape sequence => s!"Invalid escape sequence '{sequence}' at {place}"

/-- The short name of a cause of the grammar. -/
def GrammarCause.name : GrammarCause → String
  | .unexpectedToken .. => "unexpected_token"
  | .missingDelimiter _ => "missing_closing_delimiter"
  | .invalidSyntax _ => "invalid_syntax"
  | .unexpectedEnd _ => "unexpected_eof"

/-- The wording of an error of the grammar. -/
def GrammarError.message (e : GrammarError) : String :=
  let place := e.position.text
  match e.cause with
  | .unexpectedToken found expected =>
    let choices := String.intercalate " or " expected
    s!"Unexpected token '{found}' at {place}, expected {choices}"
  | .missingDelimiter delimiter => s!"Missing closing '{delimiter}' at {place}"
  | .invalidSyntax message => s!"Invalid syntax at {place}: {message}"
  | .unexpectedEnd expected => s!"Unexpected end of input at {place}, expected {expected}"

namespace GenerationError

/-- The short name of an error of generation. -/
def name : GenerationError → String
  | .unsupportedFeature .. => "unsupported_feature"
  | .invalidTarget .. => "invalid_target"
  | .failure .. => "generation_failure"
  | .missingKey _ => "missing_key"

/-- The wording of an error of generation. -/
def message : GenerationError → String
  | .unsupportedFeature feature target position =>
    s!"Unsupported feature '{feature}' for target '{target}' at {position.text}"
  | .invalidTarget target message => s!"Invalid target '{target}': {message}"
  | .failure message position => s!"Generation failure at {position.text}: {message}"
  | .missingKey key => s!"'{key}'"

/-- The place of an error of generation. -/
def position? : GenerationError → Option Position
  | .unsupportedFeature _ _ position | .failure _ position => some position
  | .invalidTarget .. | .missingKey _ => none

/-- Whether a generator tells of the error in its outcome. Of a missing key it does not, but fails with it. -/
def isTold : GenerationError → Bool
  | .missingKey _ => false
  | .unsupportedFeature .. | .invalidTarget .. | .failure .. => true

end GenerationError

/-! ## Source context -/

/-- The numbers of the first and the last line shown for a place in line `line`: two lines on either side, as far as
the text has them. -/
def contextWindow (lineCount line : Nat) : Nat × Nat :=
  (max 1 (line - 2), min lineCount (line + 2))

/-- The lines of `source` around line `line`. -/
def contextLines (source : String) (line : Nat) : List String :=
  let all := Text.lines source
  let (first, last) := contextWindow all.length line
  (all.take last).drop (first - 1)

/-- The lines of `source` around line `line`, as one text. -/
def snippet (source : String) (line : Nat) : String :=
  Text.unlines (contextLines source line)

/-- A line of the context with its number, and under the line of the place a marker below its column. -/
def contextEntry (place : Position) (number : Nat) (line : String) : List String :=
  let label := s!"{Text.alignRight 4 (toString number)} | "
  if number = place.line then
    [label ++ line, Text.repeated (label.length + place.column - 1) ' ' ++ "^^^"]
  else [label ++ line]

/-- A file whose text is being read. -/
structure Origin where
  file : String
  source : String

/-- The place in the file, and the numbered lines around it unless they show nothing. -/
def Origin.context (o : Origin) (place : Position) : String :=
  let header := s!"{o.file}:{place.text}"
  let shown := contextLines o.source place.line
  if o.source.isEmpty || (Text.unlines shown).isEmpty then header
  else
    let first := (contextWindow (Text.lines o.source).length place.line).1
    let entries := (shown.zipIdx first).flatMap fun (line, number) => contextEntry place number line
    Text.unlines (header :: entries)

/-! ## Errors in words -/

namespace Error

/-- The short name of an error. -/
def name : Error → String
  | .lexical e => e.cause.name
  | .grammar e => e.cause.name
  | .semantic name _ _ => name
  | .generation e => e.name
  | .conversion .infinity => "overflow"
  | .conversion .notANumber => "not_a_number"

/-- The wording of an error. -/
def message : Error → String
  | .lexical e => e.message
  | .grammar e => e.message
  | .semantic _ message position => s!"{message} at {position.text}"
  | .generation e => e.message
  | .conversion e => e.message

/-- The heading of an error's message. -/
def heading : Error → String
  | .lexical _ => "Lexer error: "
  | .grammar _ => "Parser error: "
  | .semantic .. => "Semantic error: "
  | .generation (.missingKey _) | .conversion _ => ""
  | .generation _ => "Code generation error: "

/-- The place of an error, if it has one. -/
def position? : Error → Option Position
  | .lexical e => some e.position
  | .grammar e => some e.position
  | .semantic _ _ position => some position
  | .generation e => e.position?
  | .conversion _ => none

/-- The message with its heading; a failure to read a file stands below the lines around its place. -/
def report (origin : Option Origin) (e : Error) : String :=
  let line := e.heading ++ e.message
  match origin, e with
  | some o, .lexical l => Text.unlines [o.context l.position, line]
  | some o, .grammar g => Text.unlines [o.context g.position, line]
  | _, _ => line

end Error

end MediaLanguage
