import MediaLanguage.Ast.Program
import MediaLanguage.Parser.Event
import MediaLanguage.Parser.Outlet
import MediaLanguage.Token.Lexer

/-!
# Programs

A program is a sequence of statements with line breaks and semicolons between them. After an error reading goes on
behind the next semicolon or at the next keyword that starts a statement, so that one run finds the errors of a whole
text; the first of them is the error of the text.
-/

namespace MediaLanguage

namespace Parser

open Ast

/-- Reads a statement. -/
def statement : Parser Statement := do
  let token ← current
  match token.kind with
  | .keyword .importFile => Statement.importFile <$> importFile
  | .keyword .letVariable => Statement.letVariable <$> letVariable
  | .keyword .unit => Statement.unit <$> unitDeclaration
  | .keyword .vocabulary => Statement.vocabulary <$> vocabulary
  | .keyword .family => Statement.family <$> family
  | .keyword .template => Statement.template <$> template
  | .keyword .data => Statement.data <$> data
  | .keyword .event => Statement.event <$> event
  | .keyword .catalog => Statement.catalog <$> catalog
  | .keyword .diachronicLink => (Statement.link ∘ .diachronic) <$> diachronicLink
  | .keyword .synchronousLink | .keyword .synchronousLinks => (Statement.link ∘ .synchronous) <$> synchronousLink
  | .comment | .blockComment => Statement.comment <$> comment
  | .tag => Statement.comment <$> tagComment
  | .identifier =>
    let following := (← next).kind
    if Text.lower token.text == "group" && following == .string then Statement.family <$> family
    else if following == .mark .openBrace then Statement.vocabulary <$> bareVocabulary
    else unexpected "declaration"
  | _ => unexpected "declaration"

end Parser

/-- The cursor behind the next semicolon, or at the next keyword that starts a statement; the token at the cursor is
passed over. -/
def Cursor.synchronize (c : Cursor) : Cursor :=
  let d := c.advance.skipWhile fun k => !(k == .mark .semicolon || Parser.startsStatement k)
  if d.current.kind == .mark .semicolon then d.advance else d

/-- What a run over statements gives: the statements and errors it found, the number that stopped it, if one did, and
where it stopped. -/
structure Parse where
  statements : List Ast.Statement
  errors : List GrammarError
  stopped : Option ConversionError
  cursor : Cursor

namespace Parse

/-- A run that finds nothing. -/
def nothing (c : Cursor) : Parse :=
  ⟨[], [], none, c⟩

/-- A run that found a statement first. -/
def withStatement (s : Ast.Statement) (p : Parse) : Parse :=
  { p with statements := s :: p.statements }

/-- A run that found an error first. -/
def withError (e : GrammarError) (p : Parse) : Parse :=
  { p with errors := e :: p.errors }

/-- Statements from a cursor to the end. A round that reads nothing ends the run. -/
def fromCursor (start : Cursor) : Parse :=
  let c := start.skipWhile Parser.isDivider
  if c.rest.isEmpty then nothing c
  else
    match Parser.statement c with
    | (.ok s, d) =>
      if d.rest.length < start.rest.length then (fromCursor d).withStatement s else (nothing d).withStatement s
    | (.error (.grammar e), d) =>
      let r := d.synchronize
      if r.rest.length < start.rest.length then (fromCursor r).withError e else (nothing r).withError e
    | (.error (.conversion e), d) => ⟨[], [], some e, d⟩
termination_by start.rest.length

/-- The program that a run has read; `earlier` are errors of earlier runs over the same text. -/
def result (p : Parse) (earlier : List GrammarError) : Except Error Ast.Program :=
  match p.stopped, earlier ++ p.errors with
  | some e, _ => .error (.conversion e)
  | none, e :: _ => .error (.grammar e)
  | none, [] => .ok ⟨p.statements⟩

end Parse

/-- A run over all tokens of a text. -/
def TokenStream.parse (s : TokenStream) : Parse :=
  .fromCursor (.ofStream s)

/-- The program that a text writes. -/
def parse (source : String) : Except Error Ast.Program := do
  match tokenize source with
  | .error e => throw (.lexical e)
  | .ok stream => stream.parse.result []

end MediaLanguage
