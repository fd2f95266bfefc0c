import MediaLanguage.Ast.Expr
import MediaLanguage.Error
import MediaLanguage.Number.Format
import MediaLanguage.Token.Basic

/-!
# Reading tokens

A production of the grammar is a `Parser`: it moves a cursor over the tokens and gives a node or fails. A failure
leaves the cursor where it stopped, because recovery goes on from there. The cursor holds the tokens that are not yet
read; at the end of the input it shows the token for the end, which is never read past. A parser carries the proof
that it never moves the cursor back (`Parser.forward`).

`Parser.loop` is the one loop of the grammar. It goes on only after a round that has read a token, so it ends.
-/

namespace MediaLanguage

/-- The tokens that are not yet read, and the place where the text ends. -/
structure Cursor where
  rest : List Token
  finish : Position

namespace Cursor

/-- A cursor in front of the first token. -/
def ofStream (s : TokenStream) : Cursor :=
  ⟨s.tokens, s.finish⟩

/-- The token at a distance from the cursor; beyond the last token it is the end. -/
def peek (c : Cursor) (distance : Nat) : Token :=
  (c.rest[distance]?).getD (.finish c.finish)

/-- The token at the cursor. -/
def current (c : Cursor) : Token :=
  c.peek 0

/-- The cursor after its token; at the end it stays. -/
def advance (c : Cursor) : Cursor :=
  { c with rest := c.rest.tail }

/-- The cursor after all tokens whose kinds satisfy `p`. -/
def skipWhile (p : Kind → Bool) (c : Cursor) : Cursor :=
  { c with rest := c.rest.dropWhile fun t => p t.kind }

/-- The cursor `d` stands at `c` or behind it, in the same text. -/
structure Reaches (c d : Cursor) : Prop where
  rest : d.rest <:+ c.rest
  finish : d.finish = c.finish

/-- A cursor reaches itself. -/
theorem Reaches.refl (c : Cursor) : c.Reaches c :=
  ⟨List.suffix_refl _, rfl⟩

/-- Cursors are reached step by step. -/
theorem Reaches.trans {c d e : Cursor} (h : c.Reaches d) (h' : d.Reaches e) : c.Reaches e :=
  ⟨h'.rest.trans h.rest, h'.finish.trans h.finish⟩

/-- Reading a token moves forward. -/
theorem reaches_advance (c : Cursor) : c.Reaches c.advance :=
  ⟨List.tail_suffix _, rfl⟩

/-- Skipping tokens moves forward. -/
theorem reaches_skipWhile (p : Kind → Bool) (c : Cursor) : c.Reaches (c.skipWhile p) :=
  ⟨List.dropWhile_suffix _, rfl⟩

/-- The cursor `d` if it is reached from `c`, and `c` otherwise. -/
def moveTo (c d : Cursor) : Cursor :=
  if d.rest <:+ c.rest then { c with rest := d.rest } else c

/-- Moving to a cursor moves forward. -/
theorem reaches_moveTo (c d : Cursor) : c.Reaches (c.moveTo d) := by
  unfold moveTo
  split
  · next h => exact ⟨h, rfl⟩
  · exact .refl c

end Cursor

/-- Why a production fails. -/
inductive Failure where
  | grammar (error : GrammarError)
  | conversion (error : ConversionError)
deriving DecidableEq

/-- A production of the grammar: what it gives, and where it leaves the cursor. It never moves back. -/
structure Parser (α : Type) where
  run : Cursor → Except Failure α × Cursor
  forward : ∀ c : Cursor, c.Reaches (run c).2

instance {α : Type} : CoeFun (Parser α) fun _ => Cursor → Except Failure α × Cursor :=
  ⟨Parser.run⟩

namespace Parser

open Ast

/-! ## Sequences and failures -/

/-- What follows the outcome of a production: the continuation, or the failure. -/
def continueWith {α β : Type} (next : α → Parser β) : Except Failure α × Cursor → Except Failure β × Cursor
  | (.ok a, d) => next a d
  | (.error e, d) => (.error e, d)

/-- What follows the outcome of a production: the result, or another try. -/
def recoverWith {α : Type} (next : Failure → Parser α) : Except Failure α × Cursor → Except Failure α × Cursor
  | (.ok a, d) => (.ok a, d)
  | (.error e, d) => next e d

/-- A continuation moves on from where the outcome is. -/
theorem reaches_continueWith {α β : Type} (next : α → Parser β) (r : Except Failure α × Cursor) :
    r.2.Reaches (continueWith next r).2 := by
  match r with
  | (.ok a, d) => exact (next a).forward d
  | (.error _, d) => exact .refl d

/-- Another try moves on from where the outcome is. -/
theorem reaches_recoverWith {α : Type} (next : Failure → Parser α) (r : Except Failure α × Cursor) :
    r.2.Reaches (recoverWith next r).2 := by
  match r with
  | (.ok _, d) => exact .refl d
  | (.error e, d) => exact (next e).forward d

instance : Monad Parser where
  pure a := ⟨fun c => (.ok a, c), fun c => .refl c⟩
  bind p next := ⟨fun c => continueWith next (p c), fun c => (p.forward c).trans (reaches_continueWith next _)⟩

instance : MonadExceptOf Failure Parser where
  throw e := ⟨fun c => (.error e, c), fun c => .refl c⟩
  tryCatch p next := ⟨fun c => recoverWith next (p c), fun c => (p.forward c).trans (reaches_recoverWith next _)⟩

/-- The cursor is the state of a parser; a place that lies behind it is not taken. -/
instance : MonadStateOf Cursor Parser where
  get := ⟨fun c => (.ok c, c), fun c => .refl c⟩
  set d := ⟨fun c => (.ok (), c.moveTo d), fun c => c.reaches_moveTo d⟩
  modifyGet f := ⟨fun c => (.ok (f c).1, c.moveTo (f c).2), fun c => c.reaches_moveTo _⟩

/-! ## Kinds of tokens -/

/-- Line breaks. -/
def isNewline (k : Kind) : Bool :=
  k == .newline

/-- Line breaks and comments. -/
def isTrivia (k : Kind) : Bool :=
  k == .newline || k.isComment

/-- Marks that may follow a field. -/
def isSeparator (k : Kind) : Bool :=
  k == .mark .semicolon || k == .mark .comma

/-- Line breaks and semicolons, which may stand between statements and between members. -/
def isDivider (k : Kind) : Bool :=
  k == .newline || k == .mark .semicolon

/-- Marks that close a bracket. -/
def isClosing (k : Kind) : Bool :=
  k == .mark .closeBrace || k == .mark .closeParen || k == .mark .closeBracket

/-- Keywords at which reading goes on after an error. -/
def startsStatement (k : Kind) : Bool :=
  [Keyword.importFile, .letVariable, .unit, .vocabulary, .family, .template, .data].any fun w => k == .keyword w

/-! ## Steps -/

/-- The token at the cursor. -/
def current : Parser Token := do
  return (← get).current

/-- The token after the one at the cursor. -/
def next : Parser Token := do
  return (← get).peek 1

/-- Reads a token. -/
def advance : Parser Token :=
  ⟨fun c => (.ok c.current, c.advance), Cursor.reaches_advance⟩

/-- Whether the cursor is at a token of one of the kinds. -/
def seesAny (kinds : List Kind) : Parser Bool := do
  return kinds.contains (← current).kind

/-- Whether the cursor is at a token of the kind. -/
def sees (kind : Kind) : Parser Bool :=
  seesAny [kind]

/-- Reads a token if it is of one of the kinds, and tells whether it was. -/
def acceptAny (kinds : List Kind) : Parser Bool := do
  if ← seesAny kinds then
    let _ ← advance
    return true
  else
    return false

/-- Reads a token if it is of the kind, and tells whether it was. -/
def accept (kind : Kind) : Parser Bool :=
  acceptAny [kind]

/-- Skips the tokens whose kinds satisfy `p`. -/
def skipWhile (p : Kind → Bool) : Parser Unit :=
  ⟨fun c => (.ok (), c.skipWhile p), Cursor.reaches_skipWhile p⟩

/-- Skips semicolons and commas. -/
def skipSeparators : Parser Unit :=
  skipWhile isSeparator

/-! ## Errors at the cursor -/

/-- The error that something else was expected at the cursor. -/
def unexpectedAt (c : Cursor) (expected : String) : GrammarError :=
  let token := c.current
  match token.kind with
  | .endOfInput => ⟨.unexpectedEnd expected, token.position⟩
  | _ => ⟨.unexpectedToken token.text [expected], token.position⟩

/-- The error that a closing mark is missing at the cursor. -/
def missingAt (c : Cursor) (delimiter : String) : GrammarError :=
  ⟨.missingDelimiter delimiter, c.current.position⟩

/-- Fails because something else was expected. -/
def unexpected {α : Type} (expected : String) : Parser α := do
  throw (.grammar (unexpectedAt (← get) expected))

/-- Fails because a closing mark is missing. -/
def missing {α : Type} (delimiter : String) : Parser α := do
  throw (.grammar (missingAt (← get) delimiter))

/-- Fails because the token that is expected is not there: at the end of the input a closing mark is missing. -/
def notThere {α : Type} (kind : Kind) (expected : String) : Parser α := do
  if isClosing kind && (← sees .endOfInput) then missing kind.spelling else unexpected expected

/-- Reads a token of the kind; `expected` describes it in an error. -/
def expectAs (kind : Kind) (expected : String) : Parser Token := do
  if ← sees kind then advance else notThere kind expected

/-- Reads a token of the kind, which an error shows in quotes. -/
def expect (kind : Kind) : Parser Token :=
  expectAs kind s!"'{kind.spelling}'"

/-- Reads a mark. -/
def mark (m : Mark) : Parser Token :=
  expect (.mark m)

/-- Reads a keyword. -/
def keyword (w : Keyword) : Parser Token :=
  expect (.keyword w)

/-! ## Names and literals -/

/-- Reads a string literal; `expected` describes it in an error. -/
def string (expected : String) : Parser String := do
  match (← current).lexeme with
  | .string value =>
    let _ ← advance
    return value
  | _ => unexpected expected

/-- Reads a number; `expected` describes it in an error. -/
def number (expected : String) : Parser Number := do
  match (← current).lexeme with
  | .number value =>
    let _ ← advance
    return value
  | _ => unexpected expected

/-- Reads a name as it is spelled; every keyword may be a name. -/
def name : Parser String := do
  let token ← current
  if token.kind == .identifier || token.kind.isKeyword then
    let _ ← advance
    return token.text
  else unexpected "identifier"

/-- The word is the name of no field; `kind` says whose fields they are. -/
def unknownField (kind word : String) : GrammarCause :=
  .invalidSyntax s!"unknown {kind} field '{word}'"

/-- Reads one of the fields of `table`, up to the sign after its name; `kind` says whose fields they are. -/
def fieldName {α : Type} (table : List (String × α)) (kind : String) : Parser α := do
  let token ← current
  if token.kind == .identifier || token.kind.isKeyword then
    match table.lookup (Text.lower token.text) with
    | some field =>
      let _ ← advance
      let _ ← mark .assign
      return field
    | none => throw (.grammar ⟨unknownField kind token.text, token.position⟩)
  else unexpected s!"{kind} field"

/-! ## Comments and annotations -/

/-- The text that a lexeme stands for, where a comment is made of it. -/
def wording : Lexeme → String → String
  | .identifier, text => text
  | .string value, _ | .comment value, _ | .blockComment value, _ | .tag value, _ => value
  | .number value, _ => value.full
  | .boolean true, _ => "True"
  | .boolean false, _ => "False"
  | .keyword _, _ | .mark _, _ | .newline, _ | .endOfInput, _ => "None"

/-- Reads a comment. -/
def comment : Parser Comment := do
  let token ← advance
  return { text := wording token.lexeme token.text, multiline := token.kind == .blockComment
           position := token.position }

/-- Reads a sign and the text after it, if the sign is there. -/
def assignedText : Parser (Option String) := do
  if ← accept (.mark .assign) then return some (← string "string value after '='")
  else return none

/-- Reads the text of an annotation, if there is one. -/
def tagValue : Parser (Option String) := do
  match (← current).lexeme with
  | .string value =>
    let _ ← advance
    return some value
  | _ => assignedText

/-- Reads an annotation. -/
def tag : Parser Tag := do
  let token ← current
  match token.lexeme with
  | .tag name =>
    let _ ← advance
    return { name, value := ← tagValue, position := token.position }
  | _ => unexpected "annotation"

/-- Reads an annotation and passes over it. -/
def skipTag : Parser Unit := do
  let _ ← tag
  skipSeparators

/-- Reads an annotation and keeps it as a comment. -/
def tagComment : Parser Comment := do
  let t ← tag
  let value := t.value.getD ""
  return { text := s!"@{t.name}: {value}", position := t.position }

/-! ## Loops -/

/-- Rounds from a cursor on. A round gives nodes, and whether another round follows; a round that follows must have
fewer tokens to read. -/
def loopFrom {α : Type} (round : Parser (List α × Bool)) (c : Cursor) : Except Failure (List α) × Cursor :=
  match round c with
  | (.error e, d) => (.error e, d)
  | (.ok (nodes, more), d) =>
    if more ∧ d.rest.length < c.rest.length then
      let (result, finish) := loopFrom round d
      (result.map (nodes ++ ·), finish)
    else (.ok nodes, d)
termination_by c.rest.length

/-- Rounds move forward. -/
theorem reaches_loopFrom {α : Type} (round : Parser (List α × Bool)) (c : Cursor) :
    c.Reaches (loopFrom round c).2 := by
  have hround := round.forward c
  rw [loopFrom]
  split
  · next h => rw [h] at hround; exact hround
  · next nodes more d h =>
    rw [h] at hround
    split
    · exact hround.trans (reaches_loopFrom round d)
    · exact hround
termination_by c.rest.length

/-- The nodes of one round after another. -/
def loop {α : Type} (round : Parser (List α × Bool)) : Parser (List α) :=
  ⟨loopFrom round, reaches_loopFrom round⟩

/-- Items up to a closing mark or the end of the input; tokens that satisfy `skip` may stand in front of each. -/
def itemsUntil {α : Type} (closing : Mark) (skip : Kind → Bool) (item : Parser (List α)) : Parser (List α) :=
  loop do
    skipWhile skip
    if ← seesAny [.mark closing, .endOfInput] then return ([], false)
    else return (← item, true)

/-- Items in braces. -/
def braced {α : Type} (skip : Kind → Bool) (item : Parser (List α)) : Parser (List α) := do
  let _ ← mark .openBrace
  let items ← itemsUntil .closeBrace skip item
  let _ ← mark .closeBrace
  return items

/-- Items with commas between them, up to a closing mark. -/
def commaList {α : Type} (closing : Mark) (item : Parser α) : Parser (List α) := do
  let items ← loop do
    skipWhile isTrivia
    if ← seesAny [.mark closing, .endOfInput] then return ([], false)
    else
      let node ← item
      skipWhile isTrivia
      return ([node], ← accept (.mark .comma))
  skipWhile isTrivia
  let _ ← mark closing
  return items

/-- An item of a block that may hold comments and annotations; semicolons and commas may follow all but a comment. -/
def blockItem {α : Type} (onComment onTag onField : Parser α) : Parser α := do
  let kind := (← current).kind
  if kind.isComment then onComment
  else
    let node ← if kind == .tag then onTag else onField
    skipSeparators
    return node

/-- An item of a block that drops comments and annotations. -/
def plainItem {α : Type} (field : Parser α) : Parser (List α) :=
  blockItem (do let _ ← advance; return []) (do let _ ← tag; return []) (do return [← field])

/-! ## Bodies that are not read -/

/-- The tokens after the brace that closes `depth` open braces. -/
def afterBraces : Nat → List Token → Option (List Token)
  | 0, ts => some ts
  | _ + 1, [] => none
  | depth + 1, t :: ts =>
    match t.kind with
    | .mark .openBrace => afterBraces (depth + 2) ts
    | .mark .closeBrace => afterBraces depth ts
    | _ => afterBraces (depth + 1) ts

/-- What follows a body is a part of the tokens. -/
theorem suffix_of_afterBraces {depth : Nat} {ts rest : List Token} (h : afterBraces depth ts = some rest) :
    rest <:+ ts := by
  fun_induction afterBraces depth ts with
  | case1 ts => cases h; exact List.suffix_refl _
  | case2 => cases h
  | case3 depth t ts _ ih => exact (ih h).trans (List.suffix_cons t ts)
  | case4 depth t ts _ ih => exact (ih h).trans (List.suffix_cons t ts)
  | case5 depth t ts _ _ ih => exact (ih h).trans (List.suffix_cons t ts)

/-- The cursor behind the brace that closes `depth` open braces, or at the end. -/
def closeBraces (depth : Nat) (c : Cursor) : Cursor :=
  { c with rest := (afterBraces depth c.rest).getD [] }

/-- Closing braces moves forward. -/
theorem reaches_closeBraces (depth : Nat) (c : Cursor) : c.Reaches (closeBraces depth c) := by
  refine ⟨?_, rfl⟩
  unfold closeBraces
  cases h : afterBraces depth c.rest with
  | none => exact List.nil_suffix
  | some rest => exact suffix_of_afterBraces h

/-- Skips the rest of a body in braces, with the braces in it, behind the opening one. -/
def skipBody : Parser Unit :=
  ⟨fun c =>
    let d := closeBraces 1 c
    match afterBraces 1 c.rest with
    | some _ => (.ok (), d)
    | none => (.error (.grammar (missingAt d "\x7d")), d),
  by
    intro c
    dsimp only
    split <;> exact reaches_closeBraces 1 c⟩

/-- Skips a body in braces, with the braces in it. -/
def skipBraces : Parser Unit := do
  let _ ← mark .openBrace
  skipBody

/-- Skips a body in braces, if there is one. -/
def skipBracesIfAny : Parser Unit := do
  if ← sees (.mark .openBrace) then skipBraces else return ()

end Parser

end MediaLanguage
