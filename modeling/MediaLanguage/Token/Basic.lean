import MediaLanguage.Number.Basic
import MediaLanguage.Position
import MediaLanguage.Text.Quoted
import MediaLanguage.Token.Keyword

/-!
# Tokens

A token is a lexeme with the piece of source it was read from and the place where it starts. Lexemes carry what their
text means (the value of a number, the text a string literal stands for); the kind of a lexeme forgets it.
-/

namespace MediaLanguage

/-- Punctuation marks. -/
inductive Mark where
  | assign | semicolon | colon | comma | dot | dollar
  | openBrace | closeBrace | openParen | closeParen | openBracket | closeBracket | openAngle | closeAngle
deriving DecidableEq

namespace Mark

/-- Every mark once. -/
def all : List Mark :=
  [.assign, .semicolon, .colon, .comma, .dot, .dollar, .openBrace, .closeBrace, .openParen, .closeParen,
   .openBracket, .closeBracket, .openAngle, .closeAngle]

/-- The character of a mark. -/
def char : Mark → Char
  | .assign => '='
  | .semicolon => ';'
  | .colon => ':'
  | .comma => ','
  | .dot => '.'
  | .dollar => '$'
  | .openBrace => '\x7b'
  | .closeBrace => '\x7d'
  | .openParen => '('
  | .closeParen => ')'
  | .openBracket => '['
  | .closeBracket => ']'
  | .openAngle => '<'
  | .closeAngle => '>'

/-- The mark with the given character. -/
def ofChar? (c : Char) : Option Mark :=
  all.find? fun m => m.char == c

/-- The name of a mark in a listing of tokens. -/
def label : Mark → String
  | .assign => "ASSIGN"
  | .semicolon => "SEMICOLON"
  | .colon => "COLON"
  | .comma => "COMMA"
  | .dot => "DOT"
  | .dollar => "DOLLAR"
  | .openBrace => "LBRACE"
  | .closeBrace => "RBRACE"
  | .openParen => "LPAREN"
  | .closeParen => "RPAREN"
  | .openBracket => "LBRACKET"
  | .closeBracket => "RBRACKET"
  | .openAngle => "LANGLE"
  | .closeAngle => "RANGLE"

end Mark

/-- What a token is, with the meaning of its text. -/
inductive Lexeme where
  /-- A name; its text is the name. -/
  | identifier
  | keyword (word : Keyword)
  /-- A string literal and the text it stands for. -/
  | string (value : String)
  | number (value : Number)
  | boolean (value : Bool)
  | mark (m : Mark)
  /-- A comment up to the end of the line, without its marker and the blanks around it. -/
  | comment (body : String)
  /-- A comment between delimiters, with everything between them. -/
  | blockComment (body : String)
  /-- A name after an at-sign. -/
  | tag (name : String)
  | newline
  | endOfInput
deriving DecidableEq

/-- What a token is. -/
inductive Kind where
  | identifier
  | keyword (word : Keyword)
  | string
  | number
  | boolean
  | mark (m : Mark)
  | comment
  | blockComment
  | tag
  | newline
  | endOfInput
deriving DecidableEq

/-- The kind of a lexeme. -/
def Lexeme.kind : Lexeme → Kind
  | .identifier => .identifier
  | .keyword word => .keyword word
  | .string _ => .string
  | .number _ => .number
  | .boolean _ => .boolean
  | .mark m => .mark m
  | .comment _ => .comment
  | .blockComment _ => .blockComment
  | .tag _ => .tag
  | .newline => .newline
  | .endOfInput => .endOfInput

namespace Kind

/-- Every kind once. -/
def all : List Kind :=
  [Kind.identifier, .string, .number, .boolean, .comment, .blockComment, .tag, .newline, .endOfInput]
    ++ Keyword.all.map Kind.keyword ++ Mark.all.map Kind.mark

/-- The name of a kind in a listing of tokens. -/
def label : Kind → String
  | .identifier => "IDENTIFIER"
  | .keyword word => word.label
  | .string => "STRING"
  | .number => "NUMBER"
  | .boolean => "BOOLEAN"
  | .mark m => m.label
  | .comment => "COMMENT"
  | .blockComment => "MULTILINE_COMMENT"
  | .tag => "ANNOTATION"
  | .newline => "NEWLINE"
  | .endOfInput => "EOF"

/-- The kind with the given name in a listing of tokens. -/
def ofLabel? (name : String) : Option Kind :=
  all.find? fun k => k.label == name

/-- What an error message calls an expected token that has no description of its own: a keyword or mark as it is
written, and the name of any other kind. -/
def spelling : Kind → String
  | .keyword word => word.spelling
  | .mark m => m.char.toString
  | k => k.label

/-- Whether the kind is a keyword. -/
def isKeyword : Kind → Bool
  | .keyword _ => true
  | _ => false

/-- Whether the kind is a comment of either form. -/
def isComment : Kind → Bool
  | .comment | .blockComment => true
  | _ => false

end Kind

/-- A token of a source text. -/
structure Token where
  lexeme : Lexeme
  /-- The piece of source that the token was read from. -/
  text : String
  /-- Where the token starts. -/
  position : Position
deriving DecidableEq

namespace Token

/-- The kind of a token. -/
def kind (t : Token) : Kind :=
  t.lexeme.kind

/-- The token that stands for the end of a text. -/
def finish (position : Position) : Token :=
  ⟨.endOfInput, "", position⟩

/-- A token in a listing: its name, its text in quotes, and its place. -/
def listing (t : Token) : String :=
  s!"Token({t.kind.label}, {Text.quoted t.text}, {t.position.text})"

end Token

/-- The tokens of a whole text, and the place where the text ends. -/
structure TokenStream where
  tokens : List Token
  finish : Position
deriving DecidableEq

/-- The tokens of a text with the token for its end. -/
def TokenStream.withEnd (s : TokenStream) : List Token :=
  s.tokens ++ [Token.finish s.finish]

end MediaLanguage
