import MediaLanguage.Text.Lines
import MediaLanguage.Toml.Scalar
import MediaLanguage.Toml.Tree

/-!
# Reading settings files

A file is a sequence of lines, each of them empty, a comment, a header or an assignment. `Toml.parse?` gives the table
that a file describes, or `none` if the file is not well formed or contradicts itself.
-/

namespace MediaLanguage.Toml

/-! ## Space and comments -/

/-- The text without the space at its front. -/
def skipSpace (cs : List Char) : List Char :=
  cs.dropWhile isSpace

/-- The text after the comment that stands at its front, if one does; a comment holds no control characters. -/
def skipComment? (cs : List Char) : Option (List Char) :=
  match cs with
  | '#' :: rest =>
    if (rest.takeWhile (· != '\n')).all isPlain then some (rest.dropWhile (· != '\n')) else none
  | _ => some cs

/-- The text after space, line feeds and comments. -/
def skipFiller? (cs : List Char) : Option (List Char) :=
  let start := cs.dropWhile isSpaceOrNewline
  match skipComment? start with
  | none => none
  | some rest => if rest.length < start.length ∧ rest.length < cs.length then skipFiller? rest else some rest
termination_by cs.length

/-! ## Keys -/

/-- A dotted key: the tables on the way, and the name in the last of them. -/
structure Key where
  path : List String
  name : String

/-- All names of a key. -/
def Key.names (k : Key) : List String :=
  k.path ++ [k.name]

/-- A letter, digit, hyphen or underscore. -/
def isBareKeyChar (c : Char) : Bool :=
  c.isAlphanum || c == '-' || c == '_'

/-- A name in a key: bare, or a string on one line. -/
def keyName? : Reader String
  | '"' :: cs => shortString '"' basicItem cs
  | '\'' :: cs => shortString '\'' plainItem cs
  | cs =>
    let name := cs.takeWhile isBareKeyChar
    if name.isEmpty then none else some (String.ofList name, cs.dropWhile isBareKeyChar)

/-- A dotted key, and the space after it. -/
def key? (cs : List Char) : Option (Key × List Char) :=
  match keyName? cs with
  | none => none
  | some (name, rest) =>
    match skipSpace rest with
    | '.' :: after =>
      let next := skipSpace after
      if next.length < cs.length then
        (key? next).map fun (k, finish) => ({ k with path := name :: k.path }, finish)
      else none
    | finish => some (⟨[], name⟩, finish)
termination_by cs.length

/-! ## Values -/

mutual

/-- A value; `fuel` bounds how many values inside it are read. -/
def value? (fuel : Nat) (cs : List Char) : Option (Toml × List Char) :=
  match fuel with
  | 0 => none
  | fuel + 1 =>
    match cs with
    | '[' :: rest => do
      let start ← skipFiller? rest
      let (items, after) ← items? fuel start
      return (.array items, after)
    | '\x7b' :: rest =>
      match skipSpace rest with
      | '\x7d' :: after => some (.table [], after)
      | start => (inlineEntries? fuel [] start).map fun (entries, after) => (.table (Tree.entryValues entries), after)
    | _ => scalar? cs

/-- The items of an array up to its bracket. -/
def items? (fuel : Nat) (cs : List Char) : Option (List Toml × List Char) :=
  match fuel with
  | 0 => none
  | fuel + 1 =>
    match cs with
    | ']' :: after => some ([], after)
    | _ => do
      let (item, rest) ← value? fuel cs
      match ← skipFiller? rest with
      | ',' :: rest =>
        let (items, after) ← items? fuel (← skipFiller? rest)
        return (item :: items, after)
      | ']' :: after => return ([item], after)
      | _ => none

/-- The assignments of an inline table up to its brace, after `entries`. -/
def inlineEntries? (fuel : Nat) (entries : Entries) (cs : List Char) : Option (Entries × List Char) :=
  match fuel with
  | 0 => none
  | fuel + 1 => do
    let (key, rest) ← key? cs
    let (_, rest) ← exactly '=' rest
    let (v, rest) ← value? fuel (skipSpace rest)
    let entries ← Tree.assign 0 v key.name key.path entries
    match skipSpace rest with
    | ',' :: rest => inlineEntries? fuel entries (skipSpace rest)
    | '\x7d' :: after => return (entries, after)
    | _ => none

end

/-! ## Statements -/

/-- What the statements so far have described: the entries, the table of the current section, and its number. -/
structure Document where
  entries : Entries := []
  header : List String := []
  part : Nat := 0

/-- The document with a new section. -/
def Document.open? (d : Document) (key : Key) (describe : Entries → Option Entries) : Option Document :=
  (describe d.entries).map fun entries => ⟨entries, key.names, d.part + 1⟩

/-- A header, a double header or an assignment. Reading a value takes no more steps than twice its characters. -/
def statement? (d : Document) : Reader Document
  | '[' :: '[' :: cs => do
    let (key, rest) ← key? (skipSpace cs)
    let (_, rest) ← exactly ']' rest
    let (_, rest) ← exactly ']' rest
    return (← d.open? key (Tree.append key.path key.name), rest)
  | '[' :: cs => do
    let (key, rest) ← key? (skipSpace cs)
    let (_, rest) ← exactly ']' rest
    return (← d.open? key (Tree.declare key.path key.name), rest)
  | cs => do
    let (key, rest) ← key? cs
    let (_, rest) ← exactly '=' rest
    let (v, rest) ← value? (2 * rest.length + 2) (skipSpace rest)
    let entries ← Tree.within (Tree.assign d.part v key.name key.path) d.header d.entries
    return ({ d with entries }, rest)

/-- A line without its end: a statement or nothing, and a comment. -/
def line? (d : Document) (cs : List Char) : Option (Document × List Char) :=
  match skipSpace cs with
  | [] => some (d, [])
  | '\n' :: rest => some (d, '\n' :: rest)
  | '#' :: rest => (skipComment? ('#' :: rest)).map (d, ·)
  | start => do
    let (d, rest) ← statement? d start
    return (d, ← skipComment? (skipSpace rest))

/-- The document after all lines of a text. -/
def lines? (d : Document) (cs : List Char) : Option Document :=
  match line? d cs with
  | none => none
  | some (d, []) => some d
  | some (d, '\n' :: rest) => if rest.length < cs.length then lines? d rest else none
  | some (_, _ :: _) => none
termination_by cs.length

/-- The table that a file describes; line ends of every system count as line feeds. -/
def parse? (source : String) : Option Toml :=
  (lines? {} (Text.unifyLineEnds source.toList)).map fun d => .table (Tree.entryValues d.entries)

end MediaLanguage.Toml
