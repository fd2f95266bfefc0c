import MediaLanguage.Console.Picture
import MediaLanguage.Text.Terminal

/-!
# Tags in text

Text in a table may hold tags for styles in square brackets, and names of pictures. A tag starts with a small letter or
one of `#`, `/` and `@`, and has no bracket inside. Tags are not shown; a backslash in front of a tag makes it plain
text. A tag that starts with `/` closes one that is open, and a text is faulty if there is none that it could close.
-/

namespace MediaLanguage.Console

/-! ## Pieces -/

/-- A piece of a text with tags. -/
inductive Piece where
  /-- Text between tags. -/
  | plain (text : List Char)
  /-- What a tag has between its brackets. -/
  | tag (inner : List Char)

/-- Whether a tag may start with a character. -/
def startsTag (c : Char) : Bool :=
  ('a' ≤ c && c ≤ 'z') || c == '#' || c == '/' || c == '@'

/-- Whether a character is no bracket. -/
def noBracket (c : Char) : Bool :=
  c != '[' && c != ']'

/-- What a tag at the front of a text has between its brackets, and what follows it. -/
def tag? : List Char → Option (List Char × List Char)
  | '[' :: c :: cs =>
    match startsTag c, cs.dropWhile noBracket with
    | true, ']' :: rest => some (c :: cs.takeWhile noBracket, rest)
    | _, _ => none
  | _ => none

/-- A tag takes a piece off the front of a text. -/
theorem tag?_rest_length {cs inner rest : List Char} (h : tag? cs = some (inner, rest)) :
    rest.length < cs.length := by
  unfold tag? at h
  split at h
  · next c tail =>
    split at h
    · next after _ hd =>
      simp only [Option.some.injEq, Prod.mk.injEq] at h
      have hlt := Text.length_lt_of_dropWhile hd
      simp only [← h.2, List.length_cons]
      omega
    · cases h
  · cases h

/-- The pieces of a text after the start of plain text, which is given from its end. Of backslashes in front of a tag
every second is shown, and an odd one makes the tag plain text. -/
def piecesFrom (plain : List Char) (cs : List Char) : List Piece :=
  match h : tag? (cs.dropWhile (· == '\\')) with
  | some (inner, rest) =>
    have : rest.length < cs.length :=
      Nat.lt_of_lt_of_le (tag?_rest_length h) (List.dropWhile_sublist (· == '\\')).length_le
    let slashes := (cs.takeWhile (· == '\\')).length
    let piece := if slashes % 2 = 1 then .plain ('[' :: inner ++ [']']) else .tag inner
    .plain plain.reverse :: .plain (List.replicate (slashes / 2) '\\') :: piece :: piecesFrom [] rest
  | none =>
    match cs with
    | [] => [.plain plain.reverse]
    | c :: rest => piecesFrom (c :: plain) rest
termination_by cs.length

/-- The pieces of a text. -/
def pieces (s : String) : List Piece :=
  piecesFrom [] s.toList

/-! ## Tags -/

/-- A name in the form in which names are compared: in small letters, and without the blanks at its ends. -/
def tagName (cs : List Char) : String :=
  Text.lowercase (String.ofList (Text.strip cs))

/-- Whether every closing tag has a tag to close: the last that is open, or the last with the name that it gives.
The names of the open tags are given, the last first. -/
def isNested (opened : List String) : List Piece → Bool
  | [] => true
  | .plain _ :: rest => isNested opened rest
  | .tag inner :: rest =>
    match inner.takeWhile (· != '=') with
    | '/' :: closed =>
      let name := tagName closed
      if name.isEmpty then !opened.isEmpty && isNested opened.tail rest
      else opened.contains name && isNested (opened.erase name) rest
    | name => isNested (tagName name :: opened) rest

/-! ## What is shown -/

/-- Plain text without the backslashes in front of opening brackets. -/
def withoutEscapes : List Char → List Char
  | '\\' :: '[' :: cs => '[' :: withoutEscapes cs
  | c :: cs => c :: withoutEscapes cs
  | [] => []

/-- What is shown of a piece. -/
def Piece.shown : Piece → List Char
  | .plain text => withPictures (withoutEscapes text)
  | .tag _ => []

/-- What is shown of a text, unless its tags are faulty. -/
def markup? (s : String) : Option (List Char) :=
  if isNested [] (pieces s) then some (Text.withoutControls (String.ofList ((pieces s).flatMap Piece.shown))).toList
  else none

end MediaLanguage.Console
