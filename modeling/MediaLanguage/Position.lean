/-!
# Positions in a source text

A position counts lines and columns from one, and bytes of the UTF-8 encoding from zero. The position of a place is
what `Position.advance` makes of the start and the text in front of the place.
-/

namespace MediaLanguage

/-- A place in a source text. -/
structure Position where
  /-- Line, from one. -/
  line : Nat := 1
  /-- Column in code points, from one. -/
  column : Nat := 1
  /-- Offset in bytes of UTF-8, from zero. -/
  offset : Nat := 0
deriving DecidableEq, Inhabited

namespace Position

/-- The place in front of the whole text. -/
def start : Position := {}

/-- The place after the character `c`, which stands at `p`. -/
def next (p : Position) (c : Char) : Position :=
  if c = '\n' then ⟨p.line + 1, 1, p.offset + c.utf8Size⟩
  else ⟨p.line, p.column + 1, p.offset + c.utf8Size⟩

/-- The place after the text `cs`, which stands at `p`. -/
def advance (p : Position) (cs : List Char) : Position :=
  cs.foldl next p

/-- The short form `line:column` of messages. -/
def text (p : Position) : String :=
  s!"{p.line}:{p.column}"

end Position

end MediaLanguage
