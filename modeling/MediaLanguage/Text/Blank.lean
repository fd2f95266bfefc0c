import MediaLanguage.Text.Charset

/-!
# Blank characters

The characters that are removed from both ends of a line comment: the characters with the property White_Space, and
the four information separators U+001C to U+001F. A zero-width space is not blank.
-/

namespace MediaLanguage.Text

/-- White_Space, and the information separators. -/
def blanks : Charset where
  ranges := [(0x9, 0xD), (0x1C, 0x20), (0x85, 0x85), (0xA0, 0xA0), (0x1680, 0x1680), (0x2000, 0x200A),
    (0x2028, 0x2029), (0x202F, 0x202F), (0x205F, 0x205F), (0x3000, 0x3000)]

/-- Whether a character counts as blank. -/
def isBlank (c : Char) : Bool :=
  blanks.contains c

/-- The text without the blanks at its front. -/
def stripLeft (cs : List Char) : List Char :=
  cs.dropWhile isBlank

/-- The text without the blanks at its end. -/
def stripRight (cs : List Char) : List Char :=
  (cs.reverse.dropWhile isBlank).reverse

/-- The text without the blanks at its two ends. -/
def strip (cs : List Char) : List Char :=
  stripRight (stripLeft cs)

end MediaLanguage.Text
