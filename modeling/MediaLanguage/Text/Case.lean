/-!
# Letter case

Keywords and names are compared without regard to the case of the letters `A` to `Z`; both are written in ASCII.
-/

namespace MediaLanguage.Text

/-- The text with `A` to `Z` in lower case. -/
def lower (s : String) : String :=
  s.map Char.toLower

/-- The text with `a` to `z` in upper case. -/
def upper (s : String) : String :=
  s.map Char.toUpper

end MediaLanguage.Text
