/-!
# Sets of characters

A set of characters is written down as inclusive ranges of code points, the form in which standards list the
characters of a property.
-/

namespace MediaLanguage

/-- A set of characters, as inclusive ranges of code points. -/
structure Charset where
  ranges : List (Nat × Nat)

/-- Membership: the code point of `c` lies in one of the ranges. -/
def Charset.contains (s : Charset) (c : Char) : Bool :=
  s.ranges.any fun r => r.1 ≤ c.toNat && c.toNat ≤ r.2

end MediaLanguage
