/-!
# Lines and columns of text

Cutting a text into lines, joining lines, and filling a text up to a width.
-/

namespace MediaLanguage.Text

/-- The pieces of a text between the characters that `p` holds of: one more than there are such characters. -/
def splitWhere (p : Char → Bool) : List Char → List (List Char)
  | [] => [[]]
  | c :: cs =>
    if p c then [] :: splitWhere p cs
    else
      match splitWhere p cs with
      | [] => [[c]]
      | piece :: pieces => (c :: piece) :: pieces

/-- The lines of a text: the pieces between its line feeds. A text with `n` line feeds has `n + 1` lines. -/
def splitLines (cs : List Char) : List (List Char) :=
  splitWhere (· == '\n') cs

/-- Characters that may end a line: the line and page feeds, the carriage return, the separators of records and above,
and the line and paragraph separators of Unicode. -/
def endsLine (c : Char) : Bool :=
  (0xA ≤ c.toNat && c.toNat ≤ 0xD) || (0x1C ≤ c.toNat && c.toNat ≤ 0x1E) || c.toNat == 0x85 || c.toNat == 0x2028
    || c.toNat == 0x2029

/-- What follows the first character that `p` does not hold of is shorter than the text. -/
theorem length_lt_of_dropWhile {p : Char → Bool} {c : Char} {cs rest : List Char} (h : cs.dropWhile p = c :: rest) :
    rest.length < cs.length := by
  have hle := (List.dropWhile_sublist p (l := cs)).length_le
  rw [h, List.length_cons] at hle
  exact hle

/-- The lines of a text, as texts. -/
def lines (s : String) : List String :=
  (splitLines s.toList).map String.ofList

/-- Lines with a line feed between each two. -/
def unlines (ls : List String) : String :=
  String.intercalate "\n" ls

/-- The text with every line end, be it a line feed, a carriage return or both, as a line feed. -/
def unifyLineEnds : List Char → List Char
  | '\r' :: '\n' :: cs => '\n' :: unifyLineEnds cs
  | '\r' :: cs => '\n' :: unifyLineEnds cs
  | c :: cs => c :: unifyLineEnds cs
  | [] => []

/-- `n` copies of a character. -/
def repeated (n : Nat) (c : Char) : String :=
  String.ofList (List.replicate n c)

/-- The text moved to the right end of a field of `width` characters. -/
def alignRight (width : Nat) (s : String) : String :=
  repeated (width - s.length) ' ' ++ s

/-- The text at the left end of a field of `width` characters. -/
def alignLeft (width : Nat) (s : String) : String :=
  s ++ repeated (width - s.length) ' '

end MediaLanguage.Text
