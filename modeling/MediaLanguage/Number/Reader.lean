import MediaLanguage.Number.Basic
import MediaLanguage.Text.Digit

/-!
# Reading numbers

`Number.ofLiteral?` reads the literals of the language: digits, and a fraction after a point. `Number.ofText?` reads
the texts that numbers are written as, with a sign and an exponent, and the texts of the infinities and of
not-a-number.
-/

namespace MediaLanguage.Number

/-- A literal: digits, and perhaps a point and more digits. It has no value if a digit has no place value. -/
def ofLiteral? (whole fraction : List Char) : Option Number := do
  let digits ← Text.digitsValue? (whole ++ fraction)
  return ofDecimal false digits (-(fraction.length : Int))

/-- An optional sign in front of a text: whether it is a minus, and the rest. -/
def readSign : List Char → Bool × List Char
  | '-' :: cs => (true, cs)
  | '+' :: cs => (false, cs)
  | cs => (false, cs)

/-- An exponent part, or nothing. -/
def readExponent? : List Char → Option Int
  | [] => some 0
  | c :: cs =>
    if c = 'e' ∨ c = 'E' then
      let (negative, digits) := readSign cs
      if digits.isEmpty || !digits.all Char.isDigit then none
      else
        (Text.digitsValue? digits).map fun n => if negative then -(n : Int) else n
    else none

/-- A written number: sign, digits with an optional fraction, and an optional exponent; or `inf` or `nan`. -/
def ofText? (s : String) : Option Number :=
  let (negative, cs) := readSign s.toList
  if cs = ['i', 'n', 'f'] then some (.infinite negative)
  else if cs = ['n', 'a', 'n'] then some .nan
  else
    let whole := cs.takeWhile Char.isDigit
    let rest := cs.dropWhile Char.isDigit
    let (fraction, rest) :=
      match rest with
      | '.' :: tail => (tail.takeWhile Char.isDigit, tail.dropWhile Char.isDigit)
      | _ => ([], rest)
    if whole.isEmpty && fraction.isEmpty then none
    else do
      let digits ← Text.digitsValue? (whole ++ fraction)
      let exponent ← readExponent? rest
      return ofDecimal negative digits (exponent - fraction.length)

end MediaLanguage.Number
