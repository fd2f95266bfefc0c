import MediaLanguage.Number.Decimal
import MediaLanguage.Text.Lines

/-!
# Texts of numbers

A layout says which decimals are written positionally, whether a whole number keeps a point, and how an exponent is
written. The layouts of the language are `Number.full`, the shortest text that reads back, `Number.general`, six
significant digits, and `Number.text`, the text of a value in generated files: an integer where the number is one.
-/

namespace MediaLanguage

/-- The decisions of a written form. -/
structure Layout where
  /-- The least exponent of the leading digit that is written positionally. -/
  least : Int
  /-- The least exponent of the leading digit, above `least`, that is not written positionally. -/
  bound : Int
  /-- Whether a whole number written positionally ends in a zero after the point. -/
  keepsPoint : Bool
  /-- The least count of digits of the exponent. -/
  exponentDigits : Nat

namespace Layout

/-- The digits with a point after the first `place` of them; zeros fill the places that have no digit. -/
def positional (layout : Layout) (digits : List Char) (place : Int) : List Char :=
  if place ≤ 0 then
    ['0', '.'] ++ List.replicate (-place).toNat '0' ++ digits
  else
    let whole := digits.take place.toNat ++ List.replicate (place.toNat - digits.length) '0'
    match digits.drop place.toNat with
    | [] => if layout.keepsPoint then whole ++ ['.', '0'] else whole
    | fraction => whole ++ '.' :: fraction

/-- The digits with a point after the first, and the exponent of the first with its sign. -/
def scientific (layout : Layout) (digits : List Char) (exponent : Int) : List Char :=
  let sign := if exponent < 0 then '-' else '+'
  let power := Nat.toDigits 10 exponent.natAbs
  let mantissa :=
    match digits with
    | d :: e :: rest => d :: '.' :: e :: rest
    | short => short
  mantissa ++ 'e' :: sign :: List.replicate (layout.exponentDigits - power.length) '0' ++ power

/-- A decimal in this layout. -/
def write (layout : Layout) (x : Decimal) : List Char :=
  let digits := Nat.toDigits 10 x.digits
  let place := x.exponent + digits.length
  if layout.least ≤ place - 1 ∧ place - 1 < layout.bound then layout.positional digits place
  else layout.scientific digits (place - 1)

end Layout

namespace Number

/-- A number in a layout, its digits chosen by `digits`; zero is a decimal without choice. -/
def write (layout : Layout) (digits : Nat → Int → Decimal) : Number → String
  | .finite negative m e =>
    let x := if m = 0 then ⟨0, 0⟩ else digits m e
    String.ofList ((if negative then ['-'] else []) ++ layout.write x)
  | .infinite negative => if negative then "-inf" else "inf"
  | .nan => "nan"

/-- Positional from four places below the point to sixteen digits before it, and always with a point. -/
def fullLayout : Layout where
  least := -4
  bound := 16
  keepsPoint := true
  exponentDigits := 2

/-- The shortest text that reads back as the number. -/
def full (x : Number) : String :=
  x.write fullLayout shortest

/-- Positional up to six digits before the point, which a whole number does not keep. -/
def generalLayout : Layout where
  least := -4
  bound := 6
  keepsPoint := false
  exponentDigits := 2

/-- The number rounded to six significant digits. -/
def general (x : Number) : String :=
  x.write generalLayout (significant 6)

/-- The text of a number in generated files: a whole number below `10 ^ 21` is written as an integer, without a sign
if it is zero, and any other number in full. -/
def text (x : Number) : String :=
  match x.toInt? with
  | some k => if k.natAbs < Nat.pow 10 21 then toString k else x.full
  | none => x.full

end Number

end MediaLanguage
