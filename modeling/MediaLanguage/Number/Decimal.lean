import MediaLanguage.Number.Basic

/-!
# Decimal digits of a number

Two ways to choose decimal digits for a positive binary number, both by exact arithmetic:

* `Number.shortest` takes the fewest digits that read back as the same number, and of several such decimals the
  nearest;
* `Number.significant` rounds to a fixed count of significant digits.

A choice of digits is a `Decimal`, a natural number times a power of ten.
-/

namespace MediaLanguage

/-- The decimal `digits · 10 ^ exponent`. -/
structure Decimal where
  digits : Nat
  exponent : Int
deriving DecidableEq

/-- The same value without zeros at the end of the digits; `fuel` bounds their count. -/
def Decimal.trimWithin : Nat → Decimal → Decimal
  | 0, x => x
  | fuel + 1, x =>
    if x.digits ≠ 0 ∧ x.digits % 10 = 0 then trimWithin fuel ⟨x.digits / 10, x.exponent + 1⟩ else x

/-- The same value without zeros at the end of the digits. -/
def Decimal.trim (x : Decimal) : Decimal :=
  x.trimWithin (Number.decimalDigits x.digits)

namespace Number

/-- The `p` with `10 ^ (p - 1) ≤ n / d < 10 ^ p`, for a positive quotient. -/
def decimalSize (n d : Nat) : Int :=
  if d ≤ n then decimalDigits (n / d)
  else
    let size := decimalDigits (d / n)
    if d = n * Nat.pow 10 (size - 1) then 2 - size else 1 - size

/-- The decimals that read back as the number `mantissa · 2 ^ exponent`, in quarters of its last place: from `low` to
`high`, both included if the mantissa is even. Just above a power of two the next number below is half as far away. -/
structure RoundingInterval where
  low : Nat
  value : Nat
  high : Nat
  closed : Bool

/-- The interval of the decimals that read back. -/
def roundingInterval (mantissa : Nat) (exponent : Int) : RoundingInterval where
  low := if mantissa = Nat.pow 2 (precision - 1) ∧ minExponent < exponent then 4 * mantissa - 1 else 4 * mantissa - 2
  value := 4 * mantissa
  high := 4 * mantissa + 2
  closed := mantissa % 2 = 0

/-- Whether `n / d` lies in the interval. -/
def RoundingInterval.contains (i : RoundingInterval) (n d : Nat) : Bool :=
  if i.closed then i.low * d ≤ n && n ≤ i.high * d else i.low * d < n && n < i.high * d

/-- Of the two neighbours of the value on the grid of multiples of `10 ^ k`, the nearer one that reads back; `unit` is
the exponent of the interval's quarters. A tie goes to the even neighbour. -/
def RoundingInterval.onGrid? (i : RoundingInterval) (unit k : Int) : Option Nat :=
  -- a grid point `c` is the quotient `c · 10 ^ k / 2 ^ unit` of quarters
  let (gn, gd) := scaled 10 1 1 (-k)
  let (n, d) := scaled 2 gn gd unit
  let below := i.value * d / n
  let reads := fun c : Nat => i.contains (c * n) d
  let downError := i.value * d - below * n
  let upError := (below + 1) * n - i.value * d
  if reads below && reads (below + 1) then
    some (if downError < upError then below
      else if upError < downError then below + 1
      else if below % 2 = 0 then below else below + 1)
  else if reads below then some below
  else if reads (below + 1) then some (below + 1)
  else none

/-- The fewest digits that read back as `mantissa · 2 ^ exponent`, for a positive mantissa; of the decimals with that
many digits, the nearest. Seventeen digits always read back. -/
def shortest (mantissa : Nat) (exponent : Int) : Decimal :=
  let (n, d) := ratio mantissa exponent
  let size := decimalSize n d
  let interval := roundingInterval mantissa exponent
  let found := (List.range 17).findSome? fun i =>
    let k : Int := size - (i + 1 : Nat)
    (interval.onGrid? (exponent - 2) k).map fun c => (⟨c, k⟩ : Decimal)
  (found.getD ⟨0, 0⟩).trim

/-- The decimal with `count` significant digits nearest to `mantissa · 2 ^ exponent`, for a positive mantissa; a tie
goes to the even digit, and zeros at the end are dropped. -/
def significant (count : Nat) (mantissa : Nat) (exponent : Int) : Decimal :=
  let (n, d) := ratio mantissa exponent
  let k := decimalSize n d - count
  let (n', d') := scaled 10 n d k
  Decimal.trim ⟨nearest n' d', k⟩

end Number

end MediaLanguage
