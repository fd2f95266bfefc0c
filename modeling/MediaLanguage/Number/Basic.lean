/-!
# Numbers

The numbers of the language are binary floating-point numbers of 64 bits, held exactly: a sign, a natural mantissa
and a power of two. A literal that is too large reads as an infinity, and only a conversion to an integer fails on
it.

* `Number.ofRatio` rounds an exact quotient to the nearest number, a tie to the even mantissa.
* `Number.truncate` drops the fraction, and fails on an infinity and on not-a-number.
-/

namespace MediaLanguage

/-- A binary64 number. -/
inductive Number where
  /-- `mantissa · 2 ^ exponent`, below zero if `negative`. -/
  | finite (negative : Bool) (mantissa : Nat) (exponent : Int)
  /-- An infinity. -/
  | infinite (negative : Bool)
  /-- Not a number. -/
  | nan
deriving DecidableEq, Inhabited

/-- Why a number has no integer part. -/
inductive ConversionError where
  | infinity
  | notANumber
deriving DecidableEq

/-- The wording of a failed conversion. -/
def ConversionError.message : ConversionError → String
  | .infinity => "cannot convert float infinity to integer"
  | .notANumber => "cannot convert float NaN to integer"

namespace Number

/-! ## Rounding -/

/-- The natural number nearest to `n / d`; a tie goes to the even neighbour. -/
def nearest (n d : Nat) : Nat :=
  let q := n / d
  let r := n % d
  if 2 * r < d then q
  else if d < 2 * r then q + 1
  else if q % 2 = 0 then q
  else q + 1

/-- The quotient `n / d` divided by `b ^ e`, again as a quotient of naturals. -/
def scaled (b : Nat) (n d : Nat) (e : Int) : Nat × Nat :=
  if 0 ≤ e then (n, d * b.pow e.toNat) else (n * b.pow (-e).toNat, d)

/-- The exponent of the smallest numbers. -/
def minExponent : Int := -1074

/-- The exponent of the largest numbers. -/
def maxExponent : Int := 971

/-- Number of bits of a mantissa. -/
def precision : Nat := 53

/-- Zero. -/
def zero : Number := .finite false 0 minExponent

/-- The exponent with which `n / d` has a mantissa of full precision, or the least exponent if that is larger. -/
def exponentOf (n d : Nat) : Int :=
  let e : Int := (Nat.log2 n : Int) - Nat.log2 d - precision
  let (n', d') := scaled 2 n d e
  max minExponent (if n' / d' < Nat.pow 2 precision then e else e + 1)

/-- The number nearest to `n / d`, with the given sign; a tie goes to the even mantissa. -/
def ofRatio (negative : Bool) (n d : Nat) : Number :=
  if n = 0 then .finite negative 0 minExponent
  else
    let e := exponentOf n d
    let (n', d') := scaled 2 n d e
    let m := nearest n' d'
    let (m, e) := if m = Nat.pow 2 precision then (Nat.pow 2 (precision - 1), e + 1) else (m, e)
    if maxExponent < e then .infinite negative else .finite negative m e

/-- How many decimal digits `n` has. -/
def decimalDigits (n : Nat) : Nat :=
  (Nat.toDigits 10 n).length

/-- The number nearest to `digits · 10 ^ scale`, with the given sign. Decimals far outside the range of the numbers
are infinities and zeros, whatever their digits. -/
def ofDecimal (negative : Bool) (digits : Nat) (scale : Int) : Number :=
  let size := (decimalDigits digits : Int) + scale
  if digits = 0 || size < -400 then .finite negative 0 minExponent
  else if 400 < size then .infinite negative
  else
    let (n, d) := scaled 10 digits 1 (-scale)
    ofRatio negative n d

/-- A natural number, rounded to a number. -/
def ofNat (n : Nat) : Number :=
  ofRatio false n 1

/-! ## Properties and conversions -/

/-- Neither an infinity nor not-a-number. -/
def isFinite : Number → Bool
  | .finite .. => true
  | _ => false

/-- Equal to zero, of either sign. -/
def isZero : Number → Bool
  | .finite _ m _ => m == 0
  | _ => false

/-- The absolute value of a finite number as a quotient. -/
def ratio (mantissa : Nat) (exponent : Int) : Nat × Nat :=
  scaled 2 mantissa 1 (-exponent)

/-- The integer part: the fraction is dropped. What is no finite number counts as zero. -/
def integerPart : Number → Int
  | .finite negative m e =>
    let (n, d) := ratio m e
    let k : Int := (n / d : Nat)
    if negative then -k else k
  | _ => 0

/-- Why a number has no integer part. -/
def conversionError? : Number → Option ConversionError
  | .finite .. => none
  | .infinite _ => some .infinity
  | .nan => some .notANumber

/-- The integer part, or why there is none. -/
def truncate (x : Number) : Except ConversionError Int :=
  match x.conversionError? with
  | none => .ok x.integerPart
  | some e => .error e

/-- Succeeds if all the numbers have integer parts, and otherwise tells why the first that has none has none. -/
def requireIntegers (xs : List Number) : Except ConversionError Unit :=
  match xs.findSome? conversionError? with
  | none => .ok ()
  | some e => .error e

/-- The integer that a number is, if it is one. -/
def toInt? : Number → Option Int
  | .finite negative m e =>
    let (n, d) := ratio m e
    let k : Int := (n / d : Nat)
    if n % d = 0 then some (if negative then -k else k) else none
  | _ => none

end Number

end MediaLanguage
