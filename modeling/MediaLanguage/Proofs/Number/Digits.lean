import Mathlib.Algebra.Order.Field.Rat
import Mathlib.Algebra.Order.Field.Power
import Mathlib.Data.Nat.Digits.Defs
import Mathlib.Tactic.Linarith
import Mathlib.Tactic.Positivity
import Mathlib.Tactic.FieldSimp
import Mathlib.Tactic.Ring
import MediaLanguage.Number.Decimal

/-!
# The digits that are chosen for a number

Quotients of naturals are compared as rationals. Zeros at the end of a decimal can be dropped without a change of its
value or of the place of its point.

* `trim_spec`: what is left of a decimal without the zeros at its end.
* `decimalSize_spec`: the size of a quotient in powers of ten.
* `rounded_bounds` and `rounded_of_natural`: a number rounded to some digits has that many of them, and a natural number
  with few digits is not rounded.
* `abs_shortest_sub_le`: the shortest digits are at most half a unit of the last place away.
* `shortest_eq_significant_iff`: when rounding to six digits gives the shortest ones.
-/

namespace MediaLanguage

open Number

/-! ## Digits of naturals -/

section Naturals

variable {n z : Nat}

theorem decimalDigits_pos : 0 < decimalDigits n :=
  Nat.length_toDigits_pos

theorem decimalDigits_le_iff {k : Nat} (hk : 0 < k) : decimalDigits n ≤ k ↔ n < 10 ^ k :=
  Nat.length_toDigits_le_iff (by decide) hk

theorem lt_pow_decimalDigits : n < 10 ^ decimalDigits n :=
  (decimalDigits_le_iff decimalDigits_pos).1 le_rfl

theorem pow_le_of_lt_decimalDigits {k : Nat} (h : k < decimalDigits n) (hn : n ≠ 0) : 10 ^ k ≤ n := by
  cases k with
  | zero => exact Nat.one_le_iff_ne_zero.2 hn
  | succ k =>
    by_contra hlt
    exact absurd ((decimalDigits_le_iff (Nat.succ_pos k)).2 (not_le.1 hlt)) (not_le.2 h)

/-- The powers of ten around a number. -/
theorem exists_decimalDigits_eq (hn : n ≠ 0) : ∃ k, decimalDigits n = k + 1 ∧ 10 ^ k ≤ n ∧ n < 10 ^ (k + 1) := by
  obtain ⟨k, hk⟩ := Nat.exists_eq_succ_of_ne_zero (decimalDigits_pos (n := n)).ne'
  refine ⟨k, hk, pow_le_of_lt_decimalDigits (by omega) hn, ?_⟩
  rw [← Nat.succ_eq_add_one, ← hk]
  exact lt_pow_decimalDigits

/-- A number with zeros at its end. -/
theorem toDigits_mul_pow (hn : n ≠ 0) : Nat.toDigits 10 (n * 10 ^ z) = Nat.toDigits 10 n ++ List.replicate z '0' := by
  induction z with
  | zero => simp
  | succ z ih =>
    have hle : 10 ≤ n * 10 ^ (z + 1) := by
      rw [pow_succ, ← mul_assoc]
      exact Nat.le_mul_of_pos_left 10 (by positivity)
    rw [Nat.toDigits_of_base_le (by decide) hle, pow_succ, ← mul_assoc, Nat.mul_div_cancel _ (by decide),
      Nat.mul_mod_left, ih, List.replicate_succ', List.append_assoc]
    rfl

theorem decimalDigits_mul_pow (hn : n ≠ 0) : decimalDigits (n * 10 ^ z) = decimalDigits n + z := by
  rw [decimalDigits, toDigits_mul_pow hn, List.length_append, List.length_replicate, decimalDigits]

end Naturals

/-! ## Zeros at the end -/

namespace Decimal

variable {x : Decimal}

/-- How many digits stand in front of the point; below zero, how many zeros follow it. -/
def place (x : Decimal) : Int :=
  x.exponent + decimalDigits x.digits

/-- The value of a decimal. -/
def value (x : Decimal) : ℚ :=
  x.digits * 10 ^ x.exponent

/-- Dropping zeros leaves digits that do not end in one. -/
theorem trimWithin_spec {fuel : Nat} (hx : x.digits ≠ 0) (hfuel : x.digits < 10 ^ fuel) :
    ∃ z : Nat, x.digits = (x.trimWithin fuel).digits * 10 ^ z ∧
      (x.trimWithin fuel).exponent = x.exponent + z ∧ (x.trimWithin fuel).digits % 10 ≠ 0 := by
  induction fuel generalizing x with
  | zero => omega
  | succ fuel ih =>
    rw [trimWithin]
    by_cases hzero : x.digits % 10 = 0
    · have hdigits : x.digits / 10 * 10 = x.digits := Nat.div_mul_cancel (Nat.dvd_of_mod_eq_zero hzero)
      rw [if_pos ⟨hx, hzero⟩]
      obtain ⟨z, hvalue, hexponent, hend⟩ := ih (x := ⟨x.digits / 10, x.exponent + 1⟩) (by dsimp only; omega)
        (by dsimp only; rw [pow_succ] at hfuel; omega)
      refine ⟨z + 1, ?_, ?_, hend⟩
      · rw [pow_succ, ← mul_assoc, ← hvalue]
        exact hdigits.symm
      · rw [hexponent]
        push_cast
        ring
    · rw [if_neg fun h => hzero h.2]
      exact ⟨0, by simp, by simp, hzero⟩

theorem trim_spec (hx : x.digits ≠ 0) : ∃ z : Nat, x.digits = x.trim.digits * 10 ^ z ∧
    x.trim.exponent = x.exponent + z ∧ x.trim.digits % 10 ≠ 0 :=
  trimWithin_spec hx lt_pow_decimalDigits

theorem trim_digits_mod (hx : x.digits ≠ 0) : x.trim.digits % 10 ≠ 0 := by
  obtain ⟨z, -, -, hend⟩ := trim_spec hx
  exact hend

/-- The point stays where it is. -/
theorem place_trim (hx : x.digits ≠ 0) : x.trim.place = x.place := by
  obtain ⟨z, hdigits, hexponent, hend⟩ := trim_spec hx
  have hne : x.trim.digits ≠ 0 := fun h => hend (by rw [h])
  rw [place, place, hexponent, hdigits, decimalDigits_mul_pow hne]
  push_cast
  ring

/-- The digits that are left are those without zeros at the end. -/
theorem trim_mul_pow {t z : Nat} {k : Int} (ht : t % 10 ≠ 0) : Decimal.trim ⟨t * 10 ^ z, k⟩ = ⟨t, k + z⟩ := by
  have hne : t * 10 ^ z ≠ 0 := Nat.mul_ne_zero (fun h => ht (by rw [h])) (Nat.pow_pos (by decide)).ne'
  obtain ⟨w, hdigits, hexponent, hend⟩ := trim_spec (x := ⟨t * 10 ^ z, k⟩) hne
  generalize Decimal.trim ⟨t * 10 ^ z, k⟩ = x at hdigits hexponent hend ⊢
  obtain ⟨digits, exponent⟩ := x
  dsimp only at hdigits hexponent hend
  have hmultiple : ∀ {a b c d : Nat}, a * 10 ^ c = b * 10 ^ d → a % 10 ≠ 0 → d ≤ c := by
    intro a b c d h ha
    by_contra hlt
    obtain ⟨i, rfl⟩ := Nat.exists_eq_add_of_lt (not_le.1 hlt)
    rw [show c + i + 1 = i + 1 + c by omega, pow_add, ← mul_assoc] at h
    rw [Nat.eq_of_mul_eq_mul_right (Nat.pow_pos (by decide)) h, pow_succ, ← mul_assoc, Nat.mul_mod_left] at ha
    exact ha rfl
  obtain rfl : z = w := le_antisymm (hmultiple hdigits.symm hend) (hmultiple hdigits ht)
  rw [hexponent, Nat.eq_of_mul_eq_mul_right (Nat.pow_pos (by decide)) hdigits]

/-- The value stays the same. -/
theorem value_trim (hx : x.digits ≠ 0) : x.trim.value = x.value := by
  obtain ⟨z, hdigits, hexponent, -⟩ := trim_spec hx
  rw [value, value, hexponent, hdigits, zpow_add₀ (by norm_num), zpow_natCast]
  push_cast
  ring

end Decimal

/-! ## Quotients -/

namespace Number

section Quotients

variable {n d : Nat}

/-- A scaled quotient keeps a positive denominator. -/
theorem scaled_pos {b : Nat} (hb : 0 < b) (hd : 0 < d) (e : Int) : 0 < (scaled b n d e).2 := by
  have hpow : ∀ k : Nat, 0 < b.pow k := fun k => Nat.pow_pos hb
  rw [scaled]
  split
  · exact Nat.mul_pos hd (hpow _)
  · exact hd

/-- A scaled quotient is the quotient divided by the power. -/
theorem scaled_eq {b : Nat} (hb : 0 < b) (n d : Nat) (e : Int) :
    ((scaled b n d e).1 : ℚ) / (scaled b n d e).2 = (n : ℚ) / d / (b : ℚ) ^ e := by
  have hne : (b : ℚ) ≠ 0 := by positivity
  rw [scaled]
  split
  · next he =>
    obtain ⟨k, rfl⟩ := Int.eq_ofNat_of_zero_le he
    simp only [Int.toNat_natCast, Nat.pow_eq, Nat.cast_mul, Nat.cast_pow, zpow_natCast]
    rw [div_div]
  · next he =>
    obtain ⟨k, hk⟩ := Int.eq_ofNat_of_zero_le (show 0 ≤ -e by omega)
    rw [hk, show e = -(k : Int) by omega]
    simp only [Int.toNat_natCast, Nat.pow_eq, Nat.cast_mul, Nat.cast_pow, zpow_neg, zpow_natCast]
    field_simp

/-- The quotient of a number is its value. -/
theorem ratio_eq (m : Nat) (e : Int) : ((ratio m e).1 : ℚ) / (ratio m e).2 = m * 2 ^ e := by
  rw [ratio, scaled_eq (by decide), Nat.cast_one, div_one, zpow_neg, div_inv_eq_mul]
  norm_num

theorem ratio_pos (m : Nat) (e : Int) : 0 < (ratio m e).2 :=
  scaled_pos (by decide) Nat.one_pos _

theorem ratio_fst_pos {m : Nat} (hm : m ≠ 0) (e : Int) : 0 < (ratio m e).1 := by
  have hpow : ∀ k : Nat, 0 < Nat.pow 2 k := fun k => Nat.pow_pos (by decide)
  rw [ratio, scaled]
  split
  · exact Nat.pos_of_ne_zero hm
  · exact Nat.mul_pos (Nat.pos_of_ne_zero hm) (hpow _)

/-- The size of a positive quotient in powers of ten. -/
theorem decimalSize_spec (hn : 0 < n) (hd : 0 < d) :
    (10 : ℚ) ^ (decimalSize n d - 1) ≤ n / d ∧ (n / d : ℚ) < 10 ^ decimalSize n d := by
  have hdq : (0 : ℚ) < d := by exact_mod_cast hd
  have hnq : (0 : ℚ) < n := by exact_mod_cast hn
  rw [decimalSize]
  split
  · next hle =>
    obtain ⟨k, hk, hlow, hhigh⟩ := exists_decimalDigits_eq (Nat.div_pos hle hd).ne'
    rw [hk, show ((k + 1 : Nat) : Int) - 1 = (k : Nat) by push_cast; ring, zpow_natCast, zpow_natCast,
      le_div_iff₀ hdq, div_lt_iff₀ hdq]
    constructor
    · exact_mod_cast (Nat.le_div_iff_mul_le hd).1 hlow
    · exact_mod_cast (Nat.div_lt_iff_lt_mul hd).1 hhigh
  · next hlt =>
    obtain ⟨k, hk, hlow, hhigh⟩ := exists_decimalDigits_eq (Nat.div_pos (by omega) hn).ne' (n := d / n)
    have hlow' : n * 10 ^ k ≤ d := by rw [mul_comm]; exact (Nat.le_div_iff_mul_le hn).1 hlow
    have hhigh' : d < n * 10 ^ (k + 1) := by rw [mul_comm]; exact (Nat.div_lt_iff_lt_mul hn).1 hhigh
    dsimp only
    rw [hk, Nat.add_sub_cancel, Nat.pow_eq]
    split
    · next heq =>
      have hq : (n / d : ℚ) = 10 ^ (-(k : Int)) := by
        rw [heq, zpow_neg, zpow_natCast]
        push_cast
        field_simp
      rw [hq]
      constructor
      · exact zpow_le_zpow_right₀ (by norm_num) (by push_cast; omega)
      · exact zpow_lt_zpow_right₀ (by norm_num) (by push_cast; omega)
    · next hne =>
      have hlt' : n * 10 ^ k < d := lt_of_le_of_ne hlow' (Ne.symm hne)
      have hpow : (0 : ℚ) < 10 ^ k := by positivity
      rw [show 1 - ((k + 1 : Nat) : Int) - 1 = -((k + 1 : Nat) : Int) by push_cast; ring,
        show 1 - ((k + 1 : Nat) : Int) = -(k : Int) by push_cast; ring, zpow_neg, zpow_neg, zpow_natCast,
        zpow_natCast, le_div_iff₀ hdq, div_lt_iff₀ hdq, inv_mul_le_iff₀ (by positivity), ← div_eq_inv_mul,
        lt_div_iff₀ hpow]
      constructor
      · rw [mul_comm]
        exact_mod_cast hhigh'.le
      · exact_mod_cast hlt'

/-- The nearest natural is one of the neighbours. -/
theorem nearest_bounds (n d : Nat) : n / d ≤ nearest n d ∧ nearest n d ≤ n / d + 1 := by
  unfold nearest
  dsimp only
  split
  · omega
  · split
    · omega
    · split <;> omega

/-- What is less than a half away is the nearest natural. -/
theorem nearest_eq {q : Nat} (hlow : 2 * (q * d) < 2 * n + d) (hhigh : 2 * n < 2 * (q * d) + d) : nearest n d = q := by
  have hn := Nat.div_add_mod' n d
  have hr := Nat.mod_lt n (show 0 < d by omega)
  unfold nearest
  dsimp only
  generalize n / d = k at hn ⊢
  generalize n % d = r at hn hr ⊢
  obtain hlt | rfl | hlt := lt_trichotomy k q
  · have hnext : (k + 1) * d ≤ q * d := Nat.mul_le_mul_right d hlt
    have hq : q = k + 1 := by
      by_contra hne
      have hfar : (k + 2) * d ≤ q * d := Nat.mul_le_mul_right d (by omega)
      rw [Nat.add_mul] at hfar
      omega
    rw [Nat.add_mul] at hnext
    rw [if_neg (by omega), if_pos (by omega), hq]
  · rw [if_pos (by omega)]
  · have hbefore : (q + 1) * d ≤ k * d := Nat.mul_le_mul_right d hlt
    rw [Nat.add_mul] at hbefore
    omega

theorem nearest_mul (q : Nat) (hd : 0 < d) : nearest (q * d) d = q :=
  nearest_eq (by omega) (by omega)

end Quotients

/-! ## A fixed count of digits -/

/-- The size of a number in powers of ten. -/
def size (m : Nat) (e : Int) : Int :=
  decimalSize (ratio m e).1 (ratio m e).2

/-- A number rounded to some significant digits, which may end in zeros. -/
def rounded (count m : Nat) (e : Int) : Decimal where
  digits := nearest (scaled 10 (ratio m e).1 (ratio m e).2 (size m e - count)).1
    (scaled 10 (ratio m e).1 (ratio m e).2 (size m e - count)).2
  exponent := size m e - count

section Significant

variable {count m : Nat} {e : Int}

theorem significant_eq_trim : significant count m e = (rounded count m e).trim :=
  rfl

/-- The size of a number. -/
theorem size_spec (hm : m ≠ 0) : (10 : ℚ) ^ (size m e - 1) ≤ m * 2 ^ e ∧ (m * 2 ^ e : ℚ) < 10 ^ size m e := by
  rw [← ratio_eq]
  exact decimalSize_spec (ratio_fst_pos hm e) (ratio_pos m e)

/-- A number rounded to some digits has that many of them, or is the next power of ten. -/
theorem rounded_bounds (hm : m ≠ 0) (hcount : 0 < count) :
    10 ^ (count - 1) ≤ (rounded count m e).digits ∧ (rounded count m e).digits ≤ 10 ^ count := by
  obtain ⟨hlow, hhigh⟩ := size_spec (e := e) hm
  have hd := scaled_pos (n := (ratio m e).1) (b := 10) (by decide) (ratio_pos m e) (size m e - count)
  have hquotient := scaled_eq (b := 10) (by decide) (ratio m e).1 (ratio m e).2 (size m e - count)
  rw [ratio_eq] at hquotient
  unfold rounded
  dsimp only
  generalize scaled 10 (ratio m e).1 (ratio m e).2 (size m e - count) = q at hd hquotient ⊢
  have hdq : (0 : ℚ) < q.2 := by exact_mod_cast hd
  have hpow : (0 : ℚ) < 10 ^ (size m e - count) := by positivity
  have hlow' : 10 ^ (count - 1) ≤ q.1 / q.2 := by
    rw [Nat.le_div_iff_mul_le hd]
    have : (10 : ℚ) ^ (count - 1) ≤ q.1 / q.2 := by
      rw [hquotient, le_div_iff₀ (by exact_mod_cast hpow), ← zpow_natCast]
      refine le_trans (le_of_eq ?_) hlow
      push_cast
      rw [← zpow_add₀ (by norm_num)]
      congr 1
      omega
    rw [le_div_iff₀ hdq] at this
    exact_mod_cast this
  have hhigh' : q.1 / q.2 < 10 ^ count := by
    rw [Nat.div_lt_iff_lt_mul hd]
    have : (q.1 / q.2 : ℚ) < 10 ^ count := by
      rw [hquotient, div_lt_iff₀ (by exact_mod_cast hpow), ← zpow_natCast]
      refine lt_of_lt_of_le hhigh (le_of_eq ?_)
      push_cast
      rw [← zpow_add₀ (by norm_num)]
      congr 1
      omega
    rw [div_lt_iff₀ hdq] at this
    exact_mod_cast this
  obtain ⟨hbelow, habove⟩ := nearest_bounds q.1 q.2
  exact ⟨hlow'.trans hbelow, habove.trans hhigh'⟩

theorem rounded_ne_zero (hm : m ≠ 0) (hcount : 0 < count) : (rounded count m e).digits ≠ 0 := by
  have hlow := (rounded_bounds (e := e) hm hcount).1
  have hpow : 0 < 10 ^ (count - 1) := Nat.pow_pos (by decide)
  omega

/-- A number rounded to some digits has at most that many. -/
theorem significant_digits_lt (hm : m ≠ 0) (hcount : 0 < count) : (significant count m e).digits < 10 ^ count := by
  obtain ⟨z, hdigits, -, hend⟩ := Decimal.trim_spec (rounded_ne_zero (e := e) hm hcount)
  have hbound := (rounded_bounds (e := e) hm hcount).2
  rw [significant_eq_trim]
  refine lt_of_le_of_ne ((Nat.le_mul_of_pos_right _ (Nat.pow_pos (by decide))).trans (hdigits ▸ hbound)) fun heq => ?_
  obtain ⟨k, rfl⟩ := Nat.exists_eq_succ_of_ne_zero hcount.ne'
  exact hend (by rw [heq, pow_succ, Nat.mul_mod_left])

theorem significant_digits_mod (hm : m ≠ 0) (hcount : 0 < count) : (significant count m e).digits % 10 ≠ 0 :=
  Decimal.trim_digits_mod (rounded_ne_zero hm hcount)

/-- Rounding does not make a number smaller by a digit. -/
theorem size_le_place (hm : m ≠ 0) (hcount : 0 < count) : size m e ≤ (significant count m e).place := by
  have hlow := (rounded_bounds (e := e) hm hcount).1
  have hdigits : count ≤ decimalDigits (rounded count m e).digits := by
    by_contra hlt
    have hcount' : 0 < count - 1 := by
      have := decimalDigits_pos (n := (rounded count m e).digits)
      omega
    exact absurd hlow (not_le.2 ((decimalDigits_le_iff hcount').1 (by omega)))
  rw [significant_eq_trim, Decimal.place_trim (rounded_ne_zero hm hcount), Decimal.place]
  show _ ≤ size m e - count + _
  omega

/-- The size of a natural number. -/
theorem size_of_natural {k : Nat} (hk : k ≠ 0) (hvalue : (ratio m e).1 = k * (ratio m e).2) :
    size m e = decimalDigits k := by
  have hle : (ratio m e).2 ≤ (ratio m e).1 := by
    rw [hvalue]
    exact Nat.le_mul_of_pos_left _ (Nat.pos_of_ne_zero hk)
  rw [size, decimalSize, if_pos hle, hvalue, Nat.mul_div_cancel _ (ratio_pos m e)]

/-- A natural number with few digits is not rounded. -/
theorem rounded_of_natural {k : Nat} (hk : k ≠ 0) (hvalue : (ratio m e).1 = k * (ratio m e).2)
    (hcount : decimalDigits k ≤ count) :
    rounded count m e = ⟨k * 10 ^ (count - decimalDigits k), (decimalDigits k : Int) - count⟩ := by
  have hd := ratio_pos m e
  rw [rounded, size_of_natural hk hvalue, hvalue, scaled]
  split
  · next h =>
    obtain rfl : count = decimalDigits k := by omega
    simp [nearest_mul _ hd]
  · next h =>
    rw [show (-((decimalDigits k : Int) - count)).toNat = count - decimalDigits k by omega, Nat.pow_eq]
    simp only [mul_right_comm k, nearest_mul _ hd]

/-- So its digits are its own, without the zeros at the end. -/
theorem significant_of_natural {k : Nat} (hk : k ≠ 0) (hvalue : (ratio m e).1 = k * (ratio m e).2)
    (hcount : decimalDigits k ≤ count) : significant count m e = Decimal.trim ⟨k, 0⟩ := by
  obtain ⟨z, hdigits, hexponent, hend⟩ := Decimal.trim_spec (x := ⟨k, 0⟩) hk
  rw [significant_eq_trim, rounded_of_natural hk hvalue hcount]
  generalize Decimal.trim ⟨k, 0⟩ = x at hdigits hexponent hend ⊢
  obtain ⟨digits, exponent⟩ := x
  dsimp only at hdigits hexponent hend
  have hzeros : k * 10 ^ (count - decimalDigits k) = digits * 10 ^ (z + (count - decimalDigits k)) := by
    rw [pow_add, ← mul_assoc, ← hdigits]
  rw [hzeros, Decimal.trim_mul_pow hend, hexponent, Decimal.mk.injEq]
  exact ⟨rfl, by push_cast [hcount]; ring⟩

end Significant

/-! ## The fewest digits -/

section Shortest

variable {m : Nat} {e : Int}

/-- A point of a grid that is chosen lies in the interval. -/
theorem RoundingInterval.onGrid?_spec {i : RoundingInterval} {unit k : Int} {c : Nat}
    (h : i.onGrid? unit k = some c) :
    (i.low : ℚ) ≤ c * (10 ^ k / 2 ^ unit) ∧ (c * (10 ^ k / 2 ^ unit) : ℚ) ≤ i.high := by
  have hgrid := scaled_pos (n := 1) (b := 10) (by decide) Nat.one_pos (-k)
  have hd := scaled_pos (n := (scaled 10 1 1 (-k)).1) (b := 2) (by decide) hgrid unit
  have hquotient := scaled_eq (b := 2) (by decide) (scaled 10 1 1 (-k)).1 (scaled 10 1 1 (-k)).2 unit
  have hten : ((scaled 10 1 1 (-k)).1 : ℚ) / (scaled 10 1 1 (-k)).2 = 10 ^ k := by
    rw [scaled_eq (by decide), Nat.cast_one, div_one, one_div, zpow_neg, inv_inv]
    norm_num
  rw [hten] at hquotient
  have hcontains : i.contains (c * (scaled 2 (scaled 10 1 1 (-k)).1 (scaled 10 1 1 (-k)).2 unit).1)
      (scaled 2 (scaled 10 1 1 (-k)).1 (scaled 10 1 1 (-k)).2 unit).2 = true := by
    unfold onGrid? at h
    dsimp only at h
    grind
  generalize scaled 2 (scaled 10 1 1 (-k)).1 (scaled 10 1 1 (-k)).2 unit = q at hd hquotient hcontains
  have hdq : (0 : ℚ) < q.2 := by exact_mod_cast hd
  have hbounds : i.low * q.2 ≤ c * q.1 ∧ c * q.1 ≤ i.high * q.2 := by
    unfold contains at hcontains
    split at hcontains
    · simpa using hcontains
    · have hstrict : i.low * q.2 < c * q.1 ∧ c * q.1 < i.high * q.2 := by simpa using hcontains
      exact ⟨hstrict.1.le, hstrict.2.le⟩
  have hvalue : (c * (10 ^ k / 2 ^ unit) : ℚ) = (c * q.1 : Nat) / (q.2 : Nat) := by
    push_cast
    rw [mul_div_assoc, hquotient]
    norm_num
  rw [hvalue, le_div_iff₀ hdq, div_le_iff₀ hdq]
  exact ⟨by exact_mod_cast hbounds.1, by exact_mod_cast hbounds.2⟩

/-- The interval of a number reaches at most half a unit of the last place to each side. -/
theorem roundingInterval_bounds (hm : m ≠ 0) :
    (4 * m - 2 : ℚ) ≤ (roundingInterval m e).low ∧ ((roundingInterval m e).high : ℚ) = 4 * m + 2 := by
  unfold roundingInterval
  dsimp only
  refine ⟨?_, by push_cast; ring⟩
  split
  · rw [Nat.cast_sub (by omega)]
    push_cast
    linarith
  · rw [Nat.cast_sub (by omega)]
    push_cast
    linarith

/-- A point of a grid in the interval of a number is at most half a unit of the last place away from the number, so it
is not zero. -/
theorem onGrid?_near (hm : m ≠ 0) {k : Int} {c : Nat} (h : (roundingInterval m e).onGrid? (e - 2) k = some c) :
    |(c * 10 ^ k : ℚ) - m * 2 ^ e| ≤ 2 ^ (e - 1) ∧ c ≠ 0 := by
  obtain ⟨hlow, hhigh⟩ := RoundingInterval.onGrid?_spec h
  obtain ⟨hlow', hhigh'⟩ := roundingInterval_bounds (e := e) hm
  have hunit : (0 : ℚ) < 2 ^ (e - 2) := by positivity
  have hlast : (2 : ℚ) ^ e = 2 ^ (e - 2) * 4 := by
    rw [show e = (e - 2) + 2 by ring, zpow_add₀ (by norm_num)]
    norm_num
  have hhalf : (2 : ℚ) ^ (e - 1) = 2 ^ (e - 2) * 2 := by
    rw [show e - 1 = (e - 2) + 1 by ring, zpow_add₀ (by norm_num)]
    norm_num
  have hvalue : (c * 10 ^ k : ℚ) = c * (10 ^ k / 2 ^ (e - 2)) * 2 ^ (e - 2) := by field_simp
  constructor
  · rw [hvalue, hlast, hhalf, abs_le]
    constructor <;> nlinarith
  · rintro rfl
    have hone : (1 : ℚ) ≤ m := by exact_mod_cast Nat.one_le_iff_ne_zero.2 hm
    rw [Nat.cast_zero, zero_mul] at hlow
    linarith

/-- The shortest digits are found on a grid, if they are found. -/
theorem shortest_cases (hm : m ≠ 0) : shortest m e = ⟨0, 0⟩ ∨ ∃ (k : Int) (c : Nat), c ≠ 0 ∧
    |(c * 10 ^ k : ℚ) - m * 2 ^ e| ≤ 2 ^ (e - 1) ∧ shortest m e = Decimal.trim ⟨c, k⟩ := by
  have hshortest : shortest m e = Decimal.trim (((List.range 17).findSome? fun i =>
      ((roundingInterval m e).onGrid? (e - 2) (size m e - (i + 1 : Nat))).map fun c =>
        (⟨c, size m e - (i + 1 : Nat)⟩ : Decimal)).getD ⟨0, 0⟩) := rfl
  cases hfound : (List.range 17).findSome? fun i =>
      ((roundingInterval m e).onGrid? (e - 2) (size m e - (i + 1 : Nat))).map fun c =>
        (⟨c, size m e - (i + 1 : Nat)⟩ : Decimal) with
  | none =>
    rw [hshortest, hfound]
    exact Or.inl rfl
  | some x =>
    obtain ⟨i, -, hi⟩ := List.exists_of_findSome?_eq_some hfound
    obtain ⟨c, hc, rfl⟩ := Option.map_eq_some_iff.1 hi
    obtain ⟨hnear, hne⟩ := onGrid?_near hm hc
    exact Or.inr ⟨_, c, hne, hnear, by rw [hshortest, hfound]; rfl⟩

/-- The shortest digits, if they are found, do not end in zero. -/
theorem shortest_digits_mod (hm : m ≠ 0) (h : (shortest m e).digits ≠ 0) : (shortest m e).digits % 10 ≠ 0 := by
  obtain hzero | ⟨k, c, hne, -, hshortest⟩ := shortest_cases (e := e) hm
  · rw [hzero] at h
    exact absurd rfl h
  · rw [hshortest]
    exact Decimal.trim_digits_mod hne

/-- Digits that are not found are a whole zero. -/
theorem shortest_of_digits_eq_zero (hm : m ≠ 0) (h : (shortest m e).digits = 0) : shortest m e = ⟨0, 0⟩ := by
  obtain hzero | ⟨k, c, hne, -, hshortest⟩ := shortest_cases (e := e) hm
  · exact hzero
  · rw [hshortest] at h
    exact absurd (by rw [h]) (Decimal.trim_digits_mod hne)

/-- The shortest digits are at most half a unit of the last place away from the number. -/
theorem abs_shortest_sub_le (hm : m ≠ 0) (h : (shortest m e).digits ≠ 0) :
    |(shortest m e).value - m * 2 ^ e| ≤ 2 ^ (e - 1) := by
  obtain hzero | ⟨k, c, hne, hnear, hshortest⟩ := shortest_cases (e := e) hm
  · rw [hzero] at h
    exact absurd rfl h
  · rw [hshortest, Decimal.value_trim hne]
    exact hnear

/-- A number that is not whole has a digit behind the point. -/
theorem exponent_shortest_neg (hm : m ≠ 0) (h : (shortest m e).digits ≠ 0)
    (hfraction : (ratio m e).1 % (ratio m e).2 ≠ 0) : (shortest m e).exponent < 0 := by
  by_contra hwhole
  obtain ⟨k, hk⟩ := Int.eq_ofNat_of_zero_le (not_lt.1 hwhole)
  -- the exponent is below zero, so the last place of the number is a fraction `1 / 2 ^ j`
  obtain ⟨j, hj⟩ : ∃ j : Nat, e = -(j : Int) := by
    by_contra hne
    refine hfraction ?_
    rw [ratio, scaled, if_neg fun hle => hne ⟨(-e).toNat, by omega⟩]
    exact Nat.mod_one _
  have hratio : ratio m e = (m, 2 ^ j) := by
    rw [ratio, scaled, if_pos (by omega), hj]
    simp
  rw [hratio] at hfraction
  dsimp only at hfraction
  have hunit : (2 : ℚ) ^ e * 2 ^ j = 1 := by
    rw [hj, zpow_neg, zpow_natCast]
    exact inv_mul_cancel₀ (by positivity)
  have hhalf : (2 : ℚ) ^ (e - 1) * 2 ^ j = 1 / 2 := by
    rw [zpow_sub_one₀ (by norm_num), mul_right_comm, hunit]
    norm_num
  -- in such places the shortest digits are a natural number, less than one away from the mantissa
  have hnear : |(((shortest m e).digits * 10 ^ k * 2 ^ j : Nat) : ℚ) - m| ≤ 1 / 2 := by
    have hvalue : (((shortest m e).digits * 10 ^ k * 2 ^ j : Nat) : ℚ) - m =
        ((shortest m e).value - m * 2 ^ e) * 2 ^ j := by
      rw [sub_mul, mul_assoc (m : ℚ), hunit, Decimal.value, hk]
      push_cast
      rw [mul_one, zpow_natCast]
    rw [hvalue, abs_mul, abs_of_pos (by positivity : (0 : ℚ) < 2 ^ j), ← hhalf]
    exact mul_le_mul_of_nonneg_right (abs_shortest_sub_le hm h) (by positivity)
  have hdistance : |(((shortest m e).digits * 10 ^ k * 2 ^ j : Nat) : Int) - m| < 1 := by
    have hlt : |(((shortest m e).digits * 10 ^ k * 2 ^ j : Nat) : ℚ) - m| < 1 := by linarith
    exact_mod_cast hlt
  have hm' : m = (shortest m e).digits * 10 ^ k * 2 ^ j := by
    rw [Int.abs_lt_one_iff, sub_eq_zero] at hdistance
    exact_mod_cast hdistance.symm
  exact hfraction (hm' ▸ Nat.mul_mod_left _ _)

/-- A number is rounded to a decimal that is less than half a unit away. -/
theorem rounded_eq {count q : Nat} (h : |(q * 10 ^ (size m e - count) : ℚ) - m * 2 ^ e| < 10 ^ (size m e - count) / 2) :
    rounded count m e = ⟨q, size m e - count⟩ := by
  have hd := scaled_pos (n := (ratio m e).1) (b := 10) (by decide) (ratio_pos m e) (size m e - count)
  have hquotient := scaled_eq (b := 10) (by decide) (ratio m e).1 (ratio m e).2 (size m e - count)
  rw [ratio_eq] at hquotient
  rw [rounded]
  generalize scaled 10 (ratio m e).1 (ratio m e).2 (size m e - count) = r at hd hquotient ⊢
  have hdq : (0 : ℚ) < r.2 := by exact_mod_cast hd
  have hpow : (0 : ℚ) < 10 ^ (size m e - count) := by positivity
  have hvalue : (m * 2 ^ e * r.2 : ℚ) = r.1 * 10 ^ (size m e - count) := by
    rw [div_eq_div_iff hdq.ne' (by exact_mod_cast hpow.ne')] at hquotient
    push_cast at hquotient
    exact hquotient.symm
  rw [abs_lt] at h
  have hlow : (2 * (q * r.2) : ℚ) < 2 * r.1 + r.2 := by
    have hscaled := mul_lt_mul_of_pos_right h.2 hdq
    refine lt_of_mul_lt_mul_left ?_ hpow.le
    linarith
  have hhigh : (2 * r.1 : ℚ) < 2 * (q * r.2) + r.2 := by
    have hscaled := mul_lt_mul_of_pos_right h.1 hdq
    refine lt_of_mul_lt_mul_left ?_ hpow.le
    linarith
  rw [nearest_eq (by exact_mod_cast hlow) (by exact_mod_cast hhigh)]

/-- Rounding to six digits gives the shortest digits exactly if these are six at most, for a number whose last place is
small enough. -/
theorem shortest_eq_significant_iff (hm : 10 ^ 7 ≤ m) : shortest m e = significant 6 m e ↔
    (shortest m e).digits ≠ 0 ∧ (shortest m e).digits < 10 ^ 6 := by
  have hm0 : m ≠ 0 := by omega
  constructor
  · intro h
    rw [h]
    have hmod := significant_digits_mod (e := e) hm0 (show 0 < 6 by decide)
    exact ⟨fun h0 => hmod (by rw [h0]), significant_digits_lt hm0 (by decide)⟩
  · rintro ⟨hne, hlt⟩
    have hmod := shortest_digits_mod hm0 hne
    have hnear := abs_shortest_sub_le hm0 hne
    obtain ⟨hlow, hhigh⟩ := size_spec (e := e) hm0
    have hround : (10 : ℚ) ^ (size m e - 6) = 10 * 10 ^ (size m e - 7) := by
      rw [show size m e - 6 = 1 + (size m e - 7) by ring, zpow_add₀ (by norm_num), zpow_one]
    -- half a unit of the last place is less than a half of the seventh digit
    have hsmall : (2 : ℚ) ^ (e - 1) < 10 ^ (size m e - 7) / 2 := by
      have hm' : (10 : ℚ) ^ 7 ≤ m := by exact_mod_cast hm
      have hten : (10 : ℚ) ^ size m e = 10 ^ 7 * 10 ^ (size m e - 7) := by
        rw [← zpow_natCast, ← zpow_add₀ (by norm_num)]
        congr 1
        push_cast
        ring
      have hpow : (0 : ℚ) < 2 ^ e := by positivity
      rw [zpow_sub_one₀ (by norm_num)]
      nlinarith
    rw [significant_eq_trim]
    generalize shortest m e = x at hne hlt hmod hnear ⊢
    rw [Decimal.value] at hnear
    -- six digits reach down to the sixth place, as the number does not start behind it
    have hexponent : size m e - 6 ≤ x.exponent := by
      by_contra hbehind
      have hpow : (10 : ℚ) ^ x.exponent ≤ 10 ^ (size m e - 7) := zpow_le_zpow_right₀ (by norm_num) (by omega)
      have hdigits : (x.digits + 1 : ℚ) ≤ 10 ^ 6 := by exact_mod_cast hlt
      have hfirst : (10 : ℚ) ^ (size m e - 1) = 10 ^ 6 * 10 ^ (size m e - 7) := by
        rw [← zpow_natCast, ← zpow_add₀ (by norm_num)]
        congr 1
        push_cast
        ring
      have hvalue : (x.digits * 10 ^ x.exponent : ℚ) ≤ (10 ^ 6 - 1) * 10 ^ (size m e - 7) :=
        mul_le_mul (by linarith) hpow (by positivity) (by norm_num)
      have hunit : (0 : ℚ) < 10 ^ (size m e - 7) := by positivity
      linarith [(abs_le.1 hnear).1]
    obtain ⟨a, ha⟩ := Int.eq_ofNat_of_zero_le (sub_nonneg.2 hexponent)
    have hrounded : rounded 6 m e = ⟨x.digits * 10 ^ a, size m e - 6⟩ := by
      refine rounded_eq (lt_of_le_of_lt ?_ (hsmall.trans ?_))
      · push_cast
        rw [mul_assoc, ← zpow_natCast, ← zpow_add₀ (by norm_num), show (a : Int) + (size m e - 6) = x.exponent by omega]
        exact hnear
      · push_cast
        rw [hround]
        have hunit : (0 : ℚ) < 10 ^ (size m e - 7) := by positivity
        linarith
    rw [hrounded, Decimal.trim_mul_pow hmod, show size m e - 6 + (a : Int) = x.exponent by omega]

end Shortest

end Number

end MediaLanguage
