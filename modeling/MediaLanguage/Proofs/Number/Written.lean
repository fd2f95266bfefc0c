import Mathlib.Data.List.Basic
import MediaLanguage.Number.Format
import MediaLanguage.Proofs.Number.Digits

/-!
# Written decimals

A decimal is written positionally, whole or with a fraction, or with an exponent. What is written tells which form it
has and gives back the digits and the place of the point, if the digits do not end in zeros.

* `toDigits_eq_cons` and `toDigits_eq_append_singleton`: the first and the last digit of a natural number.
* `positional_injective` and `scientific_injective`: each form gives back the decimal.
* `write_general_eq_full_iff`: when two decimals are written alike, one in the layout for six digits and one in full.
-/

namespace MediaLanguage

open Number

/-! ## Digits -/

section Digits

variable {n k : Nat}

theorem isDigit_of_mem_toDigits {c : Char} (h : c ∈ Nat.toDigits 10 n) : c.isDigit :=
  Nat.isDigit_of_mem_toDigits (by decide) (by decide) h

theorem not_mem_toDigits {c : Char} (hc : c.isDigit = false) : c ∉ Nat.toDigits 10 n := by
  intro h
  rw [isDigit_of_mem_toDigits h] at hc
  cases hc

theorem toDigits_injective : Function.Injective (Nat.toDigits 10) := by
  intro n k h
  rw [← Nat.ofDigitChars_ten_toDigits (n := n), h, Nat.ofDigitChars_ten_toDigits]

/-- Small digits are no zeros. -/
theorem digitChar_ne_zero (hn : n ≠ 0) (hlt : n < 10) : n.digitChar ≠ '0' := by
  have hall : ∀ k : Fin 10, k.val ≠ 0 → k.val.digitChar ≠ '0' := by decide
  exact hall ⟨n, hlt⟩ hn

/-- The first digit of a positive number is no zero. -/
theorem toDigits_eq_cons (hn : n ≠ 0) : ∃ c cs, Nat.toDigits 10 n = c :: cs ∧ c ≠ '0' := by
  induction n using Nat.strong_induction_on with
  | _ n ih =>
    by_cases hlt : n < 10
    · exact ⟨_, [], Nat.toDigits_of_lt_base hlt, digitChar_ne_zero hn hlt⟩
    · obtain ⟨c, cs, hdigits, hc⟩ := ih (n / 10) (by omega) (by omega)
      exact ⟨c, _, by rw [Nat.toDigits_of_base_le (by decide) (by omega), hdigits, List.cons_append], hc⟩

/-- The last digit of a number that is no multiple of ten is no zero. -/
theorem toDigits_eq_append_singleton (hn : n % 10 ≠ 0) : ∃ cs c, Nat.toDigits 10 n = cs ++ [c] ∧ c ≠ '0' := by
  have hlast := digitChar_ne_zero hn (Nat.mod_lt n (by decide))
  by_cases hlt : n < 10
  · rw [Nat.mod_eq_of_lt hlt] at hlast
    exact ⟨[], _, Nat.toDigits_of_lt_base hlt, hlast⟩
  · exact ⟨_, _, Nat.toDigits_of_base_le (by decide) (not_lt.1 hlt), hlast⟩

/-- Zeros in front of a first digit that is none. -/
theorem replicate_zero_append_inj {a b : Nat} {c d : Char} {cs ds : List Char} (hc : c ≠ '0') (hd : d ≠ '0')
    (h : List.replicate a '0' ++ c :: cs = List.replicate b '0' ++ d :: ds) : a = b ∧ c :: cs = d :: ds := by
  induction a generalizing b with
  | zero =>
    cases b with
    | zero => exact ⟨rfl, h⟩
    | succ b => exact absurd (List.cons.inj h).1 hc
  | succ a ih =>
    cases b with
    | zero => exact absurd (List.cons.inj h).1.symm hd
    | succ b =>
      obtain ⟨hab, htail⟩ := ih (List.cons.inj h).2
      exact ⟨congrArg Nat.succ hab, htail⟩

/-- Zeros in front of a number do not change it. -/
theorem ofDigitChars_replicate_zero (z : Nat) :
    Nat.ofDigitChars 10 (List.replicate z '0' ++ Nat.toDigits 10 n) 0 = n := by
  induction z with
  | zero => exact Nat.ofDigitChars_ten_toDigits
  | succ z ih => simpa [List.replicate_succ, Nat.ofDigitChars_cons] using ih

end Digits

/-- The digits and the place of the point determine a decimal. -/
theorem Decimal.eq_of_toDigits_eq {x y : Decimal} (hdigits : Nat.toDigits 10 x.digits = Nat.toDigits 10 y.digits)
    (hplace : x.place = y.place) : x = y := by
  obtain ⟨digits, exponent⟩ := x
  obtain ⟨digits', exponent'⟩ := y
  obtain rfl : digits = digits' := toDigits_injective hdigits
  rw [place, place] at hplace
  rw [show exponent = exponent' by simpa using hplace]

/-! ## Positional forms -/

namespace Layout

section Positional

variable {layout other : Layout} {x y : Decimal}

/-- Nothing stands in front of the point. -/
theorem positional_of_place_nonpos (h : x.place ≤ 0) : layout.positional (Nat.toDigits 10 x.digits) x.place =
    ['0'] ++ '.' :: (List.replicate (-x.place).toNat '0' ++ Nat.toDigits 10 x.digits) := by
  rw [positional, if_pos h]
  rfl

/-- The point stands among the digits. -/
theorem positional_of_fraction (h : 0 < x.place) (hfraction : x.exponent < 0) :
    layout.positional (Nat.toDigits 10 x.digits) x.place =
      (Nat.toDigits 10 x.digits).take x.place.toNat ++ '.' :: (Nat.toDigits 10 x.digits).drop x.place.toNat := by
  have hlength : x.place.toNat < (Nat.toDigits 10 x.digits).length := by
    rw [Decimal.place, decimalDigits] at h ⊢
    omega
  rw [positional, if_neg (not_le.2 h), Nat.sub_eq_zero_of_le hlength.le, List.replicate_zero, List.append_nil]
  dsimp only
  split
  · next hnil => exact absurd (List.drop_eq_nil_iff.1 hnil) (not_le.2 hlength)
  · next hrest => rfl

/-- All digits stand in front of the point. -/
theorem positional_of_whole (hwhole : 0 ≤ x.exponent) : layout.positional (Nat.toDigits 10 x.digits) x.place =
    Nat.toDigits 10 x.digits ++ List.replicate x.exponent.toNat '0' ++
      if layout.keepsPoint then ['.', '0'] else [] := by
  have hpos := decimalDigits_pos (n := x.digits)
  have hlength : (Nat.toDigits 10 x.digits).length ≤ x.place.toNat := by
    rw [Decimal.place, decimalDigits]
    omega
  have hzeros : x.place.toNat - (Nat.toDigits 10 x.digits).length = x.exponent.toNat := by
    rw [Decimal.place, decimalDigits]
    omega
  have hplace : ¬x.place ≤ 0 := by
    rw [Decimal.place]
    omega
  rw [positional, if_neg hplace, List.take_of_length_le hlength, List.drop_of_length_le hlength, hzeros]
  dsimp only
  split
  · rfl
  · exact (List.append_nil _).symm

/-- A point is no digit. -/
theorem point_not_mem_take {n k : Nat} : '.' ∉ (Nat.toDigits 10 n).take k := fun h =>
  not_mem_toDigits rfl (List.mem_of_mem_take h)

theorem point_not_mem_drop {n k : Nat} : '.' ∉ (Nat.toDigits 10 n).drop k := fun h =>
  not_mem_toDigits rfl (List.mem_of_mem_drop h)

/-- Digits among which the point stands do not start with the zero that stands in front of a point alone. -/
theorem place_pos_of_zero {n k : Nat} {rest : List Char} (hn : n ≠ 0) (hk : 0 < k) :
    ['0'] ++ '.' :: rest ≠ (Nat.toDigits 10 n).take k ++ '.' :: (Nat.toDigits 10 n).drop k := by
  obtain ⟨c, cs, hc, hc0⟩ := toDigits_eq_cons hn
  obtain ⟨k, rfl⟩ := Nat.exists_eq_succ_of_ne_zero hk.ne'
  rw [hc, List.take_succ_cons, List.cons_append]
  exact fun h => hc0 (List.cons.inj h).1.symm

/-- Digits with a point give back the decimal, if they do not start with zero. -/
theorem positional_injective (hx : x.digits ≠ 0) (hy : y.digits ≠ 0) (hxe : x.exponent < 0) (hye : y.exponent < 0)
    (h : layout.positional (Nat.toDigits 10 x.digits) x.place =
      other.positional (Nat.toDigits 10 y.digits) y.place) : x = y := by
  have hplaces : Nat.toDigits 10 x.digits = Nat.toDigits 10 y.digits ∧ x.place = y.place := by
    by_cases hxp : x.place ≤ 0 <;> by_cases hyp : y.place ≤ 0
    · obtain ⟨c, cs, hc, hc0⟩ := toDigits_eq_cons hx
      obtain ⟨d, ds, hd, hd0⟩ := toDigits_eq_cons hy
      rw [positional_of_place_nonpos hxp, positional_of_place_nonpos hyp, hc, hd] at h
      obtain ⟨hzeros, hdigits⟩ := replicate_zero_append_inj hc0 hd0 (List.cons.inj (List.append_cancel_left h)).2
      exact ⟨by rw [hc, hd, hdigits], by omega⟩
    · rw [positional_of_place_nonpos hxp, positional_of_fraction (not_le.1 hyp) hye] at h
      exact absurd h (place_pos_of_zero hy (by omega))
    · rw [positional_of_fraction (not_le.1 hxp) hxe, positional_of_place_nonpos hyp] at h
      exact absurd h.symm (place_pos_of_zero hx (by omega))
    · rw [positional_of_fraction (not_le.1 hxp) hxe, positional_of_fraction (not_le.1 hyp) hye,
        List.append_cons_inj_of_notMem point_not_mem_take point_not_mem_drop] at h
      obtain ⟨hwhole, -, hrest⟩ := h
      have hdigits : Nat.toDigits 10 x.digits = Nat.toDigits 10 y.digits := by
        rw [← List.take_append_drop x.place.toNat (Nat.toDigits 10 x.digits), hwhole, hrest, List.take_append_drop]
      have hlength := congrArg List.length hwhole
      rw [List.length_take, List.length_take, ← hdigits] at hlength
      have hxl : x.place < (Nat.toDigits 10 x.digits).length := by
        rw [Decimal.place, decimalDigits]
        omega
      have hyl : y.place < (Nat.toDigits 10 x.digits).length := by
        rw [hdigits, Decimal.place, decimalDigits]
        omega
      exact ⟨hdigits, by omega⟩
  obtain ⟨hdigits, hplace⟩ := hplaces
  exact Decimal.eq_of_toDigits_eq hdigits hplace

/-- The digits of a decimal that is written with a point and does not end in zero are not a zero behind the point. -/
theorem positional_ne_whole (hx : x.digits % 10 ≠ 0) (hxe : x.exponent < 0) (hye : 0 ≤ y.exponent)
    (hother : other.keepsPoint = true) : layout.positional (Nat.toDigits 10 x.digits) x.place ≠
      other.positional (Nat.toDigits 10 y.digits) y.place := by
  intro h
  obtain ⟨cs, c, hc, hc0⟩ := toDigits_eq_append_singleton hx
  have hlast : ∃ front, layout.positional (Nat.toDigits 10 x.digits) x.place = front ++ [c] := by
    by_cases hxp : x.place ≤ 0
    · rw [positional_of_place_nonpos hxp, hc]
      exact ⟨['0'] ++ '.' :: (List.replicate (-x.place).toNat '0' ++ cs), by simp⟩
    · have hlength : x.place.toNat ≤ cs.length := by
        have hdigits := congrArg List.length hc
        rw [List.length_append, List.length_singleton] at hdigits
        rw [Decimal.place, decimalDigits] at hxp ⊢
        omega
      rw [positional_of_fraction (not_le.1 hxp) hxe, hc, List.drop_append_of_le_length hlength]
      exact ⟨(cs ++ [c]).take x.place.toNat ++ '.' :: cs.drop x.place.toNat, by simp⟩
  obtain ⟨front, hfront⟩ := hlast
  rw [hfront, positional_of_whole hye, if_pos hother] at h
  have hsplit : front ++ [c] = (Nat.toDigits 10 y.digits ++ List.replicate y.exponent.toNat '0' ++ ['.']) ++ ['0'] := by
    rw [h]
    simp
  exact hc0 (by simpa using (List.append_inj' hsplit rfl).2)

/-- Digits without a point are not digits with one. -/
theorem point_mem_positional (hlayout : layout.keepsPoint = true ∨ x.exponent < 0) :
    '.' ∈ layout.positional (Nat.toDigits 10 x.digits) x.place := by
  by_cases hplace : x.place ≤ 0
  · rw [positional_of_place_nonpos hplace]
    simp
  · by_cases hfraction : x.exponent < 0
    · rw [positional_of_fraction (not_le.1 hplace) hfraction]
      simp
    · rw [positional_of_whole (not_lt.1 hfraction), if_pos (hlayout.resolve_right hfraction)]
      simp

theorem point_not_mem_positional (hlayout : layout.keepsPoint = false) (hwhole : 0 ≤ x.exponent) :
    '.' ∉ layout.positional (Nat.toDigits 10 x.digits) x.place := by
  rw [positional_of_whole hwhole, hlayout, if_neg Bool.false_ne_true, List.append_nil, List.mem_append]
  rintro (hdigit | hzero)
  · exact not_mem_toDigits rfl hdigit
  · cases List.eq_of_mem_replicate hzero

/-- No letter stands among the digits. -/
theorem letter_not_mem_digits : 'e' ∉ layout.positional (Nat.toDigits 10 x.digits) x.place := by
  have hdigits : 'e' ∉ Nat.toDigits 10 x.digits := not_mem_toDigits rfl
  by_cases hplace : x.place ≤ 0
  · rw [positional_of_place_nonpos hplace]
    simp [hdigits]
  · by_cases hfraction : x.exponent < 0
    · have htake : 'e' ∉ (Nat.toDigits 10 x.digits).take x.place.toNat := fun h => hdigits (List.mem_of_mem_take h)
      have hdrop : 'e' ∉ (Nat.toDigits 10 x.digits).drop x.place.toNat := fun h => hdigits (List.mem_of_mem_drop h)
      rw [positional_of_fraction (not_le.1 hplace) hfraction]
      simp [htake, hdrop]
    · rw [positional_of_whole (not_lt.1 hfraction)]
      split <;> simp [hdigits]

end Positional

/-! ## Forms with an exponent -/

section Scientific

variable {layout other : Layout} {x y : Decimal}

/-- The digits with a point behind the first. -/
def pointed : List Char → List Char
  | d :: e :: rest => d :: '.' :: e :: rest
  | short => short

/-- An exponent with its sign. -/
def power (layout : Layout) (exponent : Int) : List Char :=
  (if exponent < 0 then '-' else '+') ::
    (List.replicate (layout.exponentDigits - (Nat.toDigits 10 exponent.natAbs).length) '0' ++
      Nat.toDigits 10 exponent.natAbs)

theorem scientific_eq (digits : List Char) (exponent : Int) :
    layout.scientific digits exponent = pointed digits ++ 'e' :: layout.power exponent := by
  unfold scientific power
  rcases digits with _ | ⟨d, _ | ⟨e, rest⟩⟩ <;> simp [pointed]

theorem pointed_injective : Function.Injective pointed := by
  intro cs ds h
  rcases cs with _ | ⟨c, _ | ⟨c', cs⟩⟩ <;> rcases ds with _ | ⟨d, _ | ⟨d', ds⟩⟩ <;> simp_all [pointed]

theorem power_injective {a b : Int} (h : layout.power a = other.power b) : a = b := by
  obtain ⟨hsign, hdigits⟩ := List.cons.inj h
  have habs : a.natAbs = b.natAbs := by
    rw [← ofDigitChars_replicate_zero (n := a.natAbs), hdigits, ofDigitChars_replicate_zero]
  have hnegative : a < 0 ↔ b < 0 := by
    by_cases ha : a < 0 <;> by_cases hb : b < 0
    · exact iff_of_true ha hb
    · rw [if_pos ha, if_neg hb] at hsign
      exact absurd hsign (by decide)
    · rw [if_neg ha, if_pos hb] at hsign
      exact absurd hsign (by decide)
    · exact iff_of_false ha hb
  omega

theorem letter_not_mem_pointed {n : Nat} : 'e' ∉ pointed (Nat.toDigits 10 n) := by
  have hdigits : 'e' ∉ Nat.toDigits 10 n := not_mem_toDigits rfl
  unfold pointed
  split <;> simp_all

theorem letter_not_mem_power {exponent : Int} : 'e' ∉ layout.power exponent := by
  have hdigits : 'e' ∉ Nat.toDigits 10 exponent.natAbs := not_mem_toDigits rfl
  unfold power
  split <;> simp [hdigits]

/-- Digits with an exponent give back the decimal. -/
theorem scientific_injective (h : layout.scientific (Nat.toDigits 10 x.digits) (x.place - 1) =
    other.scientific (Nat.toDigits 10 y.digits) (y.place - 1)) : x = y := by
  rw [scientific_eq, scientific_eq,
    List.append_cons_inj_of_notMem letter_not_mem_pointed letter_not_mem_power] at h
  obtain ⟨hdigits, -, hpower⟩ := h
  have hplace := power_injective hpower
  exact Decimal.eq_of_toDigits_eq (pointed_injective hdigits) (by omega)

end Scientific

/-! ## Both layouts -/

section Write

variable {layout : Layout} {x y : Decimal}

/-- Whether a layout writes a decimal positionally. -/
def Positional (layout : Layout) (x : Decimal) : Prop :=
  layout.least ≤ x.place - 1 ∧ x.place - 1 < layout.bound

theorem write_of_positional (h : layout.Positional x) :
    layout.write x = layout.positional (Nat.toDigits 10 x.digits) x.place :=
  if_pos h

theorem write_of_not_positional (h : ¬layout.Positional x) :
    layout.write x = layout.scientific (Nat.toDigits 10 x.digits) (x.place - 1) :=
  if_neg h

/-- The letter tells which form a decimal has. -/
theorem letter_mem_write : 'e' ∈ layout.write x ↔ ¬layout.Positional x := by
  by_cases h : layout.Positional x
  · rw [write_of_positional h]
    exact iff_of_false letter_not_mem_digits fun hnot => hnot h
  · rw [write_of_not_positional h, scientific_eq]
    exact iff_of_true (by simp) h

end Write

end Layout

/-! ## Six digits and full length -/

section Alike

variable {x y : Decimal}

theorem positional_general : generalLayout.Positional x ↔ -4 < x.place ∧ x.place ≤ 6 := by
  show -4 ≤ x.place - 1 ∧ x.place - 1 < 6 ↔ _
  omega

theorem positional_full : fullLayout.Positional x ↔ -4 < x.place ∧ x.place ≤ 16 := by
  show -4 ≤ x.place - 1 ∧ x.place - 1 < 16 ↔ _
  omega

/-- The two layouts write a fraction with few digits in front of the point alike, and what both write with an
exponent. -/
theorem write_general_eq_full (h : x.place ≤ 6 ∧ x.exponent < 0 ∨ 16 < x.place) :
    generalLayout.write x = fullLayout.write x := by
  by_cases hgeneral : generalLayout.Positional x
  · have hfull : fullLayout.Positional x := by
      rw [positional_general] at hgeneral
      rw [positional_full]
      omega
    have hfraction : x.exponent < 0 := by
      rw [positional_general] at hgeneral
      omega
    rw [Layout.write_of_positional hgeneral, Layout.write_of_positional hfull]
    by_cases hplace : x.place ≤ 0
    · rw [Layout.positional_of_place_nonpos hplace, Layout.positional_of_place_nonpos hplace]
    · rw [Layout.positional_of_fraction (not_le.1 hplace) hfraction,
        Layout.positional_of_fraction (not_le.1 hplace) hfraction]
  · have hfull : ¬fullLayout.Positional x := by
      rw [positional_general] at hgeneral
      rw [positional_full]
      omega
    rw [Layout.write_of_not_positional hgeneral, Layout.write_of_not_positional hfull]
    rfl

/-- A decimal that does not end in zero is written in the layout for six digits as another is written in full exactly
if they are equal, and have a fraction and at most six digits in front of the point, or are written with an exponent
in both layouts. -/
theorem write_general_eq_full_iff (hx : x.digits % 10 ≠ 0) (hy : y.digits = 0 → 0 ≤ y.exponent) :
    generalLayout.write x = fullLayout.write y ↔ x = y ∧ (x.place ≤ 6 ∧ x.exponent < 0 ∨ 16 < x.place) := by
  have hx0 : x.digits ≠ 0 := fun h => hx (by rw [h])
  constructor
  · intro h
    have hform : ¬generalLayout.Positional x ↔ ¬fullLayout.Positional y := by
      rw [← Layout.letter_mem_write, ← Layout.letter_mem_write, h]
    by_cases hgeneral : generalLayout.Positional x
    · have hfull : fullLayout.Positional y := by
        by_contra hnot
        exact hform.2 hnot hgeneral
      rw [Layout.write_of_positional hgeneral, Layout.write_of_positional hfull] at h
      -- only a fraction has a point in the one layout, and everything has one in the other
      have hxe : x.exponent < 0 := by
        by_contra hwhole
        have hpoint : '.' ∈ fullLayout.positional (Nat.toDigits 10 y.digits) y.place :=
          Layout.point_mem_positional (Or.inl rfl)
        rw [← h] at hpoint
        exact Layout.point_not_mem_positional rfl (not_lt.1 hwhole) hpoint
      have hye : y.exponent < 0 := by
        by_contra hwhole
        exact Layout.positional_ne_whole hx hxe (not_lt.1 hwhole) rfl h
      have hy0 : y.digits ≠ 0 := fun h0 => absurd hye (not_lt.2 (hy h0))
      exact ⟨Layout.positional_injective hx0 hy0 hxe hye h, Or.inl ⟨(positional_general.1 hgeneral).2, hxe⟩⟩
    · have hfull : ¬fullLayout.Positional y := hform.1 hgeneral
      rw [Layout.write_of_not_positional hgeneral, Layout.write_of_not_positional hfull] at h
      obtain rfl := Layout.scientific_injective h
      refine ⟨rfl, ?_⟩
      rw [positional_full] at hfull
      have hpos := decimalDigits_pos (n := x.digits)
      have hplace : x.place = x.exponent + decimalDigits x.digits := rfl
      omega
  · rintro ⟨rfl, h⟩
    exact write_general_eq_full h

end Alike

end MediaLanguage
