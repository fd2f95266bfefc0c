import MediaLanguage.Anmi.Script
import MediaLanguage.Parser.Market
import MediaLanguage.Proofs.Model.Closed
import MediaLanguage.Proofs.Number.Written

/-!
# What is kept of a level

The parser keeps a level of an aggregation as a text, in which a number is rounded to six digits. Everywhere else a
value is lowered first, and its number is written with all its digits. Strings, truth values and variables have the
same text both ways.

* `general_eq_text_iff`: when the number itself has the same text both ways. A whole number has to be below a million
  (`general_eq_text_whole`), and other numbers are to be rounded to their shortest digits (`general_eq_full_iff`).
* `keepsDigits_of_fraction`: a fraction keeps its digits if it has at most six of them.
* `aggregationText_eq_iff`: a level has the text of its value exactly if it is no object and its number keeps its
  digits. A million and more does not (`not_aggregationText_eq`).
-/

namespace MediaLanguage

open Ast Number

/-! ## Texts of numbers -/

/-- Whether six digits are enough for a number: a zero has no sign, a whole number that is written without an exponent
is below a million, and the shortest digits of any other number are those to which it is rounded. -/
def Number.keepsDigits : Number → Bool
  | .finite negative m e =>
    if m = 0 then !negative
    else match (Number.finite negative m e).toInt? with
      | some k => if k.natAbs < 10 ^ 21 then k.natAbs < 10 ^ 6 else shortest m e = significant 6 m e
      | none => shortest m e = significant 6 m e
  | _ => true

section Numbers

variable {negative : Bool} {m : Nat} {e : Int}

/-- The sign of a number as it is written. -/
def signText (negative : Bool) : List Char :=
  if negative then ['-'] else []

theorem general_eq (hm : m ≠ 0) : (Number.finite negative m e).general =
    String.ofList (signText negative ++ generalLayout.write (significant 6 m e)) := by
  rw [general, Number.write, if_neg hm]
  rfl

theorem full_eq (hm : m ≠ 0) : (Number.finite negative m e).full =
    String.ofList (signText negative ++ fullLayout.write (shortest m e)) := by
  rw [full, Number.write, if_neg hm]
  rfl

/-- A whole number that is not zero, as a text. -/
theorem toString_signed {k : Nat} (hk : k ≠ 0) :
    toString (if negative then -(k : Int) else k) = String.ofList (signText negative ++ Nat.toDigits 10 k) := by
  cases negative with
  | false => exact Nat.repr_eq_ofList_toDigits
  | true =>
    obtain ⟨k, rfl⟩ := Nat.exists_eq_succ_of_ne_zero hk
    show "-" ++ (k + 1).repr = _
    rw [Nat.repr_eq_ofList_toDigits]
    apply String.toList_injective
    simp [signText]

theorem toInt?_of_whole (h : (ratio m e).1 % (ratio m e).2 = 0) : (Number.finite negative m e).toInt? =
    some (if negative then -(((ratio m e).1 / (ratio m e).2 : Nat) : Int) else ((ratio m e).1 / (ratio m e).2 : Nat)) :=
  if_pos h

theorem toInt?_of_fraction (h : (ratio m e).1 % (ratio m e).2 ≠ 0) : (Number.finite negative m e).toInt? = none :=
  if_neg h

theorem natAbs_signed (k : Nat) : (if negative then -(k : Int) else k).natAbs = k := by
  cases negative <;> simp

/-- Zero has its sign in one of its texts only. -/
theorem general_eq_text_zero : (Number.finite negative 0 e).general = (Number.finite negative 0 e).text ↔
    negative = false := by
  have hzero : (ratio 0 e).1 = 0 := by
    rw [ratio, scaled]
    split
    · rfl
    · exact Nat.zero_mul _
  have hint : (Number.finite negative 0 e).toInt? = some 0 := by
    rw [toInt?_of_whole (by rw [hzero, Nat.zero_mod]), hzero, Nat.zero_div]
    cases negative <;> rfl
  have htext : (Number.finite negative 0 e).text = "0" := by
    rw [text, hint]
    rfl
  have hgeneral : (Number.finite negative 0 e).general = String.ofList (signText negative ++ ['0']) := by
    have hwrite : generalLayout.write ⟨0, 0⟩ = ['0'] := by decide
    rw [general, Number.write, if_pos rfl, hwrite]
    rfl
  rw [htext, hgeneral]
  cases negative <;> decide

/-- A whole number with at most six digits is not rounded. -/
theorem write_significant_of_natural {k : Nat} (hk : k ≠ 0) (hvalue : (ratio m e).1 = k * (ratio m e).2)
    (hlt : k < 10 ^ 6) : generalLayout.write (significant 6 m e) = Nat.toDigits 10 k := by
  have hcount : decimalDigits k ≤ 6 := (decimalDigits_le_iff (by decide)).2 hlt
  have hpos := decimalDigits_pos (n := k)
  have hplace : (Decimal.trim ⟨k, 0⟩).place = decimalDigits k :=
    (Decimal.place_trim hk).trans (zero_add _)
  obtain ⟨z, hdigits, hexponent, hend⟩ := Decimal.trim_spec (x := ⟨k, 0⟩) hk
  rw [significant_of_natural hk hvalue hcount]
  generalize Decimal.trim ⟨k, 0⟩ = x at *
  rw [zero_add] at hexponent
  have hpositional : generalLayout.Positional x := by
    rw [positional_general, hplace]
    omega
  rw [Layout.write_of_positional hpositional, Layout.positional_of_whole (by omega), hexponent, Int.toNat_natCast,
    show k = x.digits * 10 ^ z from hdigits, toDigits_mul_pow fun h => hend (by rw [h])]
  exact List.append_nil _

/-- A whole number with more digits has a place for each of them. -/
theorem lt_place_significant {k j : Nat} (hm : m ≠ 0) (hvalue : (ratio m e).1 = k * (ratio m e).2)
    (hle : 10 ^ j ≤ k) : (j : Int) < (significant 6 m e).place := by
  have hk : k ≠ 0 := by
    have hpow : 0 < 10 ^ j := Nat.pow_pos (by decide)
    omega
  have hdigits : j < decimalDigits k := by
    by_contra hfew
    have hpow : 10 ^ decimalDigits k ≤ k := (Nat.pow_le_pow_right (by decide) (not_lt.1 hfew)).trans hle
    exact absurd (lt_pow_decimalDigits (n := k)) (not_lt.2 hpow)
  have hplace := size_le_place (e := e) hm (show 0 < 6 by decide)
  rw [size_of_natural hk hvalue] at hplace
  omega

/-- A number that is rounded to six digits is written in full exactly if these are its shortest digits. -/
theorem general_eq_full_iff (hm : m ≠ 0)
    (h : (ratio m e).1 % (ratio m e).2 ≠ 0 ∨ 16 < (significant 6 m e).place) :
    (Number.finite negative m e).general = (Number.finite negative m e).full ↔
      shortest m e = significant 6 m e := by
  have hmod := significant_digits_mod (e := e) hm (show 0 < 6 by decide)
  have hzero : (shortest m e).digits = 0 → 0 ≤ (shortest m e).exponent := fun h0 => by
    rw [shortest_of_digits_eq_zero hm h0]
  rw [general_eq hm, full_eq hm, String.ofList_inj, List.append_cancel_left_eq,
    write_general_eq_full_iff hmod hzero]
  refine ⟨fun heq => heq.1.symm, fun heq => ⟨heq.symm, ?_⟩⟩
  refine h.imp (fun hfraction => ?_) id
  have hne : (shortest m e).digits ≠ 0 := by
    intro h0
    rw [← heq, h0] at hmod
    exact hmod rfl
  have hexponent := exponent_shortest_neg hm hne hfraction
  have hcount := (decimalDigits_le_iff (by decide)).2 (significant_digits_lt (e := e) hm (show 0 < 6 by decide))
  rw [heq] at hexponent
  rw [Decimal.place]
  omega

/-- A whole number below the bound for exponents. -/
theorem general_eq_text_whole {k : Nat} (hm : m ≠ 0) (hk : k ≠ 0) (hvalue : (ratio m e).1 = k * (ratio m e).2)
    (htext : (Number.finite negative m e).text = toString (if negative then -(k : Int) else k)) :
    (Number.finite negative m e).general = (Number.finite negative m e).text ↔ k < 10 ^ 6 := by
  rw [htext, toString_signed hk, general_eq hm, String.ofList_inj, List.append_cancel_left_eq]
  constructor
  · intro h
    by_contra hle
    have hplace := lt_place_significant hm hvalue (not_lt.1 hle)
    have hletter : 'e' ∈ generalLayout.write (significant 6 m e) := by
      rw [Layout.letter_mem_write, positional_general]
      push_cast at hplace
      omega
    rw [h] at hletter
    exact not_mem_toDigits rfl hletter
  · exact write_significant_of_natural hk hvalue

/-- A number has the same text with six digits as elsewhere exactly if six digits are enough for it. -/
theorem general_eq_text_iff (x : Number) : x.general = x.text ↔ x.keepsDigits = true := by
  cases x with
  | infinite negative => exact iff_of_true rfl rfl
  | nan => exact iff_of_true rfl rfl
  | finite negative m e =>
    by_cases hm : m = 0
    · subst hm
      rw [general_eq_text_zero, keepsDigits, if_pos rfl, Bool.not_eq_true']
    rw [keepsDigits, if_neg hm]
    by_cases hwhole : (ratio m e).1 % (ratio m e).2 = 0
    · have hvalue : (ratio m e).1 = (ratio m e).1 / (ratio m e).2 * (ratio m e).2 :=
        (Nat.div_mul_cancel (Nat.dvd_of_mod_eq_zero hwhole)).symm
      have hint : (Number.finite negative m e).toInt? = _ := toInt?_of_whole hwhole
      generalize (ratio m e).1 / (ratio m e).2 = k at hvalue hint
      have hk : k ≠ 0 := by
        rintro rfl
        rw [Nat.zero_mul] at hvalue
        exact absurd hvalue (ratio_fst_pos hm e).ne'
      rw [hint]
      dsimp only
      rw [natAbs_signed]
      by_cases hbound : k < 10 ^ 21
      · have htext : (Number.finite negative m e).text = toString (if negative then -(k : Int) else k) := by
          rw [text, hint]
          dsimp only
          rw [natAbs_signed]
          exact if_pos hbound
        rw [general_eq_text_whole hm hk hvalue htext, if_pos hbound]
        exact decide_eq_true_iff.symm
      · have htext : (Number.finite negative m e).text = (Number.finite negative m e).full := by
          rw [text, hint]
          dsimp only
          rw [natAbs_signed]
          exact if_neg hbound
        have hplace := lt_place_significant (e := e) hm hvalue (not_lt.1 hbound)
        rw [htext, general_eq_full_iff hm (Or.inr (by push_cast at hplace; omega)), if_neg hbound]
        exact decide_eq_true_iff.symm
    · have htext : (Number.finite negative m e).text = (Number.finite negative m e).full := by
        rw [text, toInt?_of_fraction hwhole]
      rw [toInt?_of_fraction hwhole, htext, general_eq_full_iff hm (Or.inl hwhole)]
      exact decide_eq_true_iff.symm

/-- For a number that is not whole, whose last place is small enough, six digits are enough exactly if its shortest
digits are not more. -/
theorem keepsDigits_of_fraction (hm : 10 ^ 7 ≤ m) (hfraction : (ratio m e).1 % (ratio m e).2 ≠ 0) :
    (Number.finite negative m e).keepsDigits = true ↔
      (shortest m e).digits ≠ 0 ∧ (shortest m e).digits < 10 ^ 6 := by
  rw [keepsDigits, if_neg (by omega), toInt?_of_fraction hfraction, ← shortest_eq_significant_iff hm]
  exact decide_eq_true_iff

end Numbers

/-! ## Levels -/

/-- Whether a level has the text of its value: it is no object, and six digits are enough for its number. -/
def Ast.Expr.keepsText : Expr → Bool
  | .number x _ => x.keepsDigits
  | .object .. => false
  | _ => true

/-- What the parser keeps of a level is the text that its value has elsewhere exactly if the level is a string, a truth
value, a variable, or a number for which six digits are enough. -/
theorem aggregationText_eq_iff (e : Expr) : Parser.aggregationText e = e.lower.text ↔ e.keepsText = true := by
  cases e with
  | string => exact iff_of_true rfl rfl
  | boolean => exact iff_of_true rfl rfl
  | reference => exact iff_of_true rfl rfl
  | number x position => exact general_eq_text_iff x
  | object members position =>
    refine iff_of_false (fun h => ?_) Bool.false_ne_true
    have hplaceholder : (Parser.aggregationText (.object members position)).toList =
        'c' :: "omplex_object".toList := by
      show Parser.objectPlaceholder.toList = _
      decide
    have hfirst : ∃ rest, (Expr.object members position).lower.text.toList = '\x7b' :: rest := by
      rw [Expr.lower, Model.Value.text, String.toList_append, String.toList_append]
      exact ⟨_, rfl⟩
    obtain ⟨rest, hrest⟩ := hfirst
    rw [h, hrest] at hplaceholder
    exact absurd (List.cons.inj hplaceholder).1 (by decide)

/-- A number as a level and as a figure. -/
def leveledSource : String :=
  "FAMILY \"F\" \x7b OUTLET \"A\" \x7b identity \x7b id = 1; \x7d; \x7d; " ++
  "DATA FOR 1 \x7b AGGREGATION = \x7b reach = 1234567; \x7d; " ++
  "YEAR 2020 \x7b METRICS \x7b m = \x7b value = 1234567; \x7d; \x7d; \x7d; \x7d; \x7d;"

/-- In a program that passes, a number loses its last digit as a level and keeps it as a figure; so the texts of scalar
values are not always the same. -/
theorem not_aggregationText_eq :
    (∃ p v, parse leveledSource = .ok p ∧ p.validate = .ok v ∧ v.passed = true ∧ p.lower = .ok p.toModel ∧
      (p.toModel.data.flatMap fun d => d.aggregation.map Model.AggregationLevel.value,
        (Anmi.metrics p.toModel).map fun m => m.value.text) = (["1.23457e+06"], ["1234567"])) ∧
    ¬∀ (x : Number) (position : Position),
      Parser.aggregationText (.number x position) = (Expr.number x position).lower.text := by
  refine ⟨exists_model_of_source ?_, fun h => ?_⟩
  · have hchars : leveledSource.toList = _ :=
      toList_append_of (toList_append_of String.toList_ofList String.toList_ofList) String.toList_ofList
    rw [parse_of_toList hchars]
    decide +kernel
  · exact absurd (h (Number.ofNat 1234567) ⟨1, 1, 0⟩) (by decide +kernel)

end MediaLanguage
