import MediaLanguage.Number.Format
import MediaLanguage.Proofs.Text.Lexis
import MediaLanguage.Text.Lowercase

/-!
# Plain texts

Integers, numbers and words in lower case are code wherever they stand in a script: a sign is followed by a digit or
letter, and nothing else in them could start a literal or comment. Words and numbers stand on one line, and the text of
a number (`IsNumeral`) is never that of a missing value.
-/

namespace MediaLanguage

open Lexis

variable {L : Lexis}

/-! ## Words -/

/-- The text has only characters of names. -/
def IsWord (s : String) : Prop :=
  ∀ c ∈ s.toList, isNameChar c

instance (s : String) : Decidable (IsWord s) :=
  List.decidableBAll (fun c => isNameChar c) s.toList

/-- The text is a name: a word that is not empty. -/
def IsName (s : String) : Prop :=
  s ≠ "" ∧ IsWord s

instance (s : String) : Decidable (IsName s) :=
  inferInstanceAs (Decidable (s ≠ "" ∧ IsWord s))

/-- Characters of names are ASCII. -/
theorem toNat_lt_of_isNameChar {c : Char} (h : isNameChar c) : c.toNat < 128 := by
  rw [isNameChar, isTagChar, Char.isAlphanum] at h
  delta Char.isAlpha Char.isUpper Char.isLower at h
  simp only [Char.isDigit, Bool.or_eq_true, Bool.and_eq_true, decide_eq_true_eq, beq_iff_eq, ge_iff_le,
    UInt32.le_iff_toNat_le] at h
  have hunderscore : '_'.toNat < 128 := by decide
  have hpoint : '.'.toNat < 128 := by decide
  obtain ((((h | h) | h) | rfl) | rfl) := h
  · exact Nat.lt_of_le_of_lt h.2 (by decide)
  · exact Nat.lt_of_le_of_lt h.2 (by decide)
  · exact Nat.lt_of_le_of_lt h.2 (by decide)
  · exact hunderscore
  · exact hpoint

/-- What holds of the characters of names among the first 128 holds of all characters of names. -/
theorem forall_isNameChar {P : Char → Prop} (h : ∀ n < 128, isNameChar (Char.ofNat n) → P (Char.ofNat n)) {c : Char}
    (hc : isNameChar c) : P c := by
  have hP := h c.toNat (toNat_lt_of_isNameChar hc)
  rw [Char.ofNat_toNat] at hP
  exact hP hc

/-- No character of a name ends a line. -/
theorem isLineBreak_of_isNameChar {c : Char} (h : isNameChar c) : isLineBreak c = false :=
  forall_isNameChar (P := fun c => isLineBreak c = false) (by decide) h

/-- Names are plain. -/
theorem IsWord.plain {s : String} (h : IsWord s) : L.Plain s :=
  isPlain_of_word h

theorem IsName.plain {s : String} (h : IsName s) : L.Plain s :=
  h.2.plain

/-- Names in front of others. -/
theorem IsName.append {s t : String} (hs : IsName s) (ht : IsName t) : IsName (s ++ t) := by
  refine ⟨fun hempty => hs.1 (String.append_eq_empty_iff.1 hempty).1, ?_⟩
  rw [IsWord, String.toList_append]
  exact List.forall_mem_append.2 ⟨hs.2, ht.2⟩

/-- Names stand on one line. -/
theorem IsWord.oneLine {s : String} (h : IsWord s) : OneLine s :=
  fun c hc => isLineBreak_of_isNameChar (h c hc)

/-- The small letter of a character of a name is one too, and no character of a name is special. -/
theorem isNameChar_smallLetter {c : Char} (h : isNameChar c) :
    isNameChar (Text.smallLetter c) ∧ c.toNat ≠ 0x130 ∧ c ≠ 'Σ' :=
  forall_isNameChar (P := fun c => isNameChar (Text.smallLetter c) ∧ c.toNat ≠ 0x130 ∧ c ≠ 'Σ') (by decide +kernel) h

/-- The characters of a name in lower case, by induction on the name. -/
theorem isNameChar_of_mem_lowercaseFrom {cs : List Char} (h : ∀ c ∈ cs, isNameChar c) (afterLetter : Bool) :
    ∀ c ∈ Text.lowercaseFrom afterLetter cs, isNameChar c := by
  induction cs generalizing afterLetter with
  | nil => simp [Text.lowercaseFrom]
  | cons c cs ih =>
    obtain ⟨hc, hcs⟩ := List.forall_mem_cons.1 h
    obtain ⟨hsmall, hdotted, hsigma⟩ := isNameChar_smallLetter hc
    rw [Text.lowercaseFrom]
    simp only [hdotted, hsigma, false_and, if_false]
    exact List.forall_mem_append.2 ⟨by simpa using hsmall, ih hcs _⟩

/-- A word in lower case is a word. -/
theorem IsWord.lowercase {s : String} (h : IsWord s) : IsWord (Text.lowercase s) := by
  rw [IsWord, Text.lowercase, String.toList_ofList]
  exact isNameChar_of_mem_lowercaseFrom h false

/-- A name in lower case is a name. -/
theorem IsName.lowercase {s : String} (h : IsName s) : IsName (Text.lowercase s) := by
  refine ⟨fun hempty => h.1 ?_, h.2.lowercase⟩
  rw [Text.lowercase, String.ofList_eq_empty_iff] at hempty
  cases hs : s.toList with
  | nil => exact String.toList_eq_nil_iff.1 hs
  | cons c cs =>
    obtain ⟨-, hdotted, hsigma⟩ := isNameChar_smallLetter (h.2 c (hs ▸ List.mem_cons_self))
    rw [hs, Text.lowercaseFrom] at hempty
    simp [hdotted, hsigma] at hempty

/-! ## Words with signs -/

/-- Whether a character is the sign of a number. -/
def isSign (c : Char) : Bool :=
  c == '-' || c == '+'

/-- Whether characters are those of words, or signs in front of them. -/
def isSigned : List Char → Bool
  | [] => true
  | [c] => isNameChar c
  | c :: d :: cs => (isNameChar c || isSign c && isNameChar d) && isSigned (d :: cs)

section Signed

variable {c : Char} {cs ds : List Char}

theorem isSigned_of_word (h : ∀ c ∈ cs, isNameChar c) : isSigned cs := by
  fun_induction isSigned cs with
  | case1 => rfl
  | case2 c => exact h c List.mem_cons_self
  | case3 c d cs ih =>
    obtain ⟨hc, hcs⟩ := List.forall_mem_cons.1 h
    simp [hc, ih hcs]

/-- A sign in front of a word. -/
theorem isSigned_cons (hc : isSign c) (hne : cs ≠ []) (h : ∀ d ∈ cs, isNameChar d) : isSigned (c :: cs) := by
  obtain ⟨d, ds, rfl⟩ := List.exists_cons_of_ne_nil hne
  simp [isSigned, hc, h d List.mem_cons_self, isSigned_of_word h]

theorem isSigned_append (h : isSigned cs) (h' : isSigned ds) : isSigned (cs ++ ds) := by
  fun_induction isSigned cs with
  | case1 => exact h'
  | case2 c =>
    cases ds with
    | nil => exact h
    | cons d ds => simp [isSigned, h, h']
  | case3 c d cs ih =>
    simp only [Bool.and_eq_true] at h
    simp only [List.cons_append, isSigned, Bool.and_eq_true]
    exact ⟨h.1, ih h.2⟩

/-- A sign is no quote, and what follows it is no mark. -/
theorem isPlain_of_isSigned (h : isSigned cs) : L.isPlain cs := by
  have hplain : ∀ c, isNameChar c → c ≠ '\'' ∧ c ≠ L.mark := by
    intro c hc
    have hword : L.isPlain [c] := isPlain_of_word (by simpa using hc)
    simpa [isPlain] using hword
  fun_induction isSigned cs with
  | case1 => rfl
  | case2 c => simpa [isPlain] using hplain c h
  | case3 c d cs ih =>
    simp only [Bool.and_eq_true, Bool.or_eq_true] at h
    obtain ⟨hc | ⟨hsign, hd⟩, hcs⟩ := h
    · simp [isPlain, hplain c hc, ih hcs]
    · refine isPlain_cons ?_ (hplain d hd).2 (ih hcs)
      rintro rfl
      exact absurd hsign (by decide)

/-- Signs do not end a line. -/
theorem isLineBreak_of_isSigned (h : isSigned cs) : ∀ c ∈ cs, isLineBreak c = false := by
  fun_induction isSigned cs with
  | case1 => simp
  | case2 c => simpa using isLineBreak_of_isNameChar h
  | case3 c d cs ih =>
    simp only [Bool.and_eq_true, Bool.or_eq_true] at h
    obtain ⟨hc, hcs⟩ := h
    refine List.forall_mem_cons.2 ⟨?_, ih hcs⟩
    obtain hc | ⟨hsign, -⟩ := hc
    · exact isLineBreak_of_isNameChar hc
    · simp only [isSign, Bool.or_eq_true, beq_iff_eq] at hsign
      obtain rfl | rfl := hsign <;> rfl

end Signed

/-! ## Numbers -/

/-- The digits of a number make a word. -/
theorem isNameChar_of_mem_toDigits {n : Nat} : ∀ c ∈ Nat.toDigits 10 n, isNameChar c := by
  intro c hc
  have hdigit := Nat.isDigit_of_mem_toDigits (by decide) (by decide) hc
  simp [isNameChar, isTagChar, Char.isAlphanum, hdigit]

/-- A natural number is a word. -/
theorem isWord_natural (n : Nat) : IsWord (toString n) := by
  show ∀ c ∈ n.repr.toList, isNameChar c
  rw [Nat.repr_eq_ofList_toDigits, String.toList_ofList]
  exact isNameChar_of_mem_toDigits

/-- Zeros make a word. -/
theorem isNameChar_of_mem_zeros {n : Nat} : ∀ c ∈ List.replicate n '0', isNameChar c := by
  intro c hc
  rw [List.eq_of_mem_replicate hc]
  rfl

/-- Integers are words with signs. -/
theorem isSigned_integer (k : Int) : isSigned (toString k).toList := by
  cases k with
  | ofNat n =>
    show isSigned n.repr.toList
    rw [Nat.repr_eq_ofList_toDigits, String.toList_ofList]
    exact isSigned_of_word isNameChar_of_mem_toDigits
  | negSucc n =>
    have htext : ("-" ++ (n + 1).repr).toList = '-' :: Nat.toDigits 10 (n + 1) := by
      simp [Nat.repr_eq_ofList_toDigits]
    show isSigned ("-" ++ (n + 1).repr).toList
    rw [htext]
    exact isSigned_cons rfl Nat.toDigits_ne_nil isNameChar_of_mem_toDigits

/-- Integers are plain. -/
theorem plain_integer (k : Int) : L.Plain (toString k) :=
  isPlain_of_isSigned (isSigned_integer k)

/-- A word, and words with signs after it: what a number without its sign is. -/
def StartsWithWord (cs : List Char) : Prop :=
  ∃ word rest, cs = word ++ rest ∧ word ≠ [] ∧ (∀ c ∈ word, isNameChar c) ∧ isSigned rest

section StartsWithWord

variable {cs : List Char}

theorem startsWithWord_of_word (hne : cs ≠ []) (h : ∀ c ∈ cs, isNameChar c) : StartsWithWord cs :=
  ⟨cs, [], by simp, hne, h, rfl⟩

theorem StartsWithWord.isSigned (h : StartsWithWord cs) : isSigned cs := by
  obtain ⟨word, rest, rfl, -, hword, hrest⟩ := h
  exact isSigned_append (isSigned_of_word hword) hrest

/-- A sign may stand in front. -/
theorem StartsWithWord.isSigned_cons (h : StartsWithWord cs) {c : Char} (hc : isSign c) :
    MediaLanguage.isSigned (c :: cs) := by
  obtain ⟨word, rest, rfl, hne, hword, hrest⟩ := h
  rw [← List.cons_append]
  exact isSigned_append (MediaLanguage.isSigned_cons hc hne hword) hrest

end StartsWithWord

namespace Layout

variable {digits : List Char} (layout : Layout)

/-- Digits written positionally make a word. -/
theorem startsWithWord_positional (hne : digits ≠ []) (h : ∀ c ∈ digits, isNameChar c) (place : Int) :
    StartsWithWord (layout.positional digits place) := by
  unfold positional
  split
  · refine startsWithWord_of_word (by simp) ?_
    exact List.forall_mem_append.2 ⟨List.forall_mem_append.2 ⟨List.all_eq_true.1 rfl, isNameChar_of_mem_zeros⟩, h⟩
  · next hplace =>
    have hwhole : ∀ c ∈ digits.take place.toNat ++ List.replicate (place.toNat - digits.length) '0', isNameChar c :=
      List.forall_mem_append.2 ⟨fun c hc => h c (List.mem_of_mem_take hc), isNameChar_of_mem_zeros⟩
    have hpos : digits.take place.toNat ≠ [] := by
      simp only [ne_eq, List.take_eq_nil_iff, hne, or_false]
      omega
    dsimp only
    split
    · split
      · exact startsWithWord_of_word (by simp) (List.forall_mem_append.2 ⟨hwhole, List.all_eq_true.1 rfl⟩)
      · exact startsWithWord_of_word (by simp [hpos]) hwhole
    · refine startsWithWord_of_word (by simp) (List.forall_mem_append.2 ⟨hwhole, ?_⟩)
      exact List.forall_mem_cons.2 ⟨by decide, fun c hc => h c (List.mem_of_mem_drop hc)⟩

/-- Digits with an exponent: the sign of the exponent has a digit after it. -/
theorem startsWithWord_scientific (hne : digits ≠ []) (h : ∀ c ∈ digits, isNameChar c) (exponent : Int) :
    StartsWithWord (layout.scientific digits exponent) := by
  unfold scientific
  dsimp only
  rw [List.append_assoc]
  refine ⟨_, _, rfl, ?_, ?_, ?_⟩
  · split <;> simp_all
  · split
    · next d e rest =>
      obtain ⟨hd, hrest⟩ := List.forall_mem_cons.1 h
      exact List.forall_mem_cons.2 ⟨hd, List.forall_mem_cons.2 ⟨by decide, hrest⟩⟩
    · exact h
  · have hletter : isSigned ['e'] := rfl
    apply isSigned_append hletter
    refine isSigned_cons ?_ (by simp) (List.forall_mem_append.2 ⟨isNameChar_of_mem_zeros, isNameChar_of_mem_toDigits⟩)
    split <;> rfl

/-- Decimals start with a word. -/
theorem startsWithWord_write (x : Decimal) : StartsWithWord (layout.write x) := by
  unfold write
  dsimp only
  split
  · exact layout.startsWithWord_positional Nat.toDigits_ne_nil isNameChar_of_mem_toDigits _
  · exact layout.startsWithWord_scientific Nat.toDigits_ne_nil isNameChar_of_mem_toDigits _

end Layout

/-- A number in a layout is made of words with signs. -/
theorem Number.isSigned_write (layout : Layout) (digits : Nat → Int → Decimal) (x : Number) :
    isSigned (x.write layout digits).toList := by
  cases x with
  | finite negative m e =>
    rw [write, String.toList_ofList]
    cases negative with
    | true => exact (layout.startsWithWord_write _).isSigned_cons rfl
    | false => exact (layout.startsWithWord_write _).isSigned
  | infinite negative => cases negative <;> simp [write, isSigned, isNameChar, isTagChar, isSign]
  | nan => simp [write, isSigned, isNameChar, isTagChar]

/-- So is the text of a number. -/
theorem Number.isSigned_text (x : Number) : isSigned x.text.toList := by
  unfold text
  split
  · split
    · exact isSigned_integer _
    · exact x.isSigned_write fullLayout shortest
  · exact x.isSigned_write fullLayout shortest

/-- The text of a number is plain. -/
theorem Number.plain_text (x : Number) : L.Plain x.text :=
  isPlain_of_isSigned x.isSigned_text

/-- The text of a number stands on one line. -/
theorem Number.oneLine_text (x : Number) : OneLine x.text :=
  isLineBreak_of_isSigned x.isSigned_text

/-! ## Numbers are not missing -/

/-- A letter of the words for a missing value that no number is written with. -/
def isNullLetter (c : Char) : Bool :=
  c == 'N' || c == 'u'

section Letters

variable {c : Char} {digits : List Char}

theorem isNullLetter_cases (hc : isNullLetter c) : c = 'N' ∨ c = 'u' := by
  simpa [isNullLetter] using hc

/-- Digits are no letters. -/
theorem letter_not_mem_toDigits (hc : isNullLetter c) (n : Nat) : c ∉ Nat.toDigits 10 n := by
  intro hmem
  have hdigit := Nat.isDigit_of_mem_toDigits (by decide) (by decide) hmem
  obtain rfl | rfl := isNullLetter_cases hc <;> exact absurd hdigit (by decide)

/-- Signs, points and what stands for an exponent are no such letters. -/
theorem ne_of_isNullLetter (hc : isNullLetter c) : ∀ d ∈ ['-', '+', '.', 'e', '0'], c ≠ d := by
  obtain rfl | rfl := isNullLetter_cases hc <;> simp

/-- Integers are written without letters. -/
theorem letter_not_mem_integer (hc : isNullLetter c) (k : Int) : c ∉ (toString k).toList := by
  have hsign : c ≠ '-' := ne_of_isNullLetter hc _ (by decide)
  cases k with
  | ofNat n =>
    show c ∉ n.repr.toList
    rw [Nat.repr_eq_ofList_toDigits, String.toList_ofList]
    exact letter_not_mem_toDigits hc n
  | negSucc n =>
    show c ∉ ("-" ++ (n + 1).repr).toList
    simp [Nat.repr_eq_ofList_toDigits, letter_not_mem_toDigits hc, hsign]

namespace Layout

variable (layout : Layout)

/-- Digits written positionally have only a point among them. -/
theorem letter_not_mem_positional (hc : isNullLetter c) (h : c ∉ digits) (place : Int) :
    c ∉ layout.positional digits place := by
  have htake : c ∉ digits.take place.toNat := fun hmem => h (List.mem_of_mem_take hmem)
  have hdrop : c ∉ digits.drop place.toNat := fun hmem => h (List.mem_of_mem_drop hmem)
  have hpoint : c ≠ '.' := ne_of_isNullLetter hc _ (by decide)
  have hzero : c ≠ '0' := ne_of_isNullLetter hc _ (by decide)
  unfold positional
  split
  · simp [h, hpoint, hzero]
  · dsimp only
    split
    · split <;> simp [htake, hpoint, hzero]
    · simp [htake, hdrop, hpoint, hzero]

/-- The letter of an exponent is another one. -/
theorem letter_not_mem_scientific (hc : isNullLetter c) (h : c ∉ digits) (exponent : Int) :
    c ∉ layout.scientific digits exponent := by
  have hminus : c ≠ '-' := ne_of_isNullLetter hc _ (by decide)
  have hplus : c ≠ '+' := ne_of_isNullLetter hc _ (by decide)
  have hpoint : c ≠ '.' := ne_of_isNullLetter hc _ (by decide)
  have hexponent : c ≠ 'e' := ne_of_isNullLetter hc _ (by decide)
  have hzero : c ≠ '0' := ne_of_isNullLetter hc _ (by decide)
  unfold scientific
  dsimp only
  rw [List.append_assoc, List.mem_append, List.cons_append, List.cons_append, List.mem_cons, List.mem_cons,
    List.mem_append]
  rintro (hmantissa | hletter | hsign | hzeros | hpower)
  · split at hmantissa
    · simp_all
    · exact h hmantissa
  · exact hexponent hletter
  · split at hsign
    · exact hminus hsign
    · exact hplus hsign
  · exact hzero (List.eq_of_mem_replicate hzeros)
  · exact letter_not_mem_toDigits hc _ hpower

/-- Decimals are written without such letters. -/
theorem letter_not_mem_write (hc : isNullLetter c) (x : Decimal) : c ∉ layout.write x := by
  unfold write
  dsimp only
  split
  · exact layout.letter_not_mem_positional hc (letter_not_mem_toDigits hc _) _
  · exact layout.letter_not_mem_scientific hc (letter_not_mem_toDigits hc _) _

end Layout

end Letters

/-- The text is a word with signs that is neither empty nor one that stands for a missing value. -/
structure IsNumeral (s : String) : Prop where
  signed : isSigned s.toList
  ne_empty : s ≠ ""
  ne_null : s ≠ "NULL" ∧ s ≠ "null"

/-- A text without certain letters of `NULL` and `null`. -/
theorem IsNumeral.of_not_mem {s : String} (hsigned : isSigned s.toList) (hne : s.toList ≠ [])
    (h : ∀ c, isNullLetter c → c ∉ s.toList) : IsNumeral s where
  signed := hsigned
  ne_empty hempty := hne (by rw [hempty]; rfl)
  ne_null :=
    ⟨fun hnull => h 'N' rfl (by rw [hnull]; decide), fun hnull => h 'u' rfl (by rw [hnull]; decide)⟩

/-- Integers are numerals. -/
theorem isNumeral_integer (k : Int) : IsNumeral (toString k) := by
  refine .of_not_mem (isSigned_integer k) ?_ fun c hc => letter_not_mem_integer hc k
  cases k with
  | ofNat n =>
    show n.repr.toList ≠ []
    rw [Nat.repr_eq_ofList_toDigits, String.toList_ofList]
    exact Nat.toDigits_ne_nil
  | negSucc n =>
    show ("-" ++ (n + 1).repr).toList ≠ []
    simp

/-- The shortest texts of numbers are numerals. -/
theorem Number.isNumeral_full (x : Number) : IsNumeral x.full := by
  refine .of_not_mem (x.isSigned_write fullLayout shortest) ?_ fun c hc => ?_
  · cases x with
    | finite negative m e =>
      obtain ⟨word, rest, hwrite, hne, -⟩ := fullLayout.startsWithWord_write (if m = 0 then ⟨0, 0⟩ else shortest m e)
      simp [full, write, hwrite, hne]
    | infinite negative => cases negative <;> decide
    | nan => decide
  · cases x with
    | finite negative m e =>
      rw [full, write, String.toList_ofList, List.mem_append]
      rintro (hsign | hdigits)
      · have hminus : c ≠ '-' := ne_of_isNullLetter hc _ (by decide)
        cases negative <;> simp [hminus] at hsign
      · exact fullLayout.letter_not_mem_write hc _ hdigits
    | infinite negative => obtain rfl | rfl := isNullLetter_cases hc <;> cases negative <;> decide
    | nan => obtain rfl | rfl := isNullLetter_cases hc <;> decide

/-- The texts of numbers are numerals. -/
theorem Number.isNumeral_text (x : Number) : IsNumeral x.text := by
  unfold text
  split
  · split
    · exact isNumeral_integer _
    · exact x.isNumeral_full
  · exact x.isNumeral_full

end MediaLanguage
