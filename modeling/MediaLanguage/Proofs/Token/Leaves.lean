import MediaLanguage.Proofs.Ast.Leaves
import MediaLanguage.Proofs.Token.Boundary

/-!
# Leaves of tokens

A number literal is a number, perhaps an infinity, and a name is made of letters, digits, underscores and points, at
least one of them. So are the leaves of the tokens of a text (`isWritten_of_tokenize`).
-/

namespace MediaLanguage

/-- What a leaf of a text may be. -/
def Leaf.IsWritten : Leaf → Prop
  | .number x => x ≠ .nan
  | .name text => text ≠ "" ∧ ∀ c ∈ text.toList, isNameChar c

/-! ## Literals -/

namespace Number

/-- A quotient is rounded to a number. -/
theorem ofRatio_ne_nan (negative : Bool) (n d : Nat) : ofRatio negative n d ≠ .nan := by
  unfold ofRatio
  split
  · simp
  · dsimp only
    split <;> split <;> simp

/-- A decimal is rounded to a number. -/
theorem ofDecimal_ne_nan (negative : Bool) (digits : Nat) (scale : Int) : ofDecimal negative digits scale ≠ .nan := by
  unfold ofDecimal
  dsimp only
  split
  · simp
  split
  · simp
  · exact ofRatio_ne_nan negative _ _

/-- A literal with a value is a number. -/
theorem ofLiteral?_ne_nan {whole fraction : List Char} {x : Number} (h : ofLiteral? whole fraction = some x) :
    x ≠ .nan := by
  obtain ⟨digits, -, hx⟩ := Option.bind_eq_some_iff.1 h
  cases hx
  exact ofDecimal_ne_nan false digits _

end Number

/-- A number that is read is a number. -/
theorem numberReading_ne_nan {whole fraction text rest : List Char} {r : Reading} {x : Number}
    (h : numberReading whole fraction text rest = .ok r) (hx : r.lexeme = .number x) : x ≠ .nan := by
  unfold numberReading at h
  split at h
  · next hliteral =>
    cases h
    cases hx
    exact Number.ofLiteral?_ne_nan hliteral
  · cases h

/-- What is read at a digit is a number. -/
theorem readNumber_ne_nan {cs : List Char} {r : Reading} {x : Number} (h : readNumber cs = .ok r)
    (hx : r.lexeme = .number x) : x ≠ .nan := by
  simp only [readNumber] at h
  split at h
  · exact numberReading_ne_nan h hx
  · exact numberReading_ne_nan h hx

/-! ## Tokens -/

/-- The leaf of a token that is read is a number or a word. -/
theorem Reads.isWritten {c : Char} {rest : List Char} {r : Reading} (h : Reads c rest r) (p : Position) {l : Leaf}
    (hl : (Token.mk r.lexeme (String.ofList r.text) p).leaf? = some l) : l.IsWritten := by
  cases h with
  | newline => cases hl
  | slashes => cases hl
  | block => cases hl
  | hash => cases hl
  | tag => cases hl
  | string => cases hl
  | mark => cases hl
  | number _ hread =>
    obtain ⟨x, hx⟩ := readNumber_lexeme hread
    simp only [Token.leaf?, hx, Option.some.injEq] at hl
    subst hl
    exact readNumber_ne_nan hread hx
  | @word c rest hstart =>
    have hword : (c :: rest).takeWhile isNameChar ≠ [] ∧ ∀ d ∈ (c :: rest).takeWhile isNameChar, isNameChar d := by
      refine ⟨?_, fun d hd => mem_takeWhile_imp hd⟩
      rw [List.takeWhile_cons_of_pos (isNameChar_of_isNameStart hstart)]
      exact List.cons_ne_nil _ _
    obtain ⟨b, hb⟩ | ⟨k, hk⟩ | hid := Lexeme.ofWord_cases (String.ofList ((c :: rest).takeWhile isNameChar))
    · simp [Token.leaf?, readWord, hb] at hl
    · simp only [Token.leaf?, readWord, hk, Option.some.injEq] at hl
      subst hl
      simpa [Leaf.IsWritten] using hword
    · simp only [Token.leaf?, readWord, hid, Option.some.injEq] at hl
      subst hl
      simpa [Leaf.IsWritten] using hword

/-- The leaves of the tokens of a scan are numbers and words, by induction on the text. -/
theorem isWritten_of_scanFrom {p : Position} {cs : List Char} {t : Token} (ht : t ∈ (scanFrom p cs).tokens) {l : Leaf}
    (hl : t.leaf? = some l) : l.IsWritten := by
  fun_induction scanFrom p cs with
  | case1 => cases ht
  | case2 p c rest _ ih => exact ih ht
  | case3 p c rest _ r hread _ later ih =>
    obtain rfl | ht := List.mem_cons.1 ht
    · exact (reads_of_readToken hread).isWritten p hl
    · exact ih ht
  | case4 => cases ht

/-- The leaves of the tokens of a text are numbers and words. -/
theorem isWritten_of_tokenize {source : String} {s : TokenStream} (hs : tokenize source = .ok s) {t : Token}
    (ht : t ∈ s.tokens) {l : Leaf} (hl : t.leaf? = some l) : l.IsWritten := by
  rw [tokenize_eq_ok_iff] at hs
  have hmem : t ∈ (scanFrom .start source.toList).tokens := by rwa [hs]
  exact isWritten_of_scanFrom hmem hl

end MediaLanguage
