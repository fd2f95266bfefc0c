import MediaLanguage.Proofs.Token.Boundary

/-!
# String literals

The body of a string literal is a sequence of items (`StringItem`), each a character that stands for itself or an
escape. A reader takes as many items as there are, and what stands behind them decides how it ends: a quote closes the
literal, a line break or the end of the text leaves it open, and a backslash that escapes nothing is a fault of its own
(`exists_items`).

* `readStringBody_items`: items are read one by one, whatever follows.
* `StringItem.ofChar` writes a character as an item; what it writes is read back (`value_ofChar`).
* `readString_decodes`: which texts are literals and what they stand for, and where the others are faulty.
-/

namespace MediaLanguage

/-! ## Items -/

/-- The letters that may follow a backslash, with the characters that they stand for. -/
def escapes : List (Char × Char) :=
  [('n', '\n'), ('t', '\t'), ('r', '\r'), ('\\', '\\'), ('"', '"')]

/-- The letters that are read are the listed ones. -/
theorem unescape?_eq_some_iff {letter value : Char} : unescape? letter = some value ↔ (letter, value) ∈ escapes := by
  unfold unescape?
  split <;> simp_all [escapes, eq_comm]

/-- A letter that is not read is not listed. -/
theorem unescape?_eq_none_iff {letter : Char} : unescape? letter = none ↔ ∀ value, (letter, value) ∉ escapes := by
  simp only [← unescape?_eq_some_iff, Option.eq_none_iff_forall_ne_some, ne_eq]

/-- An item of the body of a string literal. -/
inductive StringItem where
  /-- A character that stands for itself. -/
  | plain (c : Char) (h : c ≠ '"' ∧ c ≠ '\\' ∧ c ≠ '\n')
  /-- A backslash and a letter, which stand for another character. -/
  | escape (letter value : Char) (h : (letter, value) ∈ escapes)

namespace StringItem

/-- How an item is written. -/
def text : StringItem → List Char
  | plain c _ => [c]
  | escape letter _ _ => ['\\', letter]

/-- The character that an item stands for. -/
def value : StringItem → Char
  | plain c _ => c
  | escape _ value _ => value

/-- The item for a character: an escape if there is one. -/
def ofChar (c : Char) : StringItem :=
  match h : escapes.find? fun e => e.2 == c with
  | some e => .escape e.1 e.2 (List.mem_of_find?_eq_some h)
  | none => .plain c (by
      simp only [escapes, List.find?_eq_none, List.forall_mem_cons, beq_iff_eq] at h
      obtain ⟨hn, -, -, hb, hq, -⟩ := h
      exact ⟨Ne.symm hq, Ne.symm hb, Ne.symm hn⟩)

/-- The item for a character stands for it. -/
@[simp] theorem value_ofChar (c : Char) : (ofChar c).value = c := by
  unfold ofChar
  split
  · next e h =>
    have hfound := List.find?_some h
    exact beq_iff_eq.1 hfound
  · rfl

end StringItem

/-- The body that some items make up. -/
def bodyText (items : List StringItem) : List Char :=
  items.flatMap StringItem.text

/-- The text that a body stands for. -/
def bodyValue (items : List StringItem) : List Char :=
  items.map StringItem.value

/-- The items for a text. -/
def escapedItems (s : String) : List StringItem :=
  s.toList.map StringItem.ofChar

/-- The items for a text stand for it. -/
theorem bodyValue_escapedItems (s : String) : bodyValue (escapedItems s) = s.toList := by
  simp [bodyValue, escapedItems, Function.comp_def]

/-! ## Reading items -/

/-- An item is read and put in front of what follows it. -/
theorem readStringBody_item (item : StringItem) (cs : List Char) :
    readStringBody (item.text ++ cs) = (readStringBody cs).push item.value item.text := by
  cases item with
  | plain c h => exact readStringBody_cons h.1 h.2.2 h.2.1 cs
  | escape letter value h =>
    have hletter := unescape?_eq_some_iff.2 h
    simp only [StringItem.text, StringItem.value, List.cons_append, List.nil_append, readStringBody, hletter]

/-- Items are read one by one, and what follows them decides how the body ends. -/
theorem readStringBody_items (items : List StringItem) (cs : List Char) :
    readStringBody (bodyText items ++ cs) =
      ⟨bodyValue items ++ (readStringBody cs).value, bodyText items ++ (readStringBody cs).text,
        (readStringBody cs).ending⟩ := by
  induction items with
  | nil => rfl
  | cons item items ih =>
    have hfirst := readStringBody_item item (bodyText items ++ cs)
    rw [ih] at hfirst
    simpa [bodyText, bodyValue, StringBody.push] using hfirst

/-- Nothing closes a body that goes on like this: the line ends, or the text does, perhaps behind a backslash. -/
def LeavesOpen (tail : List Char) : Prop :=
  tail = [] ∨ tail = ['\\'] ∨ ∃ after, tail = '\n' :: after

/-- A body is its items, and then it ends: at a quote, at a backslash that escapes nothing, or without either. -/
theorem exists_items (cs : List Char) :
    ∃ items tail, cs = bodyText items ++ tail ∧
      ((∃ after, tail = '"' :: after) ∨
        (∃ c after, tail = '\\' :: c :: after ∧ ∀ value, (c, value) ∉ escapes) ∨ LeavesOpen tail) := by
  fun_induction readStringBody cs with
  | case1 => exact ⟨[], _, rfl, .inr (.inr (.inl rfl))⟩
  | case2 rest => exact ⟨[], _, rfl, .inl ⟨rest, rfl⟩⟩
  | case3 rest => exact ⟨[], _, rfl, .inr (.inr (.inr (.inr ⟨rest, rfl⟩)))⟩
  | case4 => exact ⟨[], _, rfl, .inr (.inr (.inr (.inl rfl)))⟩
  | case5 c rest value hvalue ih =>
    obtain ⟨items, tail, rfl, hends⟩ := ih
    exact ⟨.escape c value (unescape?_eq_some_iff.1 hvalue) :: items, tail, rfl, hends⟩
  | case6 c rest hvalue =>
    exact ⟨[], _, rfl, .inr (.inl ⟨c, rest, rfl, unescape?_eq_none_iff.1 hvalue⟩)⟩
  | case7 c rest hquote hnewline hlast hescape ih =>
    have hbackslash : c ≠ '\\' := by
      intro hc
      cases rest with
      | nil => exact hlast hc rfl
      | cons d rest => exact hescape d rest hc rfl
    obtain ⟨items, tail, rfl, hends⟩ := ih
    exact ⟨.plain c ⟨hquote, hbackslash, hnewline⟩ :: items, tail, rfl, hends⟩

/-! ## Reading literals -/

section Literals

variable (items : List StringItem)

/-- Items with a quote behind them are a literal. -/
theorem readString_closed (after : List Char) :
    readString (bodyText items ++ '"' :: after) =
      .ok ⟨.string (String.ofList (bodyValue items)), '"' :: bodyText items ++ ['"'], after⟩ := by
  simp [readString, readStringBody_items, readStringBody]

/-- A backslash that escapes nothing is reported at the character behind it. -/
theorem readString_badEscape {c : Char} (after : List Char) (h : ∀ value, (c, value) ∉ escapes) :
    readString (bodyText items ++ '\\' :: c :: after) =
      .error ⟨.invalidEscape (String.ofList ['\\', c]), '"' :: bodyText items ++ ['\\']⟩ := by
  have hnone := unescape?_eq_none_iff.2 h
  simp [readString, readStringBody_items, readStringBody, hnone]

/-- A literal that is left open is reported at its quote. -/
theorem readString_open {tail : List Char} (h : LeavesOpen tail) :
    readString (bodyText items ++ tail) = .error ⟨.unterminatedString, []⟩ := by
  obtain rfl | rfl | ⟨after, rfl⟩ := h <;> simp only [readString, readStringBody_items, readStringBody]

end Literals

/-- Where a literal can be faulty: at a backslash that escapes nothing, or at a quote that nothing closes. -/
theorem readString_eq_error_iff {rest : List Char} {f : Fault} :
    readString rest = .error f ↔
      (∃ items c after, rest = bodyText items ++ '\\' :: c :: after ∧ (∀ value, (c, value) ∉ escapes) ∧
        f = ⟨.invalidEscape (String.ofList ['\\', c]), '"' :: bodyText items ++ ['\\']⟩) ∨
      ∃ items tail, rest = bodyText items ++ tail ∧ LeavesOpen tail ∧ f = ⟨.unterminatedString, []⟩ := by
  constructor
  · intro h
    obtain ⟨items, tail, rfl, ⟨after, rfl⟩ | ⟨c, after, rfl, hc⟩ | hopen⟩ := exists_items rest
    · rw [readString_closed] at h
      cases h
    · rw [readString_badEscape items after hc] at h
      cases h
      exact .inl ⟨items, c, after, rfl, hc, rfl⟩
    · rw [readString_open items hopen] at h
      cases h
      exact .inr ⟨items, tail, rfl, hopen, rfl⟩
  · rintro (⟨items, c, after, rfl, hc, rfl⟩ | ⟨items, tail, rfl, hopen, rfl⟩)
    · exact readString_badEscape items after hc
    · exact readString_open items hopen

/-- A literal is a sequence of items with a quote behind it. -/
theorem readString_eq_ok_iff {rest : List Char} {r : Reading} :
    readString rest = .ok r ↔ ∃ items after, rest = bodyText items ++ '"' :: after ∧
      r = ⟨.string (String.ofList (bodyValue items)), '"' :: bodyText items ++ ['"'], after⟩ := by
  constructor
  · intro h
    obtain ⟨items, tail, rfl, ⟨after, rfl⟩ | ⟨c, after, rfl, hc⟩ | hopen⟩ := exists_items rest
    · rw [readString_closed] at h
      cases h
      exact ⟨items, after, rfl, rfl⟩
    · rw [readString_badEscape items after hc] at h
      cases h
    · rw [readString_open items hopen] at h
      cases h
  · rintro ⟨items, after, rfl, rfl⟩
    exact readString_closed items after

/-- A scan stops at a faulty token, and reports the place behind the part of it that is in order. -/
theorem scanFrom_fault {c : Char} {rest : List Char} {f : Fault} (hc : isGap c = false)
    (h : readToken c rest = .error f) (p : Position) :
    scanFrom p (c :: rest) = ⟨[], .error ⟨f.cause, p.advance f.before⟩⟩ := by
  rw [scanFrom, if_neg (by simp [hc])]
  split
  · next r hr =>
    rw [h] at hr
    cases hr
  · next g hg =>
    rw [h] at hg
    cases hg
    rfl

/-- A scan stops at a quote if the literal there is faulty, and only then. -/
theorem scanFrom_quote_eq_error_iff {p : Position} {rest : List Char} {e : LexicalError} :
    scanFrom p ('"' :: rest) = ⟨[], .error e⟩ ↔
      ∃ f, readString rest = .error f ∧ e = ⟨f.cause, p.advance f.before⟩ := by
  have hread : readToken '"' rest = readString rest := rfl
  rcases hstring : readString rest with f | r
  · rw [scanFrom_fault rfl (hread.trans hstring)]
    simp [eq_comm]
  · rw [scanFrom_token rfl (reads_of_readToken (hread.trans hstring))]
    simp

/-- **String literals are decoded exactly.** Behind a quote stands a literal exactly if items and a quote follow, and
it stands for what the items stand for; every text is written by some items. A literal is faulty exactly at a backslash
that escapes nothing, with the character behind it as the place to report, or because nothing closes it, with its
opening quote as the place. -/
theorem readString_decodes (rest : List Char) :
    (∀ r, readString rest = .ok r ↔ ∃ items after, rest = bodyText items ++ '"' :: after ∧
      r = ⟨.string (String.ofList (bodyValue items)), '"' :: bodyText items ++ ['"'], after⟩) ∧
    (∀ s, readString (bodyText (escapedItems s) ++ '"' :: rest) =
      .ok ⟨.string s, '"' :: bodyText (escapedItems s) ++ ['"'], rest⟩) ∧
    (∀ f, readString rest = .error f ↔
      (∃ items c after, rest = bodyText items ++ '\\' :: c :: after ∧ (∀ value, (c, value) ∉ escapes) ∧
        f = ⟨.invalidEscape (String.ofList ['\\', c]), '"' :: bodyText items ++ ['\\']⟩) ∨
      ∃ items tail, rest = bodyText items ++ tail ∧ LeavesOpen tail ∧ f = ⟨.unterminatedString, []⟩) ∧
    ∀ p e, scanFrom p ('"' :: rest) = ⟨[], .error e⟩ ↔
      ∃ f, readString rest = .error f ∧ e = ⟨f.cause, p.advance f.before⟩ := by
  refine ⟨fun r => readString_eq_ok_iff, fun s => ?_, fun f => readString_eq_error_iff,
    fun p e => scanFrom_quote_eq_error_iff⟩
  rw [readString_closed, bodyValue_escapedItems, String.ofList_toList]

/-- A backslash in front of the end of a line is a bad escape, and one at the end of the text leaves the literal
open. -/
example : readString ['a', '\\', '\n'] = .error ⟨.invalidEscape "\\\n", ['"', 'a', '\\']⟩ ∧
    readString ['a', '\\'] = .error ⟨.unterminatedString, []⟩ :=
  ⟨rfl, rfl⟩

end MediaLanguage
