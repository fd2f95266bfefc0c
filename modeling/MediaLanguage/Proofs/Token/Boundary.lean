import MediaLanguage.Token.Lexer

/-!
# Where a token ends

`Reading.EndsBefore` says which texts may follow a token without becoming a part of it.

* `Reads` lists the tokens that can stand at the front of a text, by its first characters (`reads_of_readToken`,
  `readToken_of_reads`).
* What follows a token ends it (`Reads.ends`), and the token is read again from its piece and any text that ends it
  (`Reads.again`).
* A space ends every token but a line comment, and so does the end of the text (`Reading.EndsBefore.of_space`); what
  ends a token still ends it with a line break and more text behind it (`Reading.EndsBefore.append_newline`).
* `scanFrom_gap` and `scanFrom_token` are the two steps of a scan, and `tokenize_eq_ok_iff` opens a whole text.
-/

namespace MediaLanguage

/-! ## Runs of characters -/

/-- No character of the class stands at the front of the text. -/
def Halts (p : Char → Bool) (cs : List Char) : Prop :=
  ∀ c ∈ cs.head?, p c = false

namespace Halts

variable {p : Char → Bool} {w cs : List Char}

/-- The end of a text halts every run. -/
theorem nil : Halts p [] := by
  intro c hc
  cases hc

/-- A character outside the class halts a run. -/
theorem cons {c : Char} (h : p c = false) : Halts p (c :: cs) := by
  intro d hd
  cases hd
  exact h

/-- What a run leaves halts it. -/
theorem dropWhile (p : Char → Bool) (cs : List Char) : Halts p (cs.dropWhile p) := by
  intro c hc
  have := List.head?_dropWhile_not p cs
  rw [Option.mem_def.1 hc] at this
  simpa using this

/-- A run over a piece of its class stops where it is halted. -/
theorem takeWhile_append (hw : ∀ c ∈ w, p c) (h : Halts p cs) : (w ++ cs).takeWhile p = w := by
  rw [List.takeWhile_append_of_pos hw]
  cases cs with
  | nil => simp
  | cons c cs => simp [h c rfl]

/-- A run over a piece of its class leaves what halts it. -/
theorem dropWhile_append (hw : ∀ c ∈ w, p c) (h : Halts p cs) : (w ++ cs).dropWhile p = cs := by
  rw [List.dropWhile_append_of_pos hw]
  cases cs with
  | nil => rfl
  | cons c cs => simp [h c rfl]

/-- What halts a run still halts it with a line break and more text behind it. -/
theorem append_newline (hp : p '\n' = false) (h : Halts p cs) (ds : List Char) : Halts p (cs ++ '\n' :: ds) := by
  cases cs with
  | nil => exact .cons hp
  | cons c cs => exact .cons (h c rfl)

end Halts

/-- The characters of a run are of its class. -/
theorem mem_takeWhile_imp {p : Char → Bool} {cs : List Char} {c : Char} (h : c ∈ cs.takeWhile p) : p c :=
  List.all_eq_true.1 (List.all_takeWhile) c h

/-! ## Endings -/

/-- The text `cs` may follow the token without becoming a part of it. -/
def Reading.EndsBefore (r : Reading) (cs : List Char) : Prop :=
  match r.lexeme with
  | .comment _ => Halts (· != '\n') cs
  | .tag _ => Halts isTagChar cs
  | .identifier | .keyword _ | .boolean _ => Halts isNameChar cs
  | .number _ => Halts Text.isDigit cs ∧ ('.' ∈ r.text ∨ readFraction cs = none)
  | _ => True

/-- The token in front of another text. -/
def Reading.before (r : Reading) (cs : List Char) : Reading :=
  { r with rest := cs }

/-! ## Readers -/

/-- A line comment ends with its line. -/
theorem readLineComment_again (marker rest : List Char) {cs : List Char} (h : Halts (· != '\n') cs) :
    readLineComment marker (rest.takeWhile (· != '\n') ++ cs) = (readLineComment marker rest).before cs := by
  have hbody : ∀ c ∈ rest.takeWhile (· != '\n'), (c != '\n') := fun c => mem_takeWhile_imp (p := (· != '\n'))
  simp only [readLineComment, Reading.before, h.takeWhile_append hbody, h.dropWhile_append hbody]

/-- The body of a block comment ends at its first closing marker, whatever follows. -/
theorem readBlockBody_again {cs body after : List Char} (h : readBlockBody cs = some (body, after))
    (ds : List Char) : readBlockBody (body ++ '*' :: '/' :: ds) = some (body, ds) := by
  fun_induction readBlockBody cs generalizing body with
  | case1 => cases h
  | case2 rest => cases h; rfl
  | case3 c rest hne ih =>
    obtain ⟨⟨b, a⟩, hb, heq⟩ := Option.map_eq_some_iff.1 h
    cases heq
    -- the character behind `c` is the one behind it in the first text, so `c` opens no closing marker here either
    have hopen : ∀ tail, c = '*' → b ++ '*' :: '/' :: ds = '/' :: tail → False := by
      intro tail hc htail
      have hrest := readBlockBody_eq hb
      cases b with
      | nil => cases htail
      | cons d b =>
        cases htail
        exact hne _ hc hrest.symm
    rw [List.cons_append, readBlockBody.eq_3 _ _ hopen, ih hb]
    rfl

/-- A character that is no quote, line break or backslash stands for itself. -/
theorem readStringBody_cons {c : Char} (hq : c ≠ '"') (hn : c ≠ '\n') (hb : c ≠ '\\') (cs : List Char) :
    readStringBody (c :: cs) = (readStringBody cs).push c [c] :=
  readStringBody.eq_6 c cs hq hn (fun h _ => hb h) (fun _ _ h _ => hb h)

/-- The body of a string ends at its first bare quote, whatever follows. -/
theorem readStringBody_again {cs after : List Char} (h : (readStringBody cs).ending = .closed after)
    (ds : List Char) :
    readStringBody ((readStringBody cs).text ++ '"' :: ds) =
      ⟨(readStringBody cs).value, (readStringBody cs).text, .closed ds⟩ := by
  fun_induction readStringBody cs with
  | case1 => cases h
  | case2 rest => rfl
  | case3 => cases h
  | case4 => cases h
  | case5 c rest value hv ih =>
    have ih := ih h
    simp only [StringBody.push, List.cons_append, List.nil_append, readStringBody, hv, ih]
  | case6 => cases h
  | case7 c rest hq hn hlast hescape ih =>
    have hb : c ≠ '\\' := by
      intro hc
      cases rest with
      | nil => exact hlast hc rfl
      | cons d rest => exact hescape d rest hc rfl
    have ih := ih h
    simp only [StringBody.push, List.cons_append, List.nil_append, readStringBody_cons hq hn hb, ih]

/-- An annotation ends with its name. -/
theorem readTag_again (rest : List Char) {cs : List Char} (h : Halts isTagChar cs) :
    readTag (rest.takeWhile isTagChar ++ cs) = (readTag rest).before cs := by
  have hname : ∀ c ∈ rest.takeWhile isTagChar, isTagChar c := fun c => mem_takeWhile_imp
  simp only [readTag, Reading.before, h.takeWhile_append hname, h.dropWhile_append hname]

/-- A word ends with its last letter. -/
theorem readWord_again (rest : List Char) {cs : List Char} (h : Halts isNameChar cs) :
    readWord (rest.takeWhile isNameChar ++ cs) = (readWord rest).before cs := by
  have hword : ∀ c ∈ rest.takeWhile isNameChar, isNameChar c := fun c => mem_takeWhile_imp
  simp only [readWord, Reading.before, h.takeWhile_append hword, h.dropWhile_append hword]

/-- A point with a digit behind it is a fraction, up to what halts the digits. -/
theorem readFraction_again {cs fraction rest : List Char} (h : readFraction cs = some (fraction, rest))
    {ds : List Char} (hds : Halts Text.isDigit ds) : readFraction ('.' :: fraction ++ ds) = some (fraction, ds) := by
  unfold readFraction at h
  split at h
  · next c tail =>
    split at h
    · next hc =>
      cases h
      have hdigits : ∀ d ∈ tail.takeWhile Text.isDigit, Text.isDigit d := fun d => mem_takeWhile_imp
      simp only [List.cons_append, readFraction, hc, ↓reduceIte, hds.takeWhile_append hdigits,
        hds.dropWhile_append hdigits]
    · cases h
  · cases h

/-- What follows a fraction halts its digits. -/
theorem readFraction_halts {cs fraction rest : List Char} (h : readFraction cs = some (fraction, rest)) :
    Halts Text.isDigit rest := by
  unfold readFraction at h
  split at h
  · split at h
    · cases h
      exact .dropWhile _ _
    · cases h
  · cases h

/-- The value of a number does not depend on what follows it. -/
theorem numberReading_before {whole fraction text rest : List Char} {r : Reading}
    (h : numberReading whole fraction text rest = .ok r) (ds : List Char) :
    numberReading whole fraction text ds = .ok (r.before ds) := by
  unfold numberReading at h ⊢
  split at h
  · cases h; rfl
  · cases h

/-- The lexeme of a number is a number. -/
theorem numberReading_lexeme {whole fraction text rest : List Char} {r : Reading}
    (h : numberReading whole fraction text rest = .ok r) : ∃ value, r.lexeme = .number value := by
  unfold numberReading at h
  split at h
  · cases h; exact ⟨_, rfl⟩
  · cases h

/-- What is read at a digit is a number. -/
theorem readNumber_lexeme {cs : List Char} {r : Reading} (h : readNumber cs = .ok r) :
    ∃ value, r.lexeme = .number value := by
  simp only [readNumber] at h
  split at h
  · exact numberReading_lexeme h
  · exact numberReading_lexeme h

/-- What may follow a number: nothing that goes on with its digits, and no fraction if it has none. -/
theorem Reading.endsBefore_number {r : Reading} {value : Number} (h : r.lexeme = .number value) (cs : List Char) :
    r.EndsBefore cs ↔ Halts Text.isDigit cs ∧ ('.' ∈ r.text ∨ readFraction cs = none) := by
  simp only [EndsBefore, h]

/-- A number ends with its last digit, and is read again in front of what ends it. -/
theorem readNumber_again {cs : List Char} {r : Reading} (h : readNumber cs = .ok r) :
    r.EndsBefore r.rest ∧ ∀ ds, r.EndsBefore ds → readNumber (r.text ++ ds) = .ok (r.before ds) := by
  have hwhole : ∀ c ∈ cs.takeWhile Text.isDigit, Text.isDigit c := fun c => mem_takeWhile_imp
  have hpoint : Text.isDigit '.' = false := by decide
  obtain ⟨value, hl⟩ := readNumber_lexeme h
  simp only [readNumber] at h
  split at h
  · next fraction tail hf =>
    obtain ⟨ht, hr⟩ := numberReading_eq h
    have hmem : '.' ∈ r.text := by simp [ht]
    refine ⟨(r.endsBefore_number hl _).2 ⟨hr ▸ readFraction_halts hf, .inl hmem⟩, fun ds hds => ?_⟩
    have hstop : Halts Text.isDigit ('.' :: fraction ++ ds) := .cons hpoint
    have hagain := readFraction_again hf ((r.endsBefore_number hl ds).1 hds).1
    rw [ht, List.append_assoc]
    simp only [readNumber, hstop.takeWhile_append hwhole, hstop.dropWhile_append hwhole, hagain]
    exact numberReading_before h ds
  · next hf =>
    obtain ⟨ht, hr⟩ := numberReading_eq h
    have hmem : '.' ∉ r.text := by
      intro hm
      rw [ht] at hm
      exact absurd (hwhole '.' hm) (by simp [hpoint])
    refine ⟨(r.endsBefore_number hl _).2 ⟨hr ▸ .dropWhile _ _, .inr (hr ▸ hf)⟩, fun ds hds => ?_⟩
    obtain ⟨hstop, hfrac⟩ := (r.endsBefore_number hl ds).1 hds
    have hnone := hfrac.resolve_left hmem
    rw [ht]
    simp only [readNumber, hstop.takeWhile_append hwhole, hstop.dropWhile_append hwhole, hnone]
    exact numberReading_before h ds

/-- A word is a truth value, a keyword or a name. -/
theorem Lexeme.ofWord_cases (word : String) :
    (∃ b, ofWord word = .boolean b) ∨ (∃ k, ofWord word = .keyword k) ∨ ofWord word = .identifier := by
  unfold ofWord
  dsimp only
  split
  · exact .inl ⟨_, rfl⟩
  split
  · exact .inl ⟨_, rfl⟩
  split
  · exact .inr (.inl ⟨_, rfl⟩)
  · exact .inr (.inr rfl)

/-- What may follow a word: nothing that goes on with its letters. -/
theorem endsBefore_readWord (word cs : List Char) : (readWord word).EndsBefore cs ↔ Halts isNameChar cs := by
  simp only [Reading.EndsBefore, readWord]
  rcases Lexeme.ofWord_cases (String.ofList (word.takeWhile isNameChar)) with ⟨b, h⟩ | ⟨k, h⟩ | h <;> rw [h]

/-! ## Tokens -/

/-- The token at the front of a text by its first characters. -/
inductive Reads : Char → List Char → Reading → Prop
  | newline (rest : List Char) : Reads '\n' rest ⟨.newline, ['\n'], rest⟩
  | slashes (rest : List Char) : Reads '/' ('/' :: rest) (readLineComment ['/', '/'] rest)
  | block {rest body after : List Char} : readBlockBody rest = some (body, after) →
      Reads '/' ('*' :: rest) ⟨.blockComment (String.ofList body), '/' :: '*' :: body ++ ['*', '/'], after⟩
  | hash (rest : List Char) : Reads '#' rest (readLineComment ['#'] rest)
  | tag (rest : List Char) : Reads '@' rest (readTag rest)
  | string {rest after : List Char} : (readStringBody rest).ending = .closed after →
      Reads '"' rest
        ⟨.string (String.ofList (readStringBody rest).value), '"' :: (readStringBody rest).text ++ ['"'], after⟩
  | number {c : Char} {rest : List Char} {r : Reading} : c.isDigit → readNumber (c :: rest) = .ok r → Reads c rest r
  | word {c : Char} (rest : List Char) : isNameStart c → Reads c rest (readWord (c :: rest))
  | mark (m : Mark) (rest : List Char) : Reads m.char rest ⟨.mark m, [m.char], rest⟩

/-- The mark found for a character has that character. -/
theorem Mark.char_of_ofChar? {c : Char} {m : Mark} (h : ofChar? c = some m) : m.char = c := by
  simpa using List.find?_some h

/-- What reading a token can be. -/
theorem reads_of_readToken {c : Char} {rest : List Char} {r : Reading} (h : readToken c rest = .ok r) :
    Reads c rest r := by
  unfold readToken at h
  split at h
  · cases h; subst c; exact .newline rest
  split at h
  · subst c
    split at h
    · cases h; exact .slashes _
    · unfold readBlockComment at h
      split at h
      · next hb => cases h; exact .block hb
      · cases h
    · cases h
  split at h
  · cases h; subst c; exact .hash rest
  split at h
  · cases h; subst c; exact .tag rest
  split at h
  · subst c
    simp only [readString] at h
    split at h
    · next he => cases h; exact .string he
    · cases h
    · cases h
  split at h
  · next hc => exact .number hc h
  split at h
  · next hc => cases h; exact .word rest hc
  split at h
  · next m hm =>
    cases h
    rw [← Mark.char_of_ofChar? hm]
    exact .mark m rest
  · cases h

/-- A digit starts a number. -/
theorem readToken_digit {c : Char} (hc : c.isDigit) (rest : List Char) :
    readToken c rest = readNumber (c :: rest) := by
  have hne : ∀ d : Char, d.isDigit = false → c ≠ d := by
    rintro d hd rfl
    rw [hc] at hd
    cases hd
  simp only [readToken, hc, hne '\n' rfl, hne '/' rfl, hne '#' rfl, hne '@' rfl, hne '"' rfl, ↓reduceIte]

/-- A letter is no digit. -/
theorem isDigit_of_isNameStart {c : Char} (hc : isNameStart c) : c.isDigit = false := by
  rw [Bool.eq_false_iff]
  intro hd
  rw [isNameStart] at hc
  delta Char.isAlpha Char.isUpper Char.isLower at hc
  simp only [Char.isDigit, Bool.or_eq_true, Bool.and_eq_true, decide_eq_true_eq, beq_iff_eq, ge_iff_le,
    UInt32.le_iff_toNat_le] at hc hd
  rcases hc with (hc | hc) | rfl
  · simp at hc hd; omega
  · simp at hc hd; omega
  · simp at hd

/-- A letter starts a word. -/
theorem readToken_letter {c : Char} (hc : isNameStart c) (rest : List Char) :
    readToken c rest = .ok (readWord (c :: rest)) := by
  have hne : ∀ d : Char, isNameStart d = false → c ≠ d := by
    rintro d hd rfl
    rw [hc] at hd
    cases hd
  have hd := isDigit_of_isNameStart hc
  simp only [readToken, hc, hd, hne '\n' rfl, hne '/' rfl, hne '#' rfl, hne '@' rfl, hne '"' rfl, ↓reduceIte,
    Bool.false_eq_true]

/-- Reading a token is what it can be. -/
theorem readToken_of_reads {c : Char} {rest : List Char} {r : Reading} (h : Reads c rest r) :
    readToken c rest = .ok r := by
  cases h with
  | newline => rfl
  | slashes => rfl
  | block h => show readBlockComment _ = _; rw [readBlockComment, h]
  | hash => rfl
  | tag => rfl
  | string h => show readString _ = _; simp only [readString, h]
  | number hc h => rw [readToken_digit hc, h]
  | word _ hc => exact readToken_letter hc rest
  | mark m => cases m <;> rfl

/-- The piece of a token starts with the first character of the text. -/
theorem Reading.Splits.exists_tail {r : Reading} {c : Char} {rest : List Char} (h : r.Splits (c :: rest)) :
    ∃ w, r.text = c :: w ∧ w ++ r.rest = rest := by
  obtain ⟨htext, hne⟩ := h
  cases hr : r.text with
  | nil => exact absurd hr hne
  | cons d w =>
    rw [hr, List.cons_append, List.cons.injEq] at htext
    exact ⟨w, by rw [htext.1], htext.2⟩

/-- What follows a token ends it. -/
theorem Reads.ends {c : Char} {rest : List Char} {r : Reading} (h : Reads c rest r) : r.EndsBefore r.rest := by
  cases h with
  | newline => trivial
  | slashes => exact Halts.dropWhile _ _
  | block => trivial
  | hash => exact Halts.dropWhile _ _
  | tag => exact Halts.dropWhile _ _
  | string => trivial
  | number hc h => exact (readNumber_again h).1
  | word _ hc => exact (endsBefore_readWord _ _).2 (.dropWhile _ _)
  | mark m => trivial

/-- A token is read again from its piece `c :: w` and any text that ends it. -/
theorem Reads.again {c : Char} {rest w : List Char} {r : Reading} (h : Reads c rest r) (hw : r.text = c :: w)
    {cs : List Char} (hcs : r.EndsBefore cs) : Reads c (w ++ cs) (r.before cs) := by
  cases h with
  | newline => cases hw; exact .newline cs
  | slashes rest =>
    cases hw
    rw [← readLineComment_again _ rest hcs]
    exact .slashes _
  | block h =>
    cases hw
    have hb := readBlockBody_again h cs
    simpa [Reading.before] using Reads.block hb
  | hash =>
    cases hw
    rw [← readLineComment_again _ rest hcs]
    exact .hash _
  | tag =>
    cases hw
    rw [← readTag_again rest hcs]
    exact .tag _
  | string h =>
    cases hw
    have hb := readStringBody_again h cs
    have hs := Reads.string (by rw [hb] : (readStringBody _).ending = .closed cs)
    simpa [hb, Reading.before] using hs
  | number hc h =>
    refine .number hc ?_
    rw [← (readNumber_again h).2 cs hcs, hw]
    rfl
  | word _ hc =>
    rw [← readWord_again _ ((endsBefore_readWord _ _).1 hcs)]
    rw [show (c :: rest).takeWhile isNameChar = c :: w from hw]
    exact .word _ hc
  | mark m => cases hw; exact .mark m cs

/-! ## Common endings -/

namespace Reading

/-- A space ends every token but a line comment, and so does the end of the text. -/
theorem EndsBefore.of_space {r : Reading} (hr : ∀ body, r.lexeme ≠ .comment body) {cs : List Char}
    (hcs : ∀ c ∈ cs.head?, c = ' ') : r.EndsBefore cs := by
  have hhalt : ∀ p : Char → Bool, p ' ' = false → Halts p cs := by
    intro p hp c hc
    rw [hcs c hc, hp]
  have hfraction : readFraction cs = none := by
    cases cs with
    | nil => rfl
    | cons c cs => rw [hcs c rfl]; rfl
  unfold EndsBefore
  split
  · next body h => exact absurd h (hr body)
  · exact hhalt _ rfl
  · exact hhalt _ rfl
  · exact hhalt _ rfl
  · exact hhalt _ rfl
  · exact ⟨hhalt _ (by decide), .inr hfraction⟩
  · trivial

/-- A text that is no fraction is none with a line break and more text behind it. -/
theorem readFraction_append_newline {cs : List Char} (h : readFraction cs = none) (ds : List Char) :
    readFraction (cs ++ '\n' :: ds) = none := by
  match cs, h with
  | [], _ => rfl
  | [c], _ =>
    by_cases hc : c = '.'
    · have hd : Text.isDigit '\n' = false := by decide
      subst hc
      simp [readFraction, hd]
    · unfold readFraction; split <;> simp_all
  | c :: d :: cs, h =>
    by_cases hc : c = '.'
    · subst hc
      by_cases hd : Text.isDigit d
      · simp [readFraction, hd] at h
      · simp [readFraction, hd]
    · unfold readFraction; split <;> simp_all

/-- What ends a token still ends it with a line break and more text behind it. -/
theorem EndsBefore.append_newline {r : Reading} {cs : List Char} (h : r.EndsBefore cs) (ds : List Char) :
    r.EndsBefore (cs ++ '\n' :: ds) := by
  unfold EndsBefore at h ⊢
  split at h
  · exact Halts.append_newline rfl h ds
  · exact Halts.append_newline rfl h ds
  · exact Halts.append_newline rfl h ds
  · exact Halts.append_newline rfl h ds
  · exact Halts.append_newline rfl h ds
  · exact ⟨h.1.append_newline (by decide) ds, h.2.imp_right fun hf => readFraction_append_newline hf ds⟩
  · trivial

end Reading

/-! ## Steps of a scan -/

/-- A scan skips a gap. -/
theorem scanFrom_gap {c : Char} (hc : isGap c) (p : Position) (rest : List Char) :
    scanFrom p (c :: rest) = scanFrom (p.next c) rest := by
  rw [scanFrom, if_pos hc]

/-- A scan takes a token and goes on behind it. -/
theorem scanFrom_token {c : Char} {rest : List Char} {r : Reading} (hc : isGap c = false) (h : Reads c rest r)
    (p : Position) :
    scanFrom p (c :: rest) =
      ⟨⟨r.lexeme, String.ofList r.text, p⟩ :: (scanFrom (p.advance r.text) r.rest).tokens,
        (scanFrom (p.advance r.text) r.rest).ending⟩ := by
  rw [scanFrom, if_neg (by simp [hc])]
  split
  · next s hs =>
    rw [readToken_of_reads h] at hs
    cases hs
    rfl
  · next fault hf =>
    rw [readToken_of_reads h] at hf
    cases hf

/-- A text is cut into tokens if a scan from the start finds them and reaches the end. -/
theorem tokenize_eq_ok_iff {source : String} {s : TokenStream} :
    tokenize source = .ok s ↔ scanFrom .start source.toList = ⟨s.tokens, .ok s.finish⟩ := by
  unfold tokenize
  obtain ⟨tokens, ending⟩ := scanFrom .start source.toList
  obtain ⟨stokens, finish⟩ := s
  cases ending <;> simp [Except.map]

end MediaLanguage
