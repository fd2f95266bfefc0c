import MediaLanguage.Error
import MediaLanguage.Number.Reader
import MediaLanguage.Text.Blank
import MediaLanguage.Token.Basic

/-!
# Cutting a text into tokens

`readToken` reads the token at the front of a text: its lexeme, its piece of the text and the rest. Nothing is lost
(`Reading.Splits`): the piece, which is not empty, and the rest make up the text, so a scan of the whole text ends.
`scan` skips the gaps between tokens, reads token after token and keeps what it has when a token is faulty.
-/

namespace MediaLanguage

/-! ## Characters -/

/-- Characters that separate tokens and belong to none. -/
def isGap (c : Char) : Bool :=
  c == ' ' || c == '\t' || c == '\r'

/-- Letters, which are ASCII, and the underscore. -/
def isNameStart (c : Char) : Bool :=
  c.isAlpha || c == '_'

/-- Characters of an annotation's name. -/
def isTagChar (c : Char) : Bool :=
  c.isAlphanum || c == '_'

/-- Characters of a name: a name may have points in it. -/
def isNameChar (c : Char) : Bool :=
  isTagChar c || c == '.'

/-! ## Readings -/

/-- A token at the front of a text: its lexeme, its piece of the text, and what follows it. -/
structure Reading where
  lexeme : Lexeme
  text : List Char
  rest : List Char

/-- A faulty token at the front of a text: the cause, and the part of the text in front of the place to report. -/
structure Fault where
  cause : LexicalCause
  before : List Char := []

/-- The piece and the rest make up the text, and the piece is not empty. -/
def Reading.Splits (r : Reading) (cs : List Char) : Prop :=
  r.text ++ r.rest = cs ∧ r.text ≠ []

/-- What follows a token is shorter than the text that starts with it. -/
theorem Reading.Splits.rest_length_lt {r : Reading} {cs : List Char} (h : r.Splits cs) :
    r.rest.length < cs.length := by
  have hlen := congrArg List.length h.1
  have hpos := List.length_pos_iff.2 h.2
  simp only [List.length_append] at hlen
  omega

/-- A comment up to the end of the line; `marker` opens it. -/
def readLineComment (marker rest : List Char) : Reading :=
  let body := rest.takeWhile (· != '\n')
  ⟨.comment (String.ofList (Text.strip body)), marker ++ body, rest.dropWhile (· != '\n')⟩

/-- The body of a block comment and what follows its closing delimiter. -/
def readBlockBody : List Char → Option (List Char × List Char)
  | [] => none
  | '*' :: '/' :: rest => some ([], rest)
  | c :: rest => (readBlockBody rest).map fun (body, after) => (c :: body, after)

/-- A block comment; `rest` follows its opening delimiter. -/
def readBlockComment (rest : List Char) : Except Fault Reading :=
  match readBlockBody rest with
  | some (body, after) => .ok ⟨.blockComment (String.ofList body), '/' :: '*' :: body ++ ['*', '/'], after⟩
  | none => .error ⟨.unterminatedString, []⟩

/-- An annotation; `rest` follows the `@`. -/
def readTag (rest : List Char) : Reading :=
  let name := rest.takeWhile isTagChar
  ⟨.tag (String.ofList name), '@' :: name, rest.dropWhile isTagChar⟩

/-! ### String literals -/

/-- The character that a letter after a backslash stands for. -/
def unescape? : Char → Option Char
  | 'n' => some '\n'
  | 't' => some '\t'
  | 'r' => some '\r'
  | '\\' => some '\\'
  | '"' => some '"'
  | _ => none

/-- What ends the body of a string literal. -/
inductive StringEnding where
  /-- The closing quote; `rest` follows it. -/
  | closed (rest : List Char)
  /-- The end of the line or of the text. -/
  | unterminated
  /-- A backslash in front of a character that it does not escape. -/
  | badEscape (character : Char)

/-- The body of a string literal up to its ending: the value, and the text it was read from. -/
structure StringBody where
  value : List Char
  text : List Char
  ending : StringEnding

/-- The body with a character in front: `source` is the text of the character `c`. -/
def StringBody.push (c : Char) (source : List Char) (b : StringBody) : StringBody :=
  ⟨c :: b.value, source ++ b.text, b.ending⟩

/-- The body of a string literal, after the opening quote. -/
def readStringBody : List Char → StringBody
  | [] => ⟨[], [], .unterminated⟩
  | '"' :: rest => ⟨[], [], .closed rest⟩
  | '\n' :: _ => ⟨[], [], .unterminated⟩
  | '\\' :: [] => ⟨[], ['\\'], .unterminated⟩
  | '\\' :: c :: rest =>
    match unescape? c with
    | some value => (readStringBody rest).push value ['\\', c]
    | none => ⟨[], ['\\'], .badEscape c⟩
  | c :: rest => (readStringBody rest).push c [c]

/-- A string literal; `rest` follows the opening quote. An unterminated literal is reported at its opening quote, a
bad escape at the character after the backslash. -/
def readString (rest : List Char) : Except Fault Reading :=
  let body := readStringBody rest
  match body.ending with
  | .closed after => .ok ⟨.string (String.ofList body.value), '"' :: body.text ++ ['"'], after⟩
  | .unterminated => .error ⟨.unterminatedString, []⟩
  | .badEscape c => .error ⟨.invalidEscape (String.ofList ['\\', c]), '"' :: body.text⟩

/-! ### Numbers and names -/

/-- The digits after a point, and what follows them; a point without a digit after it is no fraction. -/
def readFraction : List Char → Option (List Char × List Char)
  | '.' :: c :: rest =>
    if Text.isDigit c then some (c :: rest.takeWhile Text.isDigit, rest.dropWhile Text.isDigit) else none
  | _ => none

/-- A number whose text is `text`: the digits `whole`, and the digits `fraction` after a point. -/
def numberReading (whole fraction text rest : List Char) : Except Fault Reading :=
  match Number.ofLiteral? whole fraction with
  | some value => .ok ⟨.number value, text, rest⟩
  | none => .error ⟨.invalidNumber (String.ofList text), []⟩

/-- A number at the front of a text. -/
def readNumber (cs : List Char) : Except Fault Reading :=
  let whole := cs.takeWhile Text.isDigit
  let after := cs.dropWhile Text.isDigit
  match readFraction after with
  | some (fraction, rest) => numberReading whole fraction (whole ++ '.' :: fraction) rest
  | none => numberReading whole [] whole after

/-- What a word is: a truth value, a keyword, or a name. -/
def Lexeme.ofWord (word : String) : Lexeme :=
  let lowered := Text.lower word
  if lowered == "true" then .boolean true
  else if lowered == "false" then .boolean false
  else
    match Keyword.ofSpelling? lowered with
    | some k => .keyword k
    | none => .identifier

/-- A word at the front of a text. -/
def readWord (cs : List Char) : Reading :=
  let word := cs.takeWhile isNameChar
  ⟨.ofWord (String.ofList word), word, cs.dropWhile isNameChar⟩

/-! ## Tokens -/

/-- The token at the front of the text `c :: rest`. -/
def readToken (c : Char) (rest : List Char) : Except Fault Reading :=
  if c = '\n' then .ok ⟨.newline, ['\n'], rest⟩
  else if c = '/' then
    match rest with
    | '/' :: after => .ok (readLineComment ['/', '/'] after)
    | '*' :: after => readBlockComment after
    | _ => .error ⟨.unexpectedCharacter c.toString, []⟩
  else if c = '#' then .ok (readLineComment ['#'] rest)
  else if c = '@' then .ok (readTag rest)
  else if c = '"' then readString rest
  else if c.isDigit then readNumber (c :: rest)
  else if isNameStart c then .ok (readWord (c :: rest))
  else
    match Mark.ofChar? c with
    | some mark => .ok ⟨.mark mark, [c], rest⟩
    | none => .error ⟨.unexpectedCharacter c.toString, []⟩

/-! ## Nothing is lost -/

/-- A line comment takes its marker and the line behind it. -/
theorem readLineComment_splits {marker : List Char} (rest : List Char) (h : marker ≠ []) :
    (readLineComment marker rest).Splits (marker ++ rest) := by
  simp [readLineComment, Reading.Splits, h]

/-- The body of a block comment, its closing marker and the rest make up the text. -/
theorem readBlockBody_eq {cs body after : List Char} (h : readBlockBody cs = some (body, after)) :
    body ++ '*' :: '/' :: after = cs := by
  fun_induction readBlockBody cs generalizing body with
  | case1 => simp at h
  | case2 rest => simp_all
  | case3 c rest _ ih =>
    obtain ⟨⟨b, a⟩, hb, heq⟩ := Option.map_eq_some_iff.1 h
    simp only [Prod.mk.injEq] at heq
    obtain ⟨rfl, rfl⟩ := heq
    simp [ih hb]

/-- A block comment takes its body and both markers. -/
theorem readBlockComment_splits {rest : List Char} {r : Reading} (h : readBlockComment rest = .ok r) :
    r.Splits ('/' :: '*' :: rest) := by
  unfold readBlockComment at h
  split at h
  · next body after hb =>
    cases h
    simp [Reading.Splits, ← readBlockBody_eq hb]
  · cases h

/-- An annotation takes the at sign and its name. -/
theorem readTag_splits (rest : List Char) : (readTag rest).Splits ('@' :: rest) := by
  simp [readTag, Reading.Splits]

/-- The written body of a closed string, its closing quote and the rest make up the text. -/
theorem readStringBody_eq {cs after : List Char} (h : (readStringBody cs).ending = .closed after) :
    (readStringBody cs).text ++ '"' :: after = cs := by
  fun_induction readStringBody cs with
  | case1 => simp at h
  | case2 rest => simp_all
  | case3 => simp at h
  | case4 => simp at h
  | case5 c rest value hv ih => simp_all [StringBody.push]
  | case6 => simp at h
  | case7 c rest _ _ _ ih => simp_all [StringBody.push]

/-- A string takes its written body and both quotes. -/
theorem readString_splits {rest : List Char} {r : Reading} (h : readString rest = .ok r) :
    r.Splits ('"' :: rest) := by
  simp only [readString] at h
  split at h
  · next after he =>
    cases h
    simp [Reading.Splits, readStringBody_eq he]
  · cases h
  · cases h

/-- The point, the digits behind it and the rest make up the text. -/
theorem readFraction_eq {cs fraction rest : List Char} (h : readFraction cs = some (fraction, rest)) :
    '.' :: fraction ++ rest = cs := by
  unfold readFraction at h
  split at h
  · next c tail =>
    split at h
    · simp only [Option.some.injEq, Prod.mk.injEq] at h
      obtain ⟨rfl, rfl⟩ := h
      simp
    · cases h
  · cases h

/-- The value of a number does not change what is taken and what is left. -/
theorem numberReading_eq {whole fraction text rest : List Char} {r : Reading}
    (h : numberReading whole fraction text rest = .ok r) : r.text = text ∧ r.rest = rest := by
  unfold numberReading at h
  split at h <;> cases h
  exact ⟨rfl, rfl⟩

/-- An ASCII digit is a digit. -/
theorem isDigit_of_ascii {c : Char} (h : c.isDigit) : Text.isDigit c := by
  have h0 : 0x30 ≤ c.toNat := by
    simp [Char.isDigit] at h
    exact UInt32.le_iff_toNat_le.1 h.1
  have h9 : c.toNat < 0x30 + 10 := by
    simp [Char.isDigit] at h
    exact Nat.lt_succ_of_le (UInt32.le_iff_toNat_le.1 h.2)
  simp [Text.isDigit, Text.decimalValue?, Text.zeros, h0, h9]

/-- A number that starts with an ASCII digit takes that digit at least. -/
theorem readNumber_splits {c : Char} {rest : List Char} {r : Reading} (hc : c.isDigit)
    (h : readNumber (c :: rest) = .ok r) : r.Splits (c :: rest) := by
  have hd := isDigit_of_ascii hc
  simp only [readNumber] at h
  split at h
  · next fraction tail hf =>
    obtain ⟨ht, hr⟩ := numberReading_eq h
    refine ⟨?_, by simp [ht]⟩
    rw [ht, hr, List.append_assoc, readFraction_eq hf, List.takeWhile_append_dropWhile]
  · obtain ⟨ht, hr⟩ := numberReading_eq h
    refine ⟨?_, by simp [ht, hd]⟩
    rw [ht, hr, List.takeWhile_append_dropWhile]

/-- A name can go on with what it can start with. -/
theorem isNameChar_of_isNameStart {c : Char} (h : isNameStart c) : isNameChar c := by
  simp only [isNameStart, Bool.or_eq_true] at h
  simp only [isNameChar, isTagChar, Char.isAlphanum, Bool.or_eq_true]
  rcases h with h | h
  · exact .inl (.inl (.inl h))
  · exact .inl (.inr h)

/-- A word takes its first letter at least. -/
theorem readWord_splits {c : Char} {rest : List Char} (hc : isNameStart c) :
    (readWord (c :: rest)).Splits (c :: rest) := by
  simp [readWord, Reading.Splits, isNameChar_of_isNameStart hc]

/-- A token takes a piece off the front of the text. -/
theorem readToken_splits {c : Char} {rest : List Char} {r : Reading} (h : readToken c rest = .ok r) :
    r.Splits (c :: rest) := by
  unfold readToken at h
  split at h
  · cases h
    subst c
    simp [Reading.Splits]
  split at h
  · subst c
    split at h
    · cases h
      exact readLineComment_splits _ (by simp)
    · exact readBlockComment_splits h
    · cases h
  split at h
  · subst c
    cases h
    exact readLineComment_splits _ (by simp)
  split at h
  · subst c
    cases h
    exact readTag_splits rest
  split at h
  · subst c
    exact readString_splits h
  split at h
  · next hc => exact readNumber_splits hc h
  split at h
  · next hc =>
    cases h
    exact readWord_splits hc
  split at h <;> cases h
  simp [Reading.Splits]

/-! ## Whole texts -/

/-- The tokens in front of the first fault of a text, and the fault, or the place where the text ends. -/
structure Scan where
  tokens : List Token
  ending : Except LexicalError Position

/-- The tokens of the text `cs`, which stands at `p`. -/
def scanFrom (p : Position) (cs : List Char) : Scan :=
  match cs with
  | [] => ⟨[], .ok p⟩
  | c :: rest =>
    if isGap c then scanFrom (p.next c) rest
    else
      match h : readToken c rest with
      | .ok r =>
        have : r.rest.length < rest.length + 1 := (readToken_splits h).rest_length_lt
        let later := scanFrom (p.advance r.text) r.rest
        ⟨⟨r.lexeme, String.ofList r.text, p⟩ :: later.tokens, later.ending⟩
      | .error fault => ⟨[], .error ⟨fault.cause, p.advance fault.before⟩⟩
termination_by cs.length

/-- The tokens of a text. -/
def tokenize (source : String) : Except LexicalError TokenStream :=
  let scan := scanFrom .start source.toList
  scan.ending.map fun finish => ⟨scan.tokens, finish⟩

end MediaLanguage
