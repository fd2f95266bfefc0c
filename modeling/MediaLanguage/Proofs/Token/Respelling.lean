import MediaLanguage.Proofs.Position
import MediaLanguage.Proofs.Token.Layout
import MediaLanguage.Text.Case

/-!
# Words in another letter case

Letters that differ in case alone are the same to a scan: they are of the same classes, take one byte, and a word means
what its letters mean in lower case. So a text whose words are written in another case is cut at the same places.

* `Reads.respell`: a token is read again, in another spelling and in front of what ends it.
* `scanFrom_respelled`: the tokens of a scan are found again in another spelling, at their places.
* `tokenize_respelled`: the same for whole texts.
-/

namespace MediaLanguage

/-! ## Letters -/

/-- A character in lower case is the character, or both are letters. -/
theorem toLower_eq_or_isAlpha (c : Char) : c.toLower = c ∨ c.isAlpha ∧ c.toLower.isAlpha := by
  by_cases h : 65 ≤ c.toNat ∧ c.toNat ≤ 90
  · have hletters : ∀ n : Fin 26, (Char.ofNat (65 + n)).isAlpha ∧ (Char.ofNat (65 + n)).toLower.isAlpha := by decide
    have hletter := hletters ⟨c.toNat - 65, by omega⟩
    have hc : Char.ofNat (65 + (c.toNat - 65)) = c := by
      rw [Nat.add_sub_cancel' h.1, Char.ofNat_toNat]
    rw [hc] at hletter
    exact .inr hletter
  · left
    unfold Char.toLower
    rw [dif_neg]
    rintro ⟨hge, hle⟩
    exact h ⟨UInt32.le_iff_toNat_le.1 hge, UInt32.le_iff_toNat_le.1 hle⟩

/-- Characters that are the same in lower case are the same, or both are letters. -/
theorem eq_or_isAlpha_of_toLower_eq {c d : Char} (h : c.toLower = d.toLower) : c = d ∨ c.isAlpha ∧ d.isAlpha := by
  obtain hc | hc := toLower_eq_or_isAlpha c <;> obtain hd | hd := toLower_eq_or_isAlpha d
  · exact .inl (by rw [← hc, h, hd])
  · exact .inr ⟨by rw [← hc, h]; exact hd.2, hd.1⟩
  · exact .inr ⟨hc.1, by rw [← hd, ← h]; exact hc.2⟩
  · exact .inr ⟨hc.1, hd.1⟩

/-- What holds of all ASCII letters. -/
theorem isAlpha_induction {P : Char → Prop} (h : ∀ n : Fin 128, (Char.ofNat n).isAlpha → P (Char.ofNat n)) {c : Char}
    (hc : c.isAlpha) : P c := by
  have hlt : c.toNat < 128 := by
    simp only [Char.isAlpha, Char.isUpper, Char.isLower, Bool.or_eq_true, Bool.and_eq_true, decide_eq_true_eq,
      ge_iff_le, UInt32.le_iff_toNat_le] at hc
    rcases hc with hc | hc
    · exact Nat.lt_of_le_of_lt hc.2 (by decide)
    · exact Nat.lt_of_le_of_lt hc.2 (by decide)
  have hletter := h ⟨c.toNat, hlt⟩
  simp only [Char.ofNat_toNat] at hletter
  exact hletter hc

/-- A class of characters that does not tell letter cases apart. -/
def CaseBlind (p : Char → Bool) : Prop :=
  ∀ c d : Char, c.toLower = d.toLower → p c = p d

/-- A class that has all letters or none is blind to their case. -/
theorem CaseBlind.of_letters {p : Char → Bool} (b : Bool)
    (h : ∀ n : Fin 128, (Char.ofNat n).isAlpha → p (Char.ofNat n) = b) : CaseBlind p := by
  intro c d hcd
  obtain rfl | ⟨hc, hd⟩ := eq_or_isAlpha_of_toLower_eq hcd
  · rfl
  · rw [isAlpha_induction (P := fun c => p c = b) h hc, isAlpha_induction (P := fun c => p c = b) h hd]

theorem caseBlind_isNameStart : CaseBlind isNameStart := .of_letters true (by decide)

theorem caseBlind_isNameChar : CaseBlind isNameChar := .of_letters true (by decide)

theorem caseBlind_isTagChar : CaseBlind isTagChar := .of_letters true (by decide)

theorem caseBlind_isGap : CaseBlind isGap := .of_letters false (by decide)

theorem caseBlind_isDigit : CaseBlind Text.isDigit := .of_letters false (by decide)

theorem caseBlind_ne_newline : CaseBlind (· != '\n') := .of_letters true (by decide)

/-- Letters take one byte, and none of them ends a line. -/
theorem Position.next_eq_of_toLower_eq {c d : Char} (h : c.toLower = d.toLower) (p : Position) :
    p.next c = p.next d := by
  have hletter : ∀ {c : Char}, c.isAlpha → c ≠ '\n' ∧ c.utf8Size = 1 :=
    isAlpha_induction (P := fun c => c ≠ '\n' ∧ c.utf8Size = 1) (by decide)
  obtain rfl | ⟨hc, hd⟩ := eq_or_isAlpha_of_toLower_eq h
  · rfl
  · rw [next, next, if_neg (hletter hc).1, if_neg (hletter hd).1, (hletter hc).2, (hletter hd).2]

/-! ## Texts in another letter case -/

/-- Texts that differ in the case of letters alone. -/
def SameLetters (cs ds : List Char) : Prop :=
  cs.map Char.toLower = ds.map Char.toLower

namespace SameLetters

variable {cs ds : List Char}

/-- Texts that are the same in lower case. -/
theorem of_lower {v w : String} (h : Text.lower v = Text.lower w) : SameLetters v.toList w.toList := by
  have htext := congrArg String.toList h
  rwa [Text.lower, Text.lower, String.toList_map, String.toList_map] at htext

/-- The first characters. -/
theorem cases_cons {c : Char} (h : SameLetters (c :: cs) ds) :
    ∃ d es, ds = d :: es ∧ c.toLower = d.toLower ∧ SameLetters cs es := by
  cases ds with
  | nil => cases h
  | cons d es =>
    obtain ⟨hhead, htail⟩ := List.cons.inj h
    exact ⟨d, es, rfl, hhead, htail⟩

/-- The other way round. -/
theorem symm (h : SameLetters cs ds) : SameLetters ds cs :=
  Eq.symm h

/-- Texts one behind the other. -/
theorem append {vs ws : List Char} (h : SameLetters cs ds) (h' : SameLetters vs ws) :
    SameLetters (cs ++ vs) (ds ++ ws) := by
  rw [SameLetters, List.map_append, List.map_append, h, h']

/-- The places behind the texts are the same. -/
theorem advance_eq (h : SameLetters cs ds) (p : Position) : p.advance cs = p.advance ds := by
  induction cs generalizing p ds with
  | nil =>
    cases ds with
    | nil => rfl
    | cons d ds => cases h
  | cons c cs ih =>
    obtain ⟨d, es, rfl, hhead, htail⟩ := h.cases_cons
    show (p.next c).advance cs = (p.next d).advance es
    rw [Position.next_eq_of_toLower_eq hhead, ih htail]

/-- The characters are of the same classes. -/
theorem forall_mem {p : Char → Bool} (hp : CaseBlind p) (h : SameLetters cs ds) (hcs : ∀ c ∈ cs, p c) :
    ∀ d ∈ ds, p d := by
  induction cs generalizing ds with
  | nil =>
    cases ds with
    | nil => exact List.forall_mem_nil _
    | cons d ds => cases h
  | cons c cs ih =>
    obtain ⟨d, es, rfl, hhead, htail⟩ := h.cases_cons
    obtain ⟨hc, hcs⟩ := List.forall_mem_cons.1 hcs
    exact List.forall_mem_cons.2 ⟨hp c d hhead ▸ hc, ih htail hcs⟩

/-- Runs of characters are halted alike. -/
theorem halts {p : Char → Bool} (hp : CaseBlind p) (h : SameLetters cs ds) (hhalts : Halts p cs) : Halts p ds := by
  cases cs with
  | nil =>
    cases ds with
    | nil => exact .nil
    | cons d ds => cases h
  | cons c cs =>
    obtain ⟨d, es, rfl, hhead, -⟩ := h.cases_cons
    exact .cons (hp c d hhead ▸ hhalts c rfl)

/-- A point with a digit behind it is one in any case. -/
theorem readFraction_eq_none (h : SameLetters cs ds) (hnone : readFraction cs = none) : readFraction ds = none := by
  by_contra hsome
  obtain ⟨⟨fraction, rest⟩, hread⟩ := Option.ne_none_iff_exists'.1 hsome
  unfold readFraction at hread
  split at hread
  · next d rest' =>
    split at hread
    · next hd =>
      obtain ⟨c, cs, rfl, hpoint, htail⟩ := h.symm.cases_cons
      obtain ⟨c', cs, rfl, hdigit, -⟩ := htail.cases_cons
      obtain rfl : '.' = c := by
        obtain heq | ⟨halpha, -⟩ := eq_or_isAlpha_of_toLower_eq hpoint
        · exact heq
        · cases halpha
      rw [readFraction, if_pos (caseBlind_isDigit _ _ hdigit ▸ hd)] at hnone
      cases hnone
    · cases hread
  · cases hread

/-- What ends a token ends it in any case. -/
theorem endsBefore {r : Reading} (h : SameLetters cs ds) (hends : r.EndsBefore cs) : r.EndsBefore ds := by
  unfold Reading.EndsBefore at hends ⊢
  split at hends
  · exact h.halts caseBlind_ne_newline hends
  · exact h.halts caseBlind_isTagChar hends
  · exact h.halts caseBlind_isNameChar hends
  · exact h.halts caseBlind_isNameChar hends
  · exact h.halts caseBlind_isNameChar hends
  · exact ⟨h.halts caseBlind_isDigit hends.1, hends.2.imp_right h.readFraction_eq_none⟩
  · trivial

end SameLetters

/-! ## Tokens -/

/-- Whether tokens of the kind are read as words: names, keywords and truth values. -/
def Kind.isWord : Kind → Bool
  | .identifier | .keyword _ | .boolean => true
  | _ => false

/-- A text in place of the text of a token: another spelling of a word, and the same text for all other tokens. -/
def Token.Respells (t : Token) (word : String) : Prop :=
  if t.kind.isWord then Text.lower t.text = Text.lower word else t.text = word

/-- Another spelling has the same letters. -/
theorem Token.Respells.sameLetters {t : Token} {word : String} (h : t.Respells word) :
    SameLetters t.text.toList word.toList := by
  unfold Token.Respells at h
  split at h
  · exact .of_lower h
  · rw [h]
    rfl

/-- A word means what its letters mean in lower case. -/
theorem Lexeme.ofWord_eq {v w : String} (h : Text.lower v = Text.lower w) : ofWord v = ofWord w := by
  rw [ofWord, ofWord, h]

/-- A word is read by the reader of words. -/
theorem Reads.eq_readWord {c : Char} {rest : List Char} {r : Reading} (h : Reads c rest r)
    (hword : r.lexeme.kind.isWord) : isNameStart c ∧ r = readWord (c :: rest) := by
  cases h with
  | word _ hc => exact ⟨hc, rfl⟩
  | number _ hr =>
    obtain ⟨value, hl⟩ := readNumber_lexeme hr
    rw [hl] at hword
    cases hword
  | _ => cases hword

/-- A word in another spelling. -/
theorem readWord_respell {cs ws ds : List Char} (hletters : SameLetters (cs.takeWhile isNameChar) ws)
    (hends : Halts isNameChar ds) : readWord (ws ++ ds) = ⟨(readWord cs).lexeme, ws, ds⟩ := by
  have hchars : ∀ c ∈ ws, isNameChar c := hletters.forall_mem caseBlind_isNameChar fun c => mem_takeWhile_imp
  have hlower : Text.lower (String.ofList ws) = Text.lower (String.ofList (cs.takeWhile isNameChar)) := by
    rw [← String.toList_inj, Text.lower, Text.lower, String.toList_map, String.toList_map, String.toList_ofList,
      String.toList_ofList]
    exact hletters.symm
  simp only [readWord, hends.takeWhile_append hchars, hends.dropWhile_append hchars, Lexeme.ofWord_eq hlower]

/-- A token is read again, in another spelling and in front of what ends it. -/
theorem Reads.respell {c : Char} {rest ds : List Char} {r : Reading} (h : Reads c rest r) (hc : isGap c = false)
    {p : Position} {word : String} (hword : Token.Respells ⟨r.lexeme, String.ofList r.text, p⟩ word)
    (hends : r.EndsBefore ds) :
    ∃ d ws, word.toList = d :: ws ∧ isGap d = false ∧ Reads d (ws ++ ds) ⟨r.lexeme, word.toList, ds⟩ := by
  have hletters := hword.sameLetters
  obtain ⟨w, hw, -⟩ := (readToken_splits (readToken_of_reads h)).exists_tail
  simp only [String.toList_ofList, hw] at hletters
  obtain ⟨d, ws, hds, hhead, htail⟩ := hletters.cases_cons
  refine ⟨d, ws, hds, caseBlind_isGap c d hhead ▸ hc, ?_⟩
  unfold Token.Respells at hword
  split at hword
  · next hkind =>
    obtain ⟨hstart, rfl⟩ := h.eq_readWord hkind
    rw [hds] at hletters ⊢
    rw [← hw] at hletters
    rw [← readWord_respell hletters ((endsBefore_readWord _ _).1 hends)]
    exact .word _ (caseBlind_isNameStart c d hhead ▸ hstart)
  · have htext : word.toList = c :: w := by rw [← hword, String.toList_ofList, hw]
    obtain ⟨rfl, rfl⟩ := List.cons.inj (htext.symm.trans hds)
    rw [hds, ← hw]
    exact h.again hw hends

/-! ## Scans -/

/-- A token with another text. -/
def Token.withText (t : Token) (word : String) : Token :=
  { t with text := word }

/-- No token starts with a gap. -/
theorem scanFrom_head (p : Position) (cs : List Char) :
    ∀ t ∈ (scanFrom p cs).tokens, ∃ d ws, t.text.toList = d :: ws ∧ isGap d = false := by
  fun_induction scanFrom p cs with
  | case1 => exact List.forall_mem_nil _
  | case2 p c rest hc ih => exact ih
  | case3 p c rest hc r hr _ later ih =>
    obtain ⟨w, hw, -⟩ := (readToken_splits hr).exists_tail
    exact List.forall_mem_cons.2 ⟨⟨c, w, by rw [String.toList_ofList, hw], by simpa using hc⟩, ih⟩
  | case4 => exact List.forall_mem_nil _

/-- Texts with the same gaps and the same tokens, but for their spelling, have the same letters. -/
theorem sameLetters_weave {tokens : List Token} {words : List String} (h : List.Forall₂ Token.Respells tokens words)
    (gaps : List String) : SameLetters (weave gaps (tokens.map Token.text)).toList (weave gaps words).toList := by
  induction h generalizing gaps with
  | nil => rfl
  | cons hword _ ih =>
    cases gaps with
    | nil => rfl
    | cons w gaps =>
      simp only [List.map_cons, weave, String.toList_append]
      exact (SameLetters.append rfl hword.sameLetters).append (ih gaps)

/-- A character at the front of the first gap is the first of the text. -/
theorem toList_weave_gap (c : Char) (w : List Char) (gaps texts : List String) :
    (weave (String.ofList (c :: w) :: gaps) texts).toList = c :: (weave (String.ofList w :: gaps) texts).toList := by
  have hgap : String.ofList (c :: w) = String.singleton c ++ String.ofList w := by
    rw [String.singleton_eq_ofList, ← String.ofList_append]
    rfl
  rw [hgap, weave_append_gap, String.toList_append, String.toList_singleton, List.singleton_append]

/-- Behind an empty gap the text starts with its first piece. -/
theorem toList_weave_piece (t : String) (gaps texts : List String) :
    (weave ("" :: gaps) (t :: texts)).toList = t.toList ++ (weave gaps texts).toList := by
  rw [weave_cons, String.toList_append]

/-- The tokens of a scan are found again in another spelling, at their places. The induction follows the scan: the
first gap loses a character, or it is empty and a token is read. -/
theorem scanFrom_respelled (p : Position) (cs : List Char) {finish : Position} {gaps words : List String}
    (hfinish : (scanFrom p cs).ending = .ok finish) (hlength : gaps.length = (scanFrom p cs).tokens.length + 1)
    (hblank : ∀ w ∈ gaps, ∀ c ∈ w.toList, isGap c)
    (htext : cs = (weave gaps ((scanFrom p cs).tokens.map Token.text)).toList)
    (hwords : List.Forall₂ Token.Respells (scanFrom p cs).tokens words) :
    scanFrom p (weave gaps words).toList =
      ⟨List.zipWith Token.withText (scanFrom p cs).tokens words, .ok finish⟩ := by
  fun_induction scanFrom p cs generalizing gaps words with
  | case1 p =>
    cases hwords
    rw [List.map_nil] at htext
    cases hfinish
    rw [← htext, scanFrom, List.zipWith_nil_left]
  | case2 p c rest hc ih =>
    obtain ⟨g, gaps, rfl⟩ := List.exists_cons_of_length_pos (by rw [hlength]; exact Nat.succ_pos _)
    obtain ⟨w, rfl⟩ : ∃ w, g = String.ofList w := ⟨g.toList, String.ofList_toList.symm⟩
    obtain ⟨hfirst, hgaps⟩ := List.forall_mem_cons.1 hblank
    rw [String.toList_ofList] at hfirst
    cases w with
    | nil =>
      -- the gap character would be the first of a token
      exfalso
      have hheads := scanFrom_head (p.next c) rest
      cases htokens : (scanFrom (p.next c) rest).tokens with
      | nil =>
        rw [htokens] at htext
        cases htext
      | cons t ts =>
        rw [htokens] at htext hheads
        obtain ⟨d, ws, hd, hgap⟩ := hheads t List.mem_cons_self
        rw [List.map_cons, String.ofList_nil, toList_weave_piece, hd] at htext
        rw [(List.cons.inj htext).1, hgap] at hc
        cases hc
    | cons d w =>
      rw [toList_weave_gap] at htext
      obtain ⟨rfl, hrest⟩ := List.cons.inj htext
      rw [toList_weave_gap, scanFrom_gap hc]
      refine ih hfinish hlength (List.forall_mem_cons.2 ⟨?_, hgaps⟩) hrest hwords
      rw [String.toList_ofList]
      exact (List.forall_mem_cons.1 hfirst).2
  | case3 p c rest hc r hr _ later =>
    rename_i ih
    obtain ⟨g, gaps, rfl⟩ := List.exists_cons_of_length_pos (by rw [hlength]; exact Nat.succ_pos _)
    obtain ⟨w, rfl⟩ : ∃ w, g = String.ofList w := ⟨g.toList, String.ofList_toList.symm⟩
    obtain ⟨hfirst, hgaps⟩ := List.forall_mem_cons.1 hblank
    rw [String.toList_ofList] at hfirst
    cases w with
    | cons d w =>
      rw [toList_weave_gap] at htext
      rw [(List.cons.inj htext).1] at hc
      exact absurd ((List.forall_mem_cons.1 hfirst).1) hc
    | nil =>
      have hreads := reads_of_readToken hr
      cases hwords with
      | @cons _ word _ words hword hwords =>
        rw [List.map_cons, String.ofList_nil, toList_weave_piece, String.toList_ofList, ← (readToken_splits hr).1,
          List.append_cancel_left_eq] at htext
        have hagain := ih hfinish (Nat.succ.inj hlength) hgaps htext hwords
        have hends : r.EndsBefore (weave gaps words).toList := by
          refine (sameLetters_weave hwords gaps).endsBefore ?_
          rw [← htext]
          exact hreads.ends
        obtain ⟨d, ws, hds, hgap, hrespelled⟩ := hreads.respell (by simpa using hc) hword hends
        have hadvance : p.advance word.toList = p.advance r.text := by
          have hletters := hword.sameLetters
          rw [String.toList_ofList] at hletters
          exact (hletters.advance_eq p).symm
        rw [String.ofList_nil, toList_weave_piece, hds, List.cons_append, scanFrom_token hgap hrespelled, hadvance,
          hagain, String.ofList_toList]
        rfl
  | case4 => cases hfinish

/-! ## Whole texts -/

/-- The text `b` is the text `a` of the tokens, with letters of its words in another case: the gaps between the tokens
are the same, and so are all tokens that are no words. -/
def TokenStream.Respelled (s : TokenStream) (a b : String) : Prop :=
  ∃ gaps words : List String, gaps.length = s.tokens.length + 1 ∧ (∀ w ∈ gaps, ∀ c ∈ w.toList, isGap c) ∧
    a = weave gaps (s.tokens.map Token.text) ∧ List.Forall₂ Token.Respells s.tokens words ∧ b = weave gaps words

/-- The tokens of a text are found in another spelling of the text, at their places. -/
theorem tokenize_respelled {a b : String} {s : TokenStream} (ha : tokenize a = .ok s) (h : s.Respelled a b) :
    ∃ words, List.Forall₂ Token.Respells s.tokens words ∧
      tokenize b = .ok ⟨List.zipWith Token.withText s.tokens words, s.finish⟩ := by
  obtain ⟨gaps, words, hlength, hblank, rfl, hwords, rfl⟩ := h
  rw [tokenize_eq_ok_iff] at ha
  have hscan := scanFrom_respelled .start (weave gaps (s.tokens.map Token.text)).toList (by rw [ha])
    (by rw [ha]; exact hlength) hblank (by rw [ha]) (by rw [ha]; exact hwords)
  rw [ha] at hscan
  exact ⟨words, hwords, tokenize_eq_ok_iff.2 hscan⟩

end MediaLanguage
