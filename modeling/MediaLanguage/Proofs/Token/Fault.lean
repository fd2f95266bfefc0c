import Mathlib
import MediaLanguage.Proofs.Position
import MediaLanguage.Proofs.Token.Literal

/-!
# Texts in front of a fault

A token ends where the characters behind it make it end, so a text that is cut off behind a token could be cut into
other tokens than before. It is not: what is left of an ending still is one (`Reading.EndsBefore.of_isPrefix`), and a
token is read again in front of it. So the text in front of the first fault has the tokens that were found before the
fault (`scanFrom_before_fault`).

* `readToken_eq_error`: a fault is reported at the front of its token, but for a bad escape, which has a literal in
  front of it that is in order.
* `tokenize_before_fault`: the same for whole texts, with the place of the fault.
-/

namespace MediaLanguage

/-! ## What is left of an ending -/

/-- What is left of a text that halts a run halts it. -/
theorem Halts.of_isPrefix {p : Char → Bool} {cs ds : List Char} (h : Halts p cs) (hds : ds <+: cs) : Halts p ds := by
  intro c hc
  obtain ⟨rest, rfl⟩ := hds
  exact h c (by simp [Option.mem_def.1 hc])

/-- What is left of a text that is no fraction is none. -/
theorem readFraction_of_isPrefix {cs ds : List Char} (h : readFraction cs = none) (hds : ds <+: cs) :
    readFraction ds = none := by
  obtain ⟨rest, rfl⟩ := hds
  unfold readFraction
  split
  · next c tail =>
    by_cases hc : Text.isDigit c
    · simp [readFraction, hc] at h
    · simp [hc]
  · rfl

/-- What is left of an ending of a token ends it. -/
theorem Reading.EndsBefore.of_isPrefix {r : Reading} {cs ds : List Char} (h : r.EndsBefore cs) (hds : ds <+: cs) :
    r.EndsBefore ds := by
  unfold EndsBefore at h ⊢
  split at h
  · exact Halts.of_isPrefix h hds
  · exact Halts.of_isPrefix h hds
  · exact Halts.of_isPrefix h hds
  · exact Halts.of_isPrefix h hds
  · exact Halts.of_isPrefix h hds
  · exact ⟨h.1.of_isPrefix hds, h.2.imp_right fun hf => readFraction_of_isPrefix hf hds⟩
  · trivial

/-! ## Faulty tokens -/

/-- The text goes on with a literal that is in order up to a bad escape; `f` is the fault there. -/
def BadEscape (cs : List Char) (f : Fault) : Prop :=
  ∃ items c after, cs = '"' :: bodyText items ++ '\\' :: c :: after ∧ (∀ value, (c, value) ∉ escapes) ∧
    f = ⟨.invalidEscape (String.ofList ['\\', c]), '"' :: bodyText items ++ ['\\']⟩

/-- A number that cannot be read is reported at its front. -/
theorem readNumber_eq_error {cs : List Char} {f : Fault} (h : readNumber cs = .error f) :
    ∃ text, f = ⟨.invalidNumber text, []⟩ := by
  have hreading : ∀ {whole fraction text rest : List Char}, numberReading whole fraction text rest = .error f →
      ∃ text, f = ⟨.invalidNumber text, []⟩ := by
    intro whole fraction text rest hf
    unfold numberReading at hf
    split at hf <;> cases hf
    exact ⟨_, rfl⟩
  simp only [readNumber] at h
  split at h
  · exact hreading h
  · exact hreading h

/-- A faulty token is reported at its front, or is a literal with a bad escape. -/
theorem readToken_eq_error {c : Char} {rest : List Char} {f : Fault} (h : readToken c rest = .error f) :
    BadEscape (c :: rest) f ∨ (∀ sequence, f.cause ≠ .invalidEscape sequence) ∧ f.before = [] := by
  unfold readToken at h
  split at h
  · cases h
  split at h
  · split at h
    · cases h
    · unfold readBlockComment at h
      split at h <;> cases h
      exact .inr ⟨by simp, rfl⟩
    · cases h
      exact .inr ⟨by simp, rfl⟩
  split at h
  · cases h
  split at h
  · cases h
  split at h
  · subst c
    obtain ⟨items, d, after, rfl, hd, rfl⟩ | ⟨items, tail, rfl, -, rfl⟩ := readString_eq_error_iff.1 h
    · exact .inl ⟨items, d, after, rfl, hd, rfl⟩
    · exact .inr ⟨by simp, rfl⟩
  split at h
  · obtain ⟨text, rfl⟩ := readNumber_eq_error h
    exact .inr ⟨by simp, rfl⟩
  split at h
  · cases h
  split at h <;> cases h
  exact .inr ⟨by simp, rfl⟩

/-! ## Scans -/

/-- A scan that finds a fault has a text in front of it whose tokens are those that it found. The induction is on the
scan: each token is read again in front of what is left of the text behind it. -/
theorem scanFrom_before_fault (p : Position) (cs : List Char) {e : LexicalError}
    (h : (scanFrom p cs).ending = .error e) :
    ∃ before c rest f, cs = before ++ c :: rest ∧
      scanFrom p before = ⟨(scanFrom p cs).tokens, .ok (p.advance before)⟩ ∧
      readToken c rest = .error f ∧ e = ⟨f.cause, (p.advance before).advance f.before⟩ := by
  fun_induction scanFrom p cs with
  | case1 => cases h
  | case2 p c rest hc ih =>
    obtain ⟨before, d, tail, f, rfl, hscan, hread, he⟩ := ih h
    exact ⟨c :: before, d, tail, f, rfl, by rw [scanFrom_gap hc, hscan]; rfl, hread, he⟩
  | case3 p c rest hc r hr _ later ih =>
    obtain ⟨before, d, tail, f, hrest, hscan, hread, he⟩ := ih h
    have hreads := reads_of_readToken hr
    obtain ⟨w, hw, hsplit⟩ := (readToken_splits hr).exists_tail
    have hends : r.EndsBefore before := hreads.ends.of_isPrefix ⟨d :: tail, hrest.symm⟩
    refine ⟨r.text ++ before, d, tail, f, ?_, ?_, hread, ?_⟩
    · rw [hw, List.append_assoc, ← hrest, List.cons_append, hsplit]
    · have htext : r.text ++ before = c :: (w ++ before) := by rw [hw, List.cons_append]
      rw [Position.advance_append, htext, scanFrom_token (by simpa using hc) (hreads.again hw hends)]
      simp only [Reading.before, hscan]
      rfl
    · rw [he, Position.advance_append]
  | case4 p c rest hc f hf =>
    cases h
    exact ⟨[], c, rest, f, rfl, by rw [scanFrom]; rfl, hf, rfl⟩

/-- A text cannot be cut into tokens if a scan from the start comes to a fault. -/
theorem tokenize_eq_error_iff {source : String} {e : LexicalError} :
    tokenize source = .error e ↔ (scanFrom .start source.toList).ending = .error e := by
  unfold tokenize
  obtain ⟨tokens, ending⟩ := scanFrom .start source.toList
  cases ending <;> simp [Except.map]

/-- **A lexical error points at the first bad token.** The text in front of the place is cut into the tokens that the
failed scan found, and ends at the place. A bad escape is reported inside its literal; there the place is that of the
opening quote. -/
theorem tokenize_before_fault {source : String} {e : LexicalError} (h : tokenize source = .error e) :
    ∃ (before after : String) (place : Position), source = before ++ after ∧ before.utf8ByteSize = place.offset ∧
      tokenize before = .ok ⟨(scanFrom .start source.toList).tokens, place⟩ ∧
      ((∃ items c later, after.toList = '"' :: bodyText items ++ '\\' :: c :: later ∧
          (∀ value, (c, value) ∉ escapes) ∧
          e = ⟨.invalidEscape (String.ofList ['\\', c]), place.advance ('"' :: bodyText items ++ ['\\'])⟩) ∨
        (∀ sequence, e.cause ≠ .invalidEscape sequence) ∧ e.position = place) := by
  obtain ⟨before, c, rest, f, hsource, hscan, hread, rfl⟩ :=
    scanFrom_before_fault .start source.toList (tokenize_eq_error_iff.1 h)
  refine ⟨String.ofList before, String.ofList (c :: rest), Position.start.advance before, ?_, ?_, ?_, ?_⟩
  · rw [← String.ofList_append, ← hsource, String.ofList_toList]
  · rw [Position.advance_start]
    rfl
  · rw [tokenize_eq_ok_iff, String.toList_ofList, hscan]
  · obtain ⟨items, d, later, hrest, hd, rfl⟩ | ⟨hcause, hbefore⟩ := readToken_eq_error hread
    · exact .inl ⟨items, d, later, by rw [String.toList_ofList, hrest], hd, rfl⟩
    · exact .inr ⟨hcause, by rw [hbefore]; rfl⟩

/-- The text in front of a slash that stands alone ends with a point, which belongs to no number. -/
theorem tokenize_before_fault_slash :
    tokenize "0./" = .error ⟨.unexpectedCharacter "/", ⟨1, 3, 2⟩⟩ ∧
      ∃ (before after : String) (place : Position), "0./" = before ++ after ∧ before.utf8ByteSize = place.offset ∧
        tokenize before = .ok ⟨(scanFrom .start "0./".toList).tokens, place⟩ ∧ place = ⟨1, 3, 2⟩ := by
  have h : tokenize "0./" = .error ⟨.unexpectedCharacter "/", ⟨1, 3, 2⟩⟩ := by cbv
  obtain ⟨before, after, place, hsource, hsize, htokens, ⟨items, c, later, -, -, he⟩ | ⟨-, hplace⟩⟩ :=
    tokenize_before_fault h
  · cases he
  · exact ⟨h, before, after, place, hsource, hsize, htokens, hplace.symm⟩

end MediaLanguage
