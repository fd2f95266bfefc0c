import MediaLanguage.Proofs.Position
import MediaLanguage.Proofs.Token.Boundary

/-!
# The order of tokens

The tokens of a text stand one behind the other, and the token for the end behind them all.

* `scanFrom_ascends`: every token of a scan starts behind the one in front of it, because a token is not empty.
* `tokenize_ascends`: the tokens of a text, the end included, have increasing offsets; lines and columns count from
  one.
* `kind_ne_endOfInput`: the end is the one token of its kind.
* `TokenStream.Stands` relates the indices and the places of tokens; each place has one index
  (`TokenStream.Stands.unique`).
-/

namespace MediaLanguage

/-! ## Steps forward -/

namespace Position

/-- Lines and columns count from one. -/
def Counted (p : Position) : Prop :=
  1 ≤ p.line ∧ 1 ≤ p.column

/-- A character leads to a counted place. -/
theorem Counted.next {p : Position} (h : p.Counted) (c : Char) : (p.next c).Counted := by
  unfold Position.next
  split
  · exact ⟨Nat.le_add_left _ _, Nat.le_refl _⟩
  · exact ⟨h.1, Nat.le_add_left _ _⟩

/-- A text leads to a counted place. -/
theorem Counted.advance {p : Position} (h : p.Counted) (cs : List Char) : (p.advance cs).Counted := by
  induction cs generalizing p with
  | nil => exact h
  | cons c cs ih => exact ih (h.next c)

/-- A character takes at least one byte. -/
theorem offset_lt_next (p : Position) (c : Char) : p.offset < (p.next c).offset := by
  have hsize := c.utf8Size_pos
  unfold next
  split <;> simp only <;> omega

/-- A text never leads back. -/
theorem offset_le_advance (p : Position) (cs : List Char) : p.offset ≤ (p.advance cs).offset := by
  induction cs generalizing p with
  | nil => exact Nat.le_refl _
  | cons c cs ih => exact Nat.le_trans (Nat.le_of_lt (p.offset_lt_next c)) (ih (p.next c))

/-- A text that is not empty leads forward. -/
theorem offset_lt_advance (p : Position) {cs : List Char} (h : cs ≠ []) : p.offset < (p.advance cs).offset := by
  cases cs with
  | nil => exact absurd rfl h
  | cons c cs => exact Nat.lt_of_lt_of_le (p.offset_lt_next c) (offset_le_advance _ cs)

end Position

/-! ## Scans -/

/-- Tokens that stand one behind the other, from `p` on. -/
structure Ascends (p : Position) (ts : List Token) : Prop where
  offsets : ts.Pairwise fun t u => t.position.offset < u.position.offset
  behind : ∀ t ∈ ts, p.offset ≤ t.position.offset
  counted : ∀ t ∈ ts, t.position.Counted

namespace Ascends

variable {p : Position} {ts : List Token}

/-- One token. -/
theorem single {t : Token} (hp : p.Counted) (ht : t.position = p) : Ascends p [t] where
  offsets := List.pairwise_singleton _ _
  behind := by simp [ht]
  counted := by simpa [ht] using hp

/-- What stands behind a later place stands behind an earlier one. -/
theorem of_le {q : Position} (h : Ascends q ts) (hle : p.offset ≤ q.offset) : Ascends p ts :=
  ⟨h.offsets, fun t ht => Nat.le_trans hle (h.behind t ht), h.counted⟩

/-- A token that is not empty, in front of others. -/
theorem cons {t : Token} {piece : List Char} (h : Ascends (p.advance piece) ts) (hp : p.Counted)
    (ht : t.position = p) (hpiece : piece ≠ []) : Ascends p (t :: ts) where
  offsets := by
    refine List.pairwise_cons.2 ⟨fun u hu => ?_, h.offsets⟩
    rw [ht]
    exact Nat.lt_of_lt_of_le (p.offset_lt_advance hpiece) (h.behind u hu)
  behind := by
    refine List.forall_mem_cons.2 ⟨Nat.le_of_eq (by rw [ht]), fun u hu => ?_⟩
    exact Nat.le_trans (p.offset_le_advance piece) (h.behind u hu)
  counted := List.forall_mem_cons.2 ⟨by rwa [ht], h.counted⟩

end Ascends

/-- The tokens of a scan and the end of the text behind them. -/
theorem scanFrom_ascends (p : Position) (cs : List Char) (hp : p.Counted) {finish : Position}
    (h : (scanFrom p cs).ending = .ok finish) : Ascends p ((scanFrom p cs).tokens ++ [Token.finish finish]) := by
  fun_induction scanFrom p cs with
  | case1 p =>
    cases h
    exact .single hp rfl
  | case2 p c rest hc ih => exact (ih (hp.next c) h).of_le (Nat.le_of_lt (p.offset_lt_next c))
  | case3 p c rest hc r hr _ later ih => exact (ih (hp.advance r.text) h).cons hp rfl (readToken_splits hr).2
  | case4 => cases h

/-- No token of a text is the end. -/
theorem Reads.kind_ne_endOfInput {c : Char} {rest : List Char} {r : Reading} (h : Reads c rest r) :
    r.lexeme.kind ≠ .endOfInput := by
  intro hend
  cases h with
  | number _ h =>
    obtain ⟨value, hl⟩ := readNumber_lexeme h
    rw [hl] at hend
    cases hend
  | word _ hc =>
    rcases Lexeme.ofWord_cases (String.ofList ((c :: rest).takeWhile isNameChar)) with ⟨b, hl⟩ | ⟨k, hl⟩ | hl
    all_goals
      rw [readWord, hl] at hend
      cases hend
  | _ => cases hend

/-- No token of a scan is the end. -/
theorem scanFrom_kind_ne (p : Position) (cs : List Char) :
    ∀ t ∈ (scanFrom p cs).tokens, t.kind ≠ .endOfInput := by
  fun_induction scanFrom p cs with
  | case1 => exact List.forall_mem_nil _
  | case2 p c rest hc ih => exact ih
  | case3 p c rest hc r hr _ later ih =>
    exact List.forall_mem_cons.2 ⟨(reads_of_readToken hr).kind_ne_endOfInput, ih⟩
  | case4 => exact List.forall_mem_nil _

/-! ## Whole texts -/

section Source

variable {source : String} {s : TokenStream}

/-- The tokens of a text, the end included, stand one behind the other. -/
theorem tokenize_ascends (h : tokenize source = .ok s) : Ascends .start s.withEnd := by
  rw [tokenize_eq_ok_iff] at h
  have hascends := scanFrom_ascends .start source.toList ⟨Nat.le_refl _, Nat.le_refl _⟩ (by rw [h])
  rwa [h] at hascends

/-- No token of a text is the end. -/
theorem kind_ne_endOfInput (h : tokenize source = .ok s) : ∀ t ∈ s.tokens, t.kind ≠ .endOfInput := by
  rw [tokenize_eq_ok_iff] at h
  have hkinds := scanFrom_kind_ne .start source.toList
  rwa [h] at hkinds

end Source

/-! ## Tokens and their places -/

namespace TokenStream

/-- A token stands at the index, and at the place. -/
def Stands (s : TokenStream) (i : Nat) (p : Position) : Prop :=
  ∃ t, s.withEnd[i]? = some t ∧ t.position = p

/-- The index of the first token at a place. -/
def indexAt (s : TokenStream) (p : Position) : Nat :=
  s.withEnd.findIdx fun t => t.position == p

variable {s : TokenStream} {i j : Nat} {p q : Position}

/-- The token at an index stands there. -/
theorem stands {t : Token} (h : s.withEnd[i]? = some t) : s.Stands i t.position :=
  ⟨t, h, rfl⟩

/-- A place that no token has is behind the end. -/
theorem stands_indexAt (h : s.indexAt p < s.withEnd.length) : s.Stands (s.indexAt p) p :=
  ⟨_, List.getElem?_eq_getElem h, beq_iff_eq.1 (List.findIdx_getElem (w := h))⟩

/-- A place in front of the end is that of a token. -/
theorem Stands.exists_token (h : s.Stands i p) (hlt : i < s.tokens.length) : ∃ u ∈ s.tokens, p = u.position := by
  obtain ⟨t, ht, rfl⟩ := h
  rw [withEnd, List.getElem?_append_left hlt] at ht
  exact ⟨t, List.mem_of_getElem? ht, rfl⟩

/-- A token in front of another has a smaller offset. -/
theorem Stands.offset_lt (hp : s.Stands i p) (hq : s.Stands j q) (h : Ascends .start s.withEnd) (hlt : i < j) :
    p.offset < q.offset := by
  obtain ⟨t, ht, rfl⟩ := hp
  obtain ⟨u, hu, rfl⟩ := hq
  obtain ⟨hi, rfl⟩ := List.getElem?_eq_some_iff.1 ht
  obtain ⟨hj, rfl⟩ := List.getElem?_eq_some_iff.1 hu
  exact List.pairwise_iff_getElem.1 h.offsets i j hi hj hlt

/-- A token that is not behind another has no greater offset. -/
theorem Stands.offset_le (hp : s.Stands i p) (hq : s.Stands j q) (h : Ascends .start s.withEnd) (hle : i ≤ j) :
    p.offset ≤ q.offset := by
  rcases Nat.lt_or_eq_of_le hle with hlt | rfl
  · exact Nat.le_of_lt (hp.offset_lt hq h hlt)
  · obtain ⟨t, ht, rfl⟩ := hp
    obtain ⟨u, hu, rfl⟩ := hq
    obtain rfl := Option.some.inj (ht.symm.trans hu)
    exact Nat.le_refl _

/-- No two tokens stand at one place. -/
theorem Stands.unique (hp : s.Stands i p) (hq : s.Stands j p) (h : Ascends .start s.withEnd) : i = j := by
  rcases Nat.lt_trichotomy i j with hlt | heq | hlt
  · exact absurd (hp.offset_lt hq h hlt) (Nat.lt_irrefl _)
  · exact heq
  · exact absurd (hq.offset_lt hp h hlt) (Nat.lt_irrefl _)

/-- The index at the place of a token is that of the token. -/
theorem Stands.indexAt_eq (hp : s.Stands i p) (h : Ascends .start s.withEnd) : s.indexAt p = i := by
  have hlt : s.indexAt p < s.withEnd.length := by
    obtain ⟨t, ht, rfl⟩ := hp
    exact List.findIdx_lt_length_of_exists ⟨t, List.mem_of_getElem? ht, beq_self_eq_true _⟩
  exact (stands_indexAt hlt).unique hp h

end TokenStream

end MediaLanguage
