import Mathlib
import MediaLanguage.Proofs.Position
import MediaLanguage.Proofs.Token.Boundary

/-!
# The layout of a text

A text that can be cut is its tokens with gaps around them, and nothing else (`weave`). `Woven` says so of a text
that stands at a given place, and says where each token then starts; a scan keeps it from the end of the text to the
front (`Woven.nil`, `Woven.gap`, `Woven.token`, `scanFrom_woven`).

* `tokenize_lossless`: the tokens of a text and its gaps make up the text, and every token has the position that one
  counts from the text in front of it.
-/

namespace MediaLanguage

/-! ## Gaps and pieces -/

/-- Gaps and pieces in turn: `w₀ t₁ w₁ … tₙ wₙ`. -/
def weave : List String → List String → String
  | [], _ => ""
  | w :: _, [] => w
  | w :: gaps, t :: texts => w ++ t ++ weave gaps texts

/-- What stands at the front of the first gap stands at the front of the text. -/
theorem weave_append_gap (v w : String) (gaps texts : List String) :
    weave ((v ++ w) :: gaps) texts = v ++ weave (w :: gaps) texts := by
  cases texts with
  | nil => rfl
  | cons t texts => simp [weave, String.append_assoc]

/-- A piece with no gap in front of it stands at the front of the text. -/
theorem weave_cons (t : String) (gaps texts : List String) :
    weave ("" :: gaps) (t :: texts) = t ++ weave gaps texts := by
  simp [weave]

/-! ## Texts with their layout -/

/-- The text `cs` at the place `p` is cut into `tokens` with `gaps` around them, and ends at `finish`. -/
structure Woven (p : Position) (cs : List Char) (tokens : List Token) (finish : Position) (gaps : List String) :
    Prop where
  length : gaps.length = tokens.length + 1
  blank : ∀ w ∈ gaps, ∀ c ∈ w.toList, isGap c
  text : String.ofList cs = weave gaps (tokens.map Token.text)
  /-- A token, the end included, stands behind the gaps and pieces in front of it. -/
  place : ∀ i t, (tokens ++ [Token.finish finish])[i]? = some t →
    t.position = p.advance (weave (gaps.take (i + 1)) ((tokens.map Token.text).take i)).toList

namespace Woven

/-- The empty text. -/
theorem nil (p : Position) : Woven p [] [] p [""] where
  length := rfl
  blank := by simp
  text := rfl
  place := by
    intro i t h
    cases i with
    | zero => cases h; rfl
    | succ i => cases h

/-- A gap character in front goes to the first gap. -/
theorem gap {p finish : Position} {c : Char} {cs : List Char} {tokens : List Token} {w : String} {gaps : List String}
    (hc : isGap c) (h : Woven (p.next c) cs tokens finish (w :: gaps)) :
    Woven p (c :: cs) tokens finish ((String.singleton c ++ w) :: gaps) where
  length := by simpa using h.length
  blank := by
    intro v hv d hd
    rcases List.mem_cons.1 hv with rfl | hv
    · simp only [String.toList_append, String.toList_singleton, List.singleton_append, List.mem_cons] at hd
      rcases hd with rfl | hd
      · exact hc
      · exact h.blank w List.mem_cons_self d hd
    · exact h.blank v (List.mem_cons_of_mem _ hv) d hd
  text := by
    rw [weave_append_gap, ← h.text, String.singleton_eq_ofList, ← String.ofList_append]
    rfl
  place := by
    intro i t ht
    rw [h.place i t ht, List.take_succ_cons, List.take_succ_cons, weave_append_gap, String.toList_append,
      Position.advance_append, String.toList_singleton]
    rfl

/-- A token in front has no gap in front of it. -/
theorem token {p finish : Position} {l : Lexeme} {piece rest : List Char} {tokens : List Token} {gaps : List String}
    (h : Woven (p.advance piece) rest tokens finish gaps) :
    Woven p (piece ++ rest) (⟨l, String.ofList piece, p⟩ :: tokens) finish ("" :: gaps) where
  length := by simp [h.length]
  blank := by
    intro w hw d hd
    rcases List.mem_cons.1 hw with rfl | hw
    · simp at hd
    · exact h.blank w hw d hd
  text := by rw [List.map_cons, weave_cons, ← h.text, String.ofList_append]
  place := by
    intro i t ht
    cases i with
    | zero => cases ht; rfl
    | succ i =>
      rw [List.cons_append, List.getElem?_cons_succ] at ht
      rw [h.place i t ht, List.map_cons, List.take_succ_cons, List.take_succ_cons, weave_cons, String.toList_append,
        Position.advance_append, String.toList_ofList]

end Woven

/-- A scan that reaches the end of the text finds its layout. -/
theorem scanFrom_woven (p : Position) (cs : List Char) {finish : Position}
    (h : (scanFrom p cs).ending = .ok finish) : ∃ gaps, Woven p cs (scanFrom p cs).tokens finish gaps := by
  fun_induction scanFrom p cs with
  | case1 =>
    cases h
    exact ⟨_, .nil _⟩
  | case2 p c rest hc ih =>
    obtain ⟨gaps, hg⟩ := ih h
    obtain ⟨w, gaps, rfl⟩ := List.exists_cons_of_length_pos (by rw [hg.length]; exact Nat.succ_pos _)
    exact ⟨_, hg.gap hc⟩
  | case3 p c rest hc r hr _ later ih =>
    obtain ⟨gaps, hg⟩ := ih h
    rw [← (readToken_splits hr).1]
    exact ⟨_, hg.token⟩
  | case4 => cases h

/-- Tokens, with gaps of spaces, tabs and carriage returns around them, make up the text; and each token, the one
for the end included, stands where counting over the text in front of it leads. -/
theorem tokenize_lossless {source : String} {s : TokenStream} (h : tokenize source = .ok s) :
    ∃ gaps : List String, gaps.length = s.tokens.length + 1 ∧
      (∀ w ∈ gaps, ∀ c ∈ w.toList, c = ' ' ∨ c = '\t' ∨ c = '\r') ∧
      source = weave gaps (s.tokens.map Token.text) ∧
      ∀ i t, s.withEnd[i]? = some t →
        t.position = Position.after (weave (gaps.take (i + 1)) ((s.tokens.map Token.text).take i)).toList := by
  rw [tokenize_eq_ok_iff] at h
  obtain ⟨gaps, hg⟩ := scanFrom_woven .start source.toList (by rw [h])
  rw [h] at hg
  refine ⟨gaps, hg.length, ?_, ?_, ?_⟩
  · intro w hw c hc
    simpa [isGap, or_assoc] using hg.blank w hw c hc
  · rw [← hg.text, String.ofList_toList]
  · intro i t ht
    rw [hg.place i t ht, Position.advance_start]

/-- A comment over two lines with a character of two bytes: the name behind it is in column four, at byte eight. -/
theorem tokenize_lossless_comment :
    tokenize "/*é\n*/ x" =
        .ok ⟨[⟨.blockComment "é\n", "/*é\n*/", ⟨1, 1, 0⟩⟩, ⟨.identifier, "x", ⟨2, 4, 8⟩⟩], ⟨2, 5, 9⟩⟩ ∧
      ∃ gaps : List String, gaps.length = 3 ∧ (∀ w ∈ gaps, ∀ c ∈ w.toList, c = ' ' ∨ c = '\t' ∨ c = '\r') ∧
        "/*é\n*/ x" = weave gaps ["/*é\n*/", "x"] ∧
        ∀ i t, [(⟨.blockComment "é\n", "/*é\n*/", ⟨1, 1, 0⟩⟩ : Token), ⟨.identifier, "x", ⟨2, 4, 8⟩⟩,
            ⟨.endOfInput, "", ⟨2, 5, 9⟩⟩][i]? = some t →
          t.position = Position.after (weave (gaps.take (i + 1)) (["/*é\n*/", "x"].take i)).toList := by
  have h : tokenize "/*é\n*/ x" =
      .ok ⟨[⟨.blockComment "é\n", "/*é\n*/", ⟨1, 1, 0⟩⟩, ⟨.identifier, "x", ⟨2, 4, 8⟩⟩], ⟨2, 5, 9⟩⟩ := by cbv
  exact ⟨h, tokenize_lossless h⟩

end MediaLanguage
