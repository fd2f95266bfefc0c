import MediaLanguage.Proofs.Position
import MediaLanguage.Proofs.Token.Boundary

/-!
# Two texts with a line break between them

A line break ends every token, so nothing of the first text reaches into the second: the joined text has the tokens
of the first, the line break, and the tokens of the second, moved behind it (`tokenize_joined`).
-/

namespace MediaLanguage

/-- The token at another place. -/
def Token.relocate (f : Position → Position) (t : Token) : Token :=
  { t with position := f t.position }

/-- A token at its own place. -/
theorem Token.relocate_id : Token.relocate id = id := rfl

/-- A scan that reaches the end of a text ends where the text leads. -/
theorem scanFrom_finish (p : Position) (cs : List Char) {q : Position} (h : (scanFrom p cs).ending = .ok q) :
    q = p.advance cs := by
  fun_induction scanFrom p cs with
  | case1 => cases h; rfl
  | case2 p c rest hc ih => exact ih h
  | case3 p c rest hc r hr _ later ih =>
    rw [ih h, ← Position.advance_append, (readToken_splits hr).1]
  | case4 => cases h

/-- A scan of a text goes on behind a line break as a scan of the text behind it. -/
theorem scanFrom_append_newline (p : Position) (cs ds : List Char) {q : Position}
    (h : (scanFrom p cs).ending = .ok q) :
    scanFrom p (cs ++ '\n' :: ds) =
      ⟨(scanFrom p cs).tokens ++ ⟨.newline, "\n", q⟩ :: (scanFrom (q.next '\n') ds).tokens,
        (scanFrom (q.next '\n') ds).ending⟩ := by
  fun_induction scanFrom p cs with
  | case1 =>
    cases h
    exact scanFrom_token rfl (.newline ds) _
  | case2 p c rest hc ih => rw [List.cons_append, scanFrom_gap hc, ih h]
  | case3 p c rest hc r hr _ later ih =>
    have hreads := reads_of_readToken hr
    obtain ⟨w, hw, hrest⟩ := (readToken_splits hr).exists_tail
    have hagain := hreads.again hw (hreads.ends.append_newline ds)
    rw [← List.append_assoc, hrest] at hagain
    rw [List.cons_append, scanFrom_token (by simpa using hc) hagain]
    simp only [Reading.before, ih h, List.cons_append]
    rfl
  | case4 => cases h

/-- A scan from the place behind a text finds the same tokens, moved behind the text. -/
theorem scanFrom_behind (front : List Char) (p : Position) (cs : List Char) {q : Position}
    (h : (scanFrom p cs).ending = .ok q) :
    scanFrom (p.behind front) cs =
      ⟨(scanFrom p cs).tokens.map (Token.relocate (Position.behind front)), .ok (q.behind front)⟩ := by
  fun_induction scanFrom p cs with
  | case1 => cases h; rw [scanFrom]; rfl
  | case2 p c rest hc ih => rw [scanFrom_gap hc, ← Position.behind_next, ih h]
  | case3 p c rest hc r hr _ later ih =>
    rw [scanFrom_token (by simpa using hc) (reads_of_readToken hr), ← Position.behind_advance, ih h]
    rfl
  | case4 => cases h

/-- The tokens of two texts with a line break between them. -/
theorem tokenize_joined {a b : String} {s t : TokenStream} (ha : tokenize a = .ok s) (hb : tokenize b = .ok t) :
    tokenize (a ++ "\n" ++ b) =
      .ok ⟨s.tokens ++ ⟨.newline, "\n", s.finish⟩ :: t.tokens.map (Token.relocate (Position.behind a.toList)),
        t.finish.behind a.toList⟩ := by
  rw [tokenize_eq_ok_iff] at ha hb ⊢
  have hfinish := scanFrom_finish .start a.toList (by rw [ha])
  have hnext : s.finish.next '\n' = Position.behind a.toList .start := by
    rw [hfinish, Position.advance_start, Position.behind_start]
  have htext : (a ++ "\n" ++ b).toList = a.toList ++ '\n' :: b.toList := by simp
  have hfirst := scanFrom_append_newline .start a.toList b.toList (q := s.finish) (by rw [ha])
  have hsecond := scanFrom_behind a.toList .start b.toList (q := t.finish) (by rw [hb])
  rw [htext, hfirst, hnext, hsecond, ha, hb]

end MediaLanguage
