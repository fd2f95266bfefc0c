import Mathlib
import MediaLanguage.Proofs.Token.Boundary

/-!
# Reading tokens again

The texts of tokens, with single spaces between them, are cut into tokens of the same kinds and values. A space ends
every token but a line comment; a line comment is followed by a line break, so it only takes the space in front of
the line break, and its value has no blanks at its ends (`strip_append_space`).

* `scanFrom_spaced`: what a scan finds is found again in the spaced texts, from any place on.
* `tokenize_spaced`: the same for whole texts.
-/

namespace MediaLanguage

/-! ## Kinds and values -/

/-- What a token stands for besides its kind. -/
inductive Payload where
  | none
  | text (value : String)
  | number (value : Number)
  | boolean (value : Bool)
deriving DecidableEq

namespace Token

/-- The value of a token; a name stands for its text, and keywords and marks have no value. -/
def payload (t : Token) : Payload :=
  match t.lexeme with
  | .identifier => .text t.text
  | .string value | .comment value | .blockComment value | .tag value => .text value
  | .number value => .number value
  | .boolean value => .boolean value
  | .keyword _ | .mark _ | .newline | .endOfInput => .none

/-- Kind and value of a token. -/
def content (t : Token) : Kind × Payload :=
  (t.kind, t.payload)

/-- The content of a token does not depend on its place, and the content of a comment not on its text. -/
theorem content_eq {l : Lexeme} {v w : String} (p q : Position) (h : v = w ∨ ∃ body, l = .comment body) :
    content ⟨l, v, p⟩ = content ⟨l, w, q⟩ := by
  rcases h with rfl | ⟨body, rfl⟩ <;> rfl

end Token

/-! ## Comments in front of a space -/

namespace Text

/-- A space at the end of a text is removed with the blanks at its ends. -/
theorem strip_append_space (cs : List Char) : strip (cs ++ [' ']) = strip cs := by
  have hspace : isBlank ' ' = true := by decide
  have hright : ∀ ds : List Char, stripRight (ds ++ [' ']) = stripRight ds := by
    intro ds
    simp [stripRight, hspace]
  unfold strip stripLeft
  rw [List.dropWhile_append]
  split
  · next hempty =>
    rw [List.isEmpty_iff.1 hempty]
    simp [hspace]
  · rw [hright]

end Text

/-- A line comment takes a space in front of the end of its line, and keeps its value. -/
theorem readLineComment_space (marker rest : List Char) {cs : List Char} (h : Halts (· != '\n') cs) :
    readLineComment marker (rest.takeWhile (· != '\n') ++ ' ' :: cs) =
      ⟨(readLineComment marker rest).lexeme, (readLineComment marker rest).text ++ [' '], cs⟩ := by
  have hbody : ∀ c ∈ rest.takeWhile (· != '\n') ++ [' '], (c != '\n') := by
    intro c hc
    rcases List.mem_append.1 hc with hc | hc
    · exact mem_takeWhile_imp (p := (· != '\n')) hc
    · rw [List.mem_singleton.1 hc]; rfl
  rw [List.append_cons]
  simp only [readLineComment, h.takeWhile_append hbody, h.dropWhile_append hbody, Text.strip_append_space]
  rw [List.append_assoc]

/-- A comment is read again with a space in front of the end of its line. -/
theorem Reads.comment_space {c : Char} {rest w : List Char} {r : Reading} {body : String} (h : Reads c rest r)
    (hr : r.lexeme = .comment body) (hw : r.text = c :: w) {cs : List Char} (hcs : Halts (· != '\n') cs) :
    Reads c (w ++ ' ' :: cs) ⟨r.lexeme, r.text ++ [' '], cs⟩ := by
  cases h with
  | slashes rest =>
    cases hw
    rw [← readLineComment_space _ rest hcs]
    exact .slashes _
  | hash =>
    cases hw
    rw [← readLineComment_space _ rest hcs]
    exact .hash _
  | number hc h =>
    obtain ⟨value, hl⟩ := readNumber_lexeme h
    rw [hl] at hr
    cases hr
  | word _ hc =>
    rcases Lexeme.ofWord_cases (String.ofList ((c :: rest).takeWhile isNameChar)) with ⟨b, hl⟩ | ⟨k, hl⟩ | hl
    all_goals
      rw [readWord, hl] at hr
      cases hr
  | newline => cases hr
  | block => cases hr
  | tag => cases hr
  | string => cases hr
  | mark => cases hr

/-! ## Spaced texts -/

/-- The texts of tokens with single spaces between them. -/
def spaced (tokens : List Token) : List Char :=
  [' '].intercalate (tokens.map fun t => t.text.toList)

/-- What stands behind the first of some tokens in their spaced texts. -/
def spacedTail : List Token → List Char
  | [] => []
  | t :: ts => ' ' :: spaced (t :: ts)

/-- Spaced texts start with the text of the first token. -/
theorem spaced_cons (t : Token) (ts : List Token) : spaced (t :: ts) = t.text.toList ++ spacedTail ts := by
  cases ts with
  | nil => simp [spaced, spacedTail]
  | cons u ts => simp [spaced, spacedTail]

/-- A scan of what stands behind a token finds what a scan of the later tokens finds. -/
theorem scanFrom_spacedTail (p : Position) (ts : List Token) :
    ∃ q, scanFrom p (spacedTail ts) = scanFrom q (spaced ts) := by
  cases ts with
  | nil => exact ⟨p, rfl⟩
  | cons t ts => exact ⟨p.next ' ', scanFrom_gap rfl p _⟩

/-- The contents of the tokens are found again in their spaced texts, from every place on. -/
def Respaced (ts : List Token) : Prop :=
  ∀ p, ∃ us finish, scanFrom p (spaced ts) = ⟨us, .ok finish⟩ ∧ us.map Token.content = ts.map Token.content

namespace Respaced

/-- No token. -/
theorem nil : Respaced [] := by
  intro p
  exact ⟨[], p, by rw [show spaced [] = [] from rfl, scanFrom], rfl⟩

/-- A token that is read from the front of the spaced texts, if the later tokens are found behind it. -/
theorem of_reads {c : Char} {rest : List Char} {r : Reading} {t : Token} {ts : List Token} (hc : isGap c = false)
    (h : Reads c rest r) (hspaced : spaced (t :: ts) = c :: rest)
    (hcontent : ∀ p, Token.content ⟨r.lexeme, String.ofList r.text, p⟩ = t.content)
    (hrest : ∀ p, ∃ q, scanFrom p r.rest = scanFrom q (spaced ts)) (hts : Respaced ts) : Respaced (t :: ts) := by
  intro p
  obtain ⟨q, hq⟩ := hrest (p.advance r.text)
  obtain ⟨us, finish, hscan, hus⟩ := hts q
  refine ⟨⟨r.lexeme, String.ofList r.text, p⟩ :: us, finish, ?_, ?_⟩
  · rw [hspaced, scanFrom_token hc h, hq, hscan]
  · rw [List.map_cons, List.map_cons, hcontent, hus]

/-- A token of a text, in front of later tokens; a line comment is followed by a line break or by nothing. -/
theorem cons {c : Char} {rest : List Char} {r : Reading} {p : Position} {ts : List Token} (hc : isGap c = false)
    (h : Reads c rest r)
    (hline : ∀ body, r.lexeme = .comment body → ts = [] ∨ ∃ q us, ts = ⟨.newline, "\n", q⟩ :: us)
    (hts : Respaced ts) : Respaced (⟨r.lexeme, String.ofList r.text, p⟩ :: ts) := by
  obtain ⟨w, hw, -⟩ := (readToken_splits (readToken_of_reads h)).exists_tail
  have hspaced : spaced (⟨r.lexeme, String.ofList r.text, p⟩ :: ts) = c :: (w ++ spacedTail ts) := by
    rw [spaced_cons, String.toList_ofList, hw, List.cons_append]
  have hplain : r.EndsBefore (spacedTail ts) → Respaced (⟨r.lexeme, String.ofList r.text, p⟩ :: ts) := fun hends =>
    of_reads hc (h.again hw hends) hspaced (fun q => Token.content_eq q p (.inl rfl))
      (fun q => scanFrom_spacedTail q ts) hts
  by_cases hcomment : ∃ body, r.lexeme = .comment body
  · obtain ⟨body, hbody⟩ := hcomment
    rcases hline body hbody with rfl | ⟨q, us, rfl⟩
    · apply hplain
      simp only [Reading.EndsBefore, hbody]
      exact Halts.nil
    · -- the comment takes the space, and the line break behind it is the rest
      have hhalt : Halts (· != '\n') (spaced (⟨.newline, "\n", q⟩ :: us)) := by
        rw [spaced_cons, show "\n".toList = ['\n'] from rfl]
        exact .cons rfl
      exact of_reads hc (h.comment_space hbody hw hhalt) hspaced
        (fun q => Token.content_eq q p (.inr ⟨body, hbody⟩)) (fun q => ⟨q, rfl⟩) hts
  · apply hplain
    refine .of_space (fun body hbody => hcomment ⟨body, hbody⟩) ?_
    intro d hd
    cases ts with
    | nil => cases hd
    | cons t ts => cases hd; rfl

end Respaced

/-- What stands behind a line comment is the end of the text or a line break. -/
theorem scanFrom_after_comment {r : Reading} {body : String} (hr : r.lexeme = .comment body)
    (hends : r.EndsBefore r.rest) (p : Position) :
    (scanFrom p r.rest).tokens = [] ∨ ∃ q us, (scanFrom p r.rest).tokens = ⟨.newline, "\n", q⟩ :: us := by
  have hhalt : Halts (· != '\n') r.rest := by simpa only [Reading.EndsBefore, hr] using hends
  cases hrest : r.rest with
  | nil => rw [scanFrom]; exact .inl rfl
  | cons c rest =>
    rw [hrest] at hhalt
    have hc : c = '\n' := by simpa using hhalt c rfl
    rw [hc, scanFrom_token rfl (.newline rest)]
    exact .inr ⟨p, _, rfl⟩

/-- What a scan finds is found again in the spaced texts. -/
theorem scanFrom_spaced (p : Position) (cs : List Char) {finish : Position}
    (h : (scanFrom p cs).ending = .ok finish) : Respaced (scanFrom p cs).tokens := by
  fun_induction scanFrom p cs with
  | case1 => exact .nil
  | case2 p c rest hc ih => exact ih h
  | case3 p c rest hc r hr _ later ih =>
    have hreads := reads_of_readToken hr
    exact .cons (by simpa using hc) hreads (fun body hbody => scanFrom_after_comment hbody hreads.ends _) (ih h)
  | case4 => cases h

/-- The texts of the tokens of a text, with single spaces between them, are cut into tokens of the same kinds and
values, the end included. -/
theorem tokenize_spaced {source : String} {s : TokenStream} (h : tokenize source = .ok s) :
    ∃ s', tokenize (String.intercalate " " (s.tokens.map Token.text)) = .ok s' ∧
      s'.withEnd.map (fun t => (t.kind, t.payload)) = s.withEnd.map (fun t => (t.kind, t.payload)) := by
  rw [tokenize_eq_ok_iff] at h
  have hspaced := scanFrom_spaced .start source.toList (by rw [h])
  rw [h] at hspaced
  obtain ⟨us, q, hscan, hus⟩ := hspaced .start
  have htext : (String.intercalate " " (s.tokens.map Token.text)).toList = spaced s.tokens := by
    simp [spaced, Function.comp_def]
  refine ⟨⟨us, q⟩, tokenize_eq_ok_iff.2 (by rw [htext, hscan]), ?_⟩
  have hcontent : (fun t : Token => (t.kind, t.payload)) = Token.content := rfl
  simp only [TokenStream.withEnd, List.map_append, hcontent, hus]
  rfl

/-- An annotation without a name in front of a point, and a comment that takes the space in front of a line break. -/
theorem tokenize_spaced_comment :
    tokenize "@.x// c\n" =
        .ok ⟨[⟨.tag "", "@", ⟨1, 1, 0⟩⟩, ⟨.mark .dot, ".", ⟨1, 2, 1⟩⟩, ⟨.identifier, "x", ⟨1, 3, 2⟩⟩,
          ⟨.comment "c", "// c", ⟨1, 4, 3⟩⟩, ⟨.newline, "\n", ⟨1, 8, 7⟩⟩], ⟨2, 1, 8⟩⟩ ∧
      ∃ s', tokenize (String.intercalate " " ["@", ".", "x", "// c", "\n"]) = .ok s' ∧
        s'.withEnd.map (fun t => (t.kind, t.payload)) =
          [(.tag, .text ""), (.mark .dot, .none), (.identifier, .text "x"), (.comment, .text "c"), (.newline, .none),
            (.endOfInput, .none)] := by
  have h : tokenize "@.x// c\n" =
      .ok ⟨[⟨.tag "", "@", ⟨1, 1, 0⟩⟩, ⟨.mark .dot, ".", ⟨1, 2, 1⟩⟩, ⟨.identifier, "x", ⟨1, 3, 2⟩⟩,
        ⟨.comment "c", "// c", ⟨1, 4, 3⟩⟩, ⟨.newline, "\n", ⟨1, 8, 7⟩⟩], ⟨2, 1, 8⟩⟩ := by
    cbv
  exact ⟨h, tokenize_spaced h⟩

end MediaLanguage
