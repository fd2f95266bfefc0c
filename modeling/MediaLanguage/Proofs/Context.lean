import Mathlib
import MediaLanguage.Proofs.Parser.Recovery
import MediaLanguage.Proofs.Text.Lines
import MediaLanguage.Proofs.Token.Fault
import MediaLanguage.Proofs.Token.Joint

/-!
# The lines around an error

An error of a file is shown with the lines around its place, a number in front of each, and a marker below the place.

* `Position.In`: the place is one that counting over some of a text comes to. The places of tokens (`scanFrom_places`)
  and of errors (`Raises.place_in`) are such places of the text they come from.
* `Position.toList_line_after`, `Position.drop_line_after`: counting lines and columns agrees with cutting a text into
  lines.
* `lines_snippet`, `zipIdx_contextLines`: the lines that are cut out of a text and the numbers that are put in front of
  them are those between the same bounds.
* `context_shows_place`: what an error shows that lexing or parsing a text raises.
-/

open MediaLanguage.Ast MediaLanguage.Parser

namespace MediaLanguage

/-! ## Places in a text -/

/-- The place is that of a character of the text, or its end. -/
def Position.In (p : Position) (source : String) : Prop :=
  ∃ before after, source.toList = before ++ after ∧ p = .after before

/-- Tokens, the end included, are at places that one comes to by going over some of the text. -/
theorem scanFrom_places (p : Position) (cs : List Char) :
    ∀ t ∈ (scanFrom p cs).tokens, ∃ before after, cs = before ++ after ∧ t.position = p.advance before := by
  fun_induction scanFrom p cs with
  | case1 => exact List.forall_mem_nil _
  | case2 p c rest hc ih =>
    intro t ht
    obtain ⟨before, after, rfl, hplace⟩ := ih t ht
    exact ⟨c :: before, after, rfl, hplace⟩
  | case3 p c rest hc r hr _ later ih =>
    refine List.forall_mem_cons.2 ⟨⟨[], c :: rest, rfl, rfl⟩, fun t ht => ?_⟩
    obtain ⟨before, after, hrest, hplace⟩ := ih t ht
    refine ⟨r.text ++ before, after, ?_, ?_⟩
    · rw [List.append_assoc, ← hrest, (readToken_splits hr).1]
    · rw [hplace, Position.advance_append]
  | case4 => exact List.forall_mem_nil _

section Source

variable {source : String} {place : Position}

/-- A token is in its text. -/
theorem position_in_of_mem {s : TokenStream} (hs : tokenize source = .ok s) {t : Token} (ht : t ∈ s.withEnd) :
    t.position.In source := by
  rw [tokenize_eq_ok_iff] at hs
  rw [TokenStream.withEnd, List.mem_append, List.mem_singleton] at ht
  rcases ht with ht | rfl
  · obtain ⟨before, after, hsplit, hplace⟩ := scanFrom_places .start source.toList t (by rwa [hs])
    exact ⟨before, after, hsplit, by rw [hplace, Position.advance_start]⟩
  · have hfinish := scanFrom_finish .start source.toList (q := s.finish) (by rw [hs])
    exact ⟨source.toList, [], (List.append_nil _).symm, by rw [← Position.advance_start]; exact hfinish⟩

/-- A lexical error is in its text: at the front of a token, or in a literal behind some of its text. -/
theorem position_in_of_lexical {e : LexicalError} (h : tokenize source = .error e) : e.position.In source := by
  obtain ⟨before, c, rest, f, hsource, -, hread, rfl⟩ :=
    scanFrom_before_fault .start source.toList (tokenize_eq_error_iff.1 h)
  have hplace : (Position.start.advance before).advance f.before = .after (before ++ f.before) := by
    rw [← Position.advance_append, Position.advance_start]
  obtain ⟨items, d, later, hrest, -, rfl⟩ | ⟨-, hbefore⟩ := readToken_eq_error hread
  · refine ⟨_, d :: later, ?_, hplace⟩
    rw [hsource, hrest]
    simp
  · exact ⟨_, c :: rest, by rw [hsource, hbefore, List.append_nil], hplace⟩

/-- An error of the grammar is at a token. -/
theorem position_in_of_grammar {s : TokenStream} (hs : tokenize source = .ok s) {e : GrammarError}
    (he : e ∈ s.parse.errors) : e.position.In source := by
  have hplaces : (s.parse.errors.map (·.position)).Sublist (s.withEnd.map (·.position)) :=
    Parse.sublist_positions (.ofStream s)
  obtain ⟨t, ht, hplace⟩ := List.mem_map.1 (hplaces.subset (List.mem_map_of_mem he))
  rw [← hplace]
  exact position_in_of_mem hs ht

/-- The errors that a text raises: when it is cut into tokens, when it is parsed, and those that a parse finds after the
first. -/
inductive Raises (source : String) : Error → Prop
  | lexing {e : LexicalError} (h : tokenize source = .error e) : Raises source (.lexical e)
  | parsing {e : Error} (h : parse source = .error e) : Raises source e
  | collecting {s : TokenStream} {e : GrammarError} (hs : tokenize source = .ok s) (he : e ∈ s.parse.errors) :
    Raises source (.grammar e)

/-- An error with a place is one of the lexer or one that a parse finds. -/
theorem Raises.cases {e : Error} (h : Raises source e) (hplace : e.position? = some place) :
    (∃ l, e = .lexical l ∧ tokenize source = .error l) ∨
      ∃ s g, e = .grammar g ∧ tokenize source = .ok s ∧ g ∈ s.parse.errors := by
  cases h with
  | lexing h => exact .inl ⟨_, rfl, h⟩
  | collecting hs he => exact .inr ⟨_, _, rfl, hs, he⟩
  | parsing h =>
    unfold parse at h
    split at h
    · next l hl =>
      cases h
      exact .inl ⟨l, rfl, hl⟩
    · next s hs =>
      unfold Parse.result at h
      split at h
      · cases h
        cases hplace
      · next g errors _ herrors =>
        cases h
        rw [List.nil_append] at herrors
        exact .inr ⟨s, g, rfl, hs, by rw [herrors]; exact List.mem_cons_self⟩
      · cases h

/-- The place of an error that a text raises is in the text. -/
theorem Raises.place_in {e : Error} (h : Raises source e) (hplace : e.position? = some place) : place.In source := by
  obtain ⟨l, rfl, hl⟩ | ⟨s, g, rfl, hs, hg⟩ := h.cases hplace
  · cases hplace
    exact position_in_of_lexical hl
  · cases hplace
    exact position_in_of_grammar hs hg

/-- An error that a text raises is reported below the lines around its place. -/
theorem Raises.report_eq {e : Error} (h : Raises source e) (hplace : e.position? = some place) (file : String) :
    e.report (some ⟨file, source⟩) =
      Text.unlines [Origin.context ⟨file, source⟩ place, e.heading ++ e.message] := by
  obtain ⟨l, rfl, -⟩ | ⟨s, g, rfl, -, -⟩ := h.cases hplace
  · cases hplace
    rfl
  · cases hplace
    rfl

end Source

/-! ## Lines and columns -/

/-- Line `n` of a text, counted from one. -/
def Text.line (s : String) (n : Nat) : String :=
  (lines s).getD (n - 1) ""

namespace Position

section Line

variable {source : String} {p : Position} {before after : List Char}

/-- The line of a place: the text behind the last line feed in front of the place, as long as its column says, and the
text up to the next line feed. -/
theorem toList_line_after (h : source.toList = before ++ after) :
    (Text.line source (Position.after before).line).toList =
      (before.reverse.takeWhile (· != '\n')).reverse ++ after.takeWhile (· != '\n') := by
  have hindex : (Position.after before).line - 1 = before.count '\n' := Nat.add_sub_cancel_left ..
  rw [Text.line, hindex, List.getD_eq_getElem?_getD, Text.lines, List.getElem?_map, h,
    Text.getElem?_splitLines_append before after, Option.map_some, Option.getD_some, String.toList_ofList]

/-- A place in a text is in a line of the text. -/
theorem In.line_le (h : p.In source) : 1 ≤ p.line ∧ p.line ≤ (Text.lines source).length := by
  obtain ⟨before, after, hsource, rfl⟩ := h
  rw [Text.lines, List.length_map, Text.length_splitLines, hsource, List.count_append]
  dsimp only [Position.after]
  omega

/-- What stands behind the column of a place in its line is what stands behind the place, up to the end of the line. -/
theorem drop_line_after (h : source.toList = before ++ after) :
    (Text.line source (Position.after before).line).toList.drop ((Position.after before).column - 1) =
      after.takeWhile (· != '\n') := by
  have hcolumn : (Position.after before).column - 1 = (before.reverse.takeWhile (· != '\n')).reverse.length := by
    rw [List.length_reverse]
    exact Nat.add_sub_cancel_left ..
  rw [toList_line_after h, hcolumn, List.drop_left]

/-- A place is at a character of its line, or behind the last one. -/
theorem In.column_le (h : p.In source) : 1 ≤ p.column ∧ p.column ≤ (Text.line source p.line).length + 1 := by
  obtain ⟨before, after, hsource, rfl⟩ := h
  rw [← String.length_toList, toList_line_after hsource, List.length_append, List.length_reverse]
  dsimp only [Position.after]
  omega

end Line

end Position

/-! ## The lines that are shown -/

/-- The numbers of the lines that are shown around line `n` of a text: two lines on either side, as far as there are. -/
def shownNumbers (source : String) (n : Nat) : List Nat :=
  List.range' (max 1 (n - 2)) (min (Text.lines source).length (n + 2) + 1 - max 1 (n - 2))

/-- A line with its number, which takes four columns or more. -/
def numbered (n : Nat) (line : String) : String :=
  Text.alignRight 4 (toString n) ++ " | " ++ line

/-- The marker for a place, below its line. -/
def markerBelow (p : Position) : String :=
  Text.repeated ((numbered p.line "").length + (p.column - 1)) ' ' ++ "^^^"

/-- The marker starts in the column in which the `column`-th character of the line stands when the line is shown with
its number, or would stand if the line went on. -/
def MarksColumn (marker : String) (n : Nat) (line : String) (column : Nat) : Prop :=
  ∃ indent, marker = Text.repeated indent ' ' ++ "^^^" ∧ indent ≤ (numbered n line).length ∧
    (numbered n line).toList.drop indent = line.toList.drop (column - 1)

/-- The lines around line `n` of a text with their numbers, and a marker behind line `n`. -/
def numberedLines (source : String) (n : Nat) (marker : String) : List String :=
  (shownNumbers source n).flatMap fun k => numbered k (Text.line source k) :: if k = n then [marker] else []

section Shown

variable {source : String} {p : Position}

/-- The lines that are shown are those of the numbers. -/
theorem contextLines_eq (source : String) (n : Nat) :
    contextLines source n = (shownNumbers source n).map (Text.line source) := by
  have hfirst : 1 ≤ max 1 (n - 2) := Nat.le_max_left ..
  have hlast : min (Text.lines source).length (n + 2) ≤ (Text.lines source).length := Nat.min_le_left ..
  unfold contextLines contextWindow shownNumbers
  dsimp only
  generalize max 1 (n - 2) = first at hfirst ⊢
  generalize min (Text.lines source).length (n + 2) = last at hlast ⊢
  apply List.ext_getElem?
  intro i
  rw [List.getElem?_drop, List.getElem?_take, List.getElem?_map]
  by_cases hi : first - 1 + i < last
  · have hrange : (List.range' first (last + 1 - first))[i]? = some (first + i) := by
      rw [List.getElem?_range' (by omega), Nat.one_mul]
    have hindex : first + i - 1 = first - 1 + i := by omega
    rw [if_pos hi, hrange, Option.map_some, Text.line, hindex, List.getD_eq_getElem?_getD,
      List.getElem?_eq_getElem (by omega), Option.getD_some]
  · have hrange : (List.range' first (last + 1 - first))[i]? = none := by
      rw [List.getElem?_eq_none_iff, List.length_range']
      omega
    rw [if_neg hi, hrange, Option.map_none]

/-- The line of the place is among those that are shown. -/
theorem mem_shownNumbers (hlow : 1 ≤ p.line) (hhigh : p.line ≤ (Text.lines source).length) :
    p.line ∈ shownNumbers source p.line := by
  rw [shownNumbers, List.mem_range'_1]
  omega

/-- The lines that are cut out of a text are those whose numbers are shown. -/
theorem lines_snippet (hlow : 1 ≤ p.line) (hhigh : p.line ≤ (Text.lines source).length) :
    Text.lines (snippet source p.line) = (shownNumbers source p.line).map (Text.line source) := by
  have hshown : contextLines source p.line ≠ [] := by
    rw [contextLines_eq]
    exact List.ne_nil_of_mem (List.mem_map_of_mem (mem_shownNumbers hlow hhigh))
  rw [snippet, Text.lines_unlines hshown, contextLines_eq]
  intro l hl
  exact Text.not_mem_of_mem_lines (List.mem_of_mem_take (List.mem_of_mem_drop hl))

/-- Something is cut out of a text that is not empty: two lines or more, or the only one. -/
theorem snippet_ne_empty (hsource : source ≠ "") (hlow : 1 ≤ p.line) (hhigh : p.line ≤ (Text.lines source).length) :
    snippet source p.line ≠ "" := by
  intro hempty
  have hcut : (shownNumbers source p.line).map (Text.line source) = [""] := by
    rw [← lines_snippet hlow hhigh, hempty]
    rfl
  have hone : min (Text.lines source).length (p.line + 2) + 1 - max 1 (p.line - 2) = 1 := by
    simpa [shownNumbers] using congrArg List.length hcut
  have hcount : (Text.lines source).length = 1 := by omega
  have hline : p.line = 1 := by omega
  obtain ⟨only, honly⟩ := List.length_eq_one_iff.1 hcount
  have hall : contextLines source p.line = Text.lines source := by
    rw [hline, contextLines, honly]
    rfl
  have hunlines : Text.unlines (Text.lines source) = "" := by
    rw [← hall]
    exact hempty
  exact hsource ((Text.unlines_lines source).symm.trans hunlines)

/-- A line that is shown, with the marker behind the line of the place. -/
theorem contextEntry_eq (hcolumn : 1 ≤ p.column) (n : Nat) (line : String) :
    contextEntry p n line = numbered n line :: if n = p.line then [markerBelow p] else [] := by
  have hlabel : ∀ k, numbered k "" = Text.alignRight 4 (toString k) ++ " | " := fun k => String.append_empty
  unfold contextEntry
  split
  · next hn =>
    subst hn
    rw [markerBelow, hlabel, ← Nat.add_sub_assoc hcolumn]
    rfl
  · rfl

/-- The numbers that are counted along are those of the lines. -/
theorem zipIdx_contextLines (source : String) (n : Nat) :
    (contextLines source n).zipIdx (max 1 (n - 2)) = (shownNumbers source n).map fun k => (Text.line source k, k) := by
  have hnumbers : List.range' (max 1 (n - 2)) (shownNumbers source n).length = (shownNumbers source n).map id := by
    rw [shownNumbers, List.length_range', List.map_id]
  rw [contextLines_eq, List.zipIdx_eq_zip_range', List.length_map, hnumbers, List.zip_map']
  rfl

/-- The context of a place in a text that is not empty: the place, and the lines around it with their numbers. -/
theorem Origin.context_eq (o : Origin) (hsource : o.source ≠ "") (hp : p.In o.source) :
    o.context p = Text.unlines (s!"{o.file}:{p.text}" :: numberedLines o.source p.line (markerBelow p)) := by
  obtain ⟨hlow, hhigh⟩ := hp.line_le
  have hshown : (o.source.isEmpty || (Text.unlines (contextLines o.source p.line)).isEmpty) = false := by
    simpa using ⟨hsource, snippet_ne_empty hsource hlow hhigh⟩
  have hentries : ((contextLines o.source p.line).zipIdx (max 1 (p.line - 2))).flatMap
      (fun x => contextEntry p x.2 x.1) = numberedLines o.source p.line (markerBelow p) := by
    rw [zipIdx_contextLines, List.flatMap_map, numberedLines]
    simp only [contextEntry_eq hp.column_le.1]
  unfold Origin.context
  dsimp only
  rw [hshown, if_neg Bool.false_ne_true]
  exact congrArg (fun entries => Text.unlines (_ :: entries)) hentries

/-- The marker stands where the character of the place stands. -/
theorem marksColumn_markerBelow (hp : p.In source) :
    MarksColumn (markerBelow p) p.line (Text.line source p.line) p.column := by
  have hsplit : numbered p.line (Text.line source p.line) = numbered p.line "" ++ Text.line source p.line := by
    rw [numbered, numbered, String.append_empty]
  obtain ⟨-, hcolumn⟩ := hp.column_le
  refine ⟨_, rfl, ?_, ?_⟩
  · rw [hsplit, String.length_append]
    omega
  · rw [hsplit, String.toList_append, ← String.length_toList, List.drop_length_add_append]

end Shown

/-! ## What an error shows -/

/-- **What lexing or parsing a text with a file raises is shown below its place and the numbered lines around it, from
two lines in front of its line to two behind, as far as the text has them; behind its line, and nowhere else, stands a
marker at its column.** The place is one of the text: its line is one of those that are shown, and the line from its
column on is what the text has from the place on. -/
theorem context_shows_place {source file : String} {e : Error} {place : Position} (hsource : source ≠ "")
    (hraised : Raises source e) (hplace : e.position? = some place) :
    (∃ context marker,
      e.report (some ⟨file, source⟩) = Text.unlines [context, e.heading ++ e.message] ∧
      context = Text.unlines (s!"{file}:{place.text}" :: numberedLines source place.line marker) ∧
      MarksColumn marker place.line (Text.line source place.line) place.column) ∧
    Text.lines (snippet source place.line) = (shownNumbers source place.line).map (Text.line source) ∧
    place.line ∈ shownNumbers source place.line ∧
    (∀ n ∈ shownNumbers source place.line, 1 ≤ n ∧ n ≤ (Text.lines source).length) ∧
    1 ≤ place.column ∧ place.column ≤ (Text.line source place.line).length + 1 ∧
    ∃ before after, source.toList = before ++ after ∧ place = .after before ∧
      (Text.line source place.line).toList.drop (place.column - 1) = after.takeWhile (· != '\n') := by
  have hin : place.In source := hraised.place_in hplace
  obtain ⟨hlow, hhigh⟩ := hin.line_le
  obtain ⟨hfirst, hlast⟩ := hin.column_le
  refine ⟨⟨_, _, hraised.report_eq hplace file, Origin.context_eq _ hsource hin, marksColumn_markerBelow hin⟩,
    lines_snippet hlow hhigh, mem_shownNumbers hlow hhigh, fun n hn => ?_, hfirst, hlast, ?_⟩
  · rw [shownNumbers, List.mem_range'_1] at hn
    omega
  · obtain ⟨before, after, hsplit, rfl⟩ := hin
    exact ⟨before, after, hsplit, rfl, Position.drop_line_after hsplit⟩

/-- A text with a character that begins no token, in its third line. -/
def strayText : String :=
  "unit u\nunit\n v ?\n"

/-- What that character raises. -/
def strayError : Error :=
  .lexical ⟨.unexpectedCharacter "?", ⟨3, 4, 15⟩⟩

/-- The stray character is shown with all lines of its text, and with the marker below it. -/
theorem context_shows_place_stray :
    strayText ≠ "" ∧ Raises strayText strayError ∧ strayError.position? = some ⟨3, 4, 15⟩ ∧
      shownNumbers strayText 3 = [1, 2, 3, 4] ∧
      (∃ context marker,
        strayError.report (some ⟨"media.mdsl", strayText⟩) =
          Text.unlines [context, "Lexer error: Unexpected character '?' at 3:4"] ∧
        context = Text.unlines ("media.mdsl:3:4" :: numberedLines strayText 3 marker) ∧
        MarksColumn marker 3 " v ?" 4) ∧
      ∃ before after, strayText.toList = before ++ after ∧ (⟨3, 4, 15⟩ : Position) = .after before ∧
        after.takeWhile (· != '\n') = ['?'] := by
  have hsource : strayText ≠ "" := by decide
  have hraised : Raises strayText strayError := .lexing (by cbv)
  have hline : Text.line strayText 3 = " v ?" := by cbv
  obtain ⟨⟨context, marker, hreport, hcontext, hmarks⟩, -, -, -, -, -, before, after, hsplit, hplace, hdrop⟩ :=
    @context_shows_place strayText "media.mdsl" strayError ⟨3, 4, 15⟩ hsource hraised rfl
  refine ⟨hsource, hraised, rfl, by decide, ⟨context, marker, ?_, ?_, ?_⟩, before, after, hsplit, hplace, ?_⟩
  · exact hreport
  · exact hcontext
  · rw [← hline]
    exact hmarks
  · rw [← hdrop, hline]
    rfl

example : strayError.report (some ⟨"media.mdsl", strayText⟩) =
    Text.unlines ["media.mdsl:3:4", "   1 | unit u", "   2 | unit", "   3 |  v ?", "          ^^^", "   4 | ",
      "Lexer error: Unexpected character '?' at 3:4"] := by
  decide +kernel

end MediaLanguage
