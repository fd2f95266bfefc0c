import Mathlib
import MediaLanguage.Proofs.Parser.Commented
import MediaLanguage.Proofs.Parser.Concat

/-!
# Comments at the ends of lines

A comment that is put in front of a line break of a text changes nothing but that it may be a node of its own: the
text is read as before, and without the comment both programs are the same (`Insertion.parse_commented`).

There is one place where a comment does more. Behind a mention of an outlet only line breaks are skipped in search of
its body, so a comment between a mention and its body leaves an opening brace among the members of the family, where
it is an error (`not_parse_commented`). That place is `Insertion.Severs`.
-/

open MediaLanguage.Ast MediaLanguage.Parser

namespace MediaLanguage

/-- A run from the cursor on finds the statements, and no error. -/
def Parse.Finds (c : Cursor) (statements : List Statement) : Prop :=
  (fromCursor c).errors = [] ∧ (fromCursor c).stopped = none ∧ (fromCursor c).statements = statements

/-- A run that finds no error is over, or finds a statement and goes on. -/
theorem Parse.finds_iff {c : Cursor} {statements : List Statement} :
    Finds c statements ↔ ((c.skipWhile isDivider).rest = [] ∧ statements = []) ∨
      ((c.skipWhile isDivider).rest ≠ [] ∧ ∃ s d later,
        statement (c.skipWhile isDivider) = (.ok s, d) ∧ Finds d later ∧ statements = s :: later) := by
  constructor
  · rintro ⟨herrors, hstopped, rfl⟩
    by_cases hrest : (c.skipWhile isDivider).rest = []
    · rw [fromCursor_of_empty hrest]
      exact .inl ⟨hrest, rfl⟩
    rcases hrun : statement (c.skipWhile isDivider) with ⟨(e | e) | s, d⟩
    · rw [fromCursor_of_grammar hrest hrun] at herrors
      cases herrors
    · rw [fromCursor_of_conversion hrest hrun] at hstopped
      cases hstopped
    · rw [fromCursor_of_statement hrest hrun] at herrors hstopped ⊢
      exact .inr ⟨hrest, s, d, _, rfl, ⟨herrors, hstopped, rfl⟩, rfl⟩
  · unfold Finds
    rintro (⟨hrest, rfl⟩ | ⟨hrest, s, d, later, hrun, ⟨herrors, hstopped, rfl⟩, rfl⟩)
    · rw [fromCursor_of_empty hrest]
      exact ⟨rfl, rfl, rfl⟩
    · rw [fromCursor_of_statement hrest hrun]
      exact ⟨herrors, hstopped, rfl⟩

namespace Insertion

variable {I : Insertion}

/-- Without tokens there is no comment to come. -/
theorem Beside.rest_eq_nil_iff {c c' : Cursor} (h : I.Beside c c') : c.rest = [] ↔ c'.rest = [] := by
  cases h <;> simp

/-- The statement that is the comment, in front of those from the line break on. -/
theorem finds_atComment {statements : List Statement} (h : Parse.Finds I.atNewline statements) :
    Parse.Finds I.atComment (.comment I.remark :: statements) := by
  rw [Parse.finds_iff, keepsComments_isDivider.skipWhile_atComment I]
  exact .inr ⟨by simp [atComment], _, _, _, run_statement_atComment, h, rfl⟩

/-- Runs side by side. The induction is on the tokens that the second run has left. -/
theorem finds_of_beside (drop : Comment → Bool) (hdrop : drop I.remark = true) (hbody : ¬I.Severs) {c c' : Cursor}
    {statements : List Statement} (hbeside : I.Beside c c') (h : Parse.Finds c statements) :
    ∃ statements', Parse.Finds c' statements' ∧
      Agree (List.filterMap (Statement.strip? drop)) statements statements' := by
  induction hlen : c'.rest.length using Nat.strong_induction_on generalizing c c' statements with
  | _ n ih =>
    obtain ⟨t, hat⟩ | ⟨hpassed, hstopped⟩ := hbeside.skip_kept keepsComments_isDivider
    · obtain ⟨hrest, rfl⟩ | ⟨hrest, s, d, later, hrun, hlater, rfl⟩ := Parse.finds_iff.1 h
      · exact ⟨[], Parse.finds_iff.2 (.inl ⟨hat.beside.rest_eq_nil_iff.1 hrest, rfl⟩), rfl⟩
      · have hrest' := (not_congr hat.beside.rest_eq_nil_iff).1 hrest
        obtain ⟨s', d', hrun', hs, hbeside'⟩ := alike_statement hdrop hbody t _ _ hat s d hrun
        have hlt : d'.rest.length < n := hlen ▸
          Nat.lt_of_lt_of_le (consumes_statement hrest' s' d' hrun') (c'.reaches_skipWhile isDivider).length_le
        obtain ⟨later', hlater', hagree⟩ := ih _ hlt hbeside' hlater rfl
        refine ⟨s' :: later', Parse.finds_iff.2 (.inr ⟨hrest', s', d', later', hrun', hlater', rfl⟩), ?_⟩
        exact (composes_filterMap _).append (agree_single hs) hagree
    · have hfinds : Parse.Finds I.atNewline statements := by
        unfold Parse.Finds at h ⊢
        rwa [← Parse.fromCursor_skipWhile, ← hpassed, Parse.fromCursor_skipWhile]
      refine ⟨.comment I.remark :: statements, ?_, ?_⟩
      · have hcomment := finds_atComment hfinds
        unfold Parse.Finds at hcomment ⊢
        rwa [← hstopped, Parse.fromCursor_skipWhile] at hcomment
      · simp [Agree, Statement.strip?, strip?_remark hdrop]

/-- **A comment at the end of a line changes nothing but that it may be a node.** The text with the comment is read
where the text without it is, and the programs are the same without the comment, whatever other comments are left
out. -/
theorem parse_commented (hbody : ¬I.Severs) {p : Program} (h : I.plain.parse.result [] = .ok p) :
    ∃ p', I.commented.parse.result [] = .ok p' ∧
      ∀ drop : Comment → Bool, drop I.remark = true → p'.strip drop = p.strip drop := by
  obtain ⟨herrors, hstopped, hstatements⟩ := Parse.result_eq_ok_iff.1 h
  have hfinds : Parse.Finds (.ofStream I.plain) p.statements := ⟨herrors, hstopped, hstatements⟩
  obtain ⟨statements', hfinds', -⟩ := finds_of_beside (fun _ => true) rfl hbody I.beside_ofStream hfinds
  refine ⟨⟨statements'⟩, Parse.result_eq_ok_iff.2 hfinds', fun drop hdrop => ?_⟩
  obtain ⟨statements, hfinds'', hagree⟩ := finds_of_beside drop hdrop hbody I.beside_ofStream hfinds
  obtain rfl : statements' = statements := hfinds'.2.2.symm.trans hfinds''.2.2
  exact congrArg Program.mk hagree.symm

/-- A comment behind a mention of an outlet. -/
def behindMention (after : List Token) (finish : Position) : Insertion where
  before := [⟨.keyword .family, "family", ⟨1, 1, 0⟩⟩, ⟨.string "F", "\"F\"", ⟨1, 8, 7⟩⟩,
    ⟨.mark .openBrace, "\x7b", ⟨1, 12, 11⟩⟩, ⟨.keyword .outletRef, "outlet_ref", ⟨1, 14, 13⟩⟩,
    ⟨.number .zero, "0", ⟨1, 25, 24⟩⟩, ⟨.string "x", "\"x\"", ⟨1, 27, 26⟩⟩]
  comment := ⟨.comment "note", "// note", ⟨1, 31, 30⟩⟩
  newline := ⟨.newline, "\n", ⟨1, 30, 29⟩⟩
  after := after
  finish := finish
  comment_kind := rfl
  newline_kind := rfl

/-- The mention has no body; the family ends on the next line. -/
def bareMention : Insertion :=
  behindMention [⟨.mark .closeBrace, "\x7d", ⟨2, 1, 30⟩⟩] ⟨2, 2, 31⟩

/-- The mention has a body, on the next line. -/
def severedMention : Insertion :=
  behindMention [⟨.mark .openBrace, "\x7b", ⟨2, 1, 30⟩⟩, ⟨.mark .closeBrace, "\x7d", ⟨2, 3, 32⟩⟩,
    ⟨.mark .closeBrace, "\x7d", ⟨2, 5, 34⟩⟩] ⟨2, 6, 35⟩

/-- A mention without a body; the family keeps the comment. -/
theorem parse_commented_bareMention :
    ∃ p p', tokenize "family \"F\" \x7b outlet_ref 0 \"x\"\n\x7d" = .ok bareMention.plain ∧
      bareMention.plain.parse.result [] = .ok p ∧ bareMention.commented.parse.result [] = .ok p' ∧
        ∀ drop : Comment → Bool, drop bareMention.remark = true → p'.strip drop = p.strip drop := by
  have htokens : tokenize "family \"F\" \x7b outlet_ref 0 \"x\"\n\x7d" = .ok bareMention.plain := by cbv
  have hplain : bareMention.plain.parse.result [] =
      .ok ⟨[.family ⟨"F", [.reference ⟨.zero, "x", ⟨1, 14, 13⟩⟩], ⟨1, 1, 0⟩⟩]⟩ := by cbv
  have hbody : ¬bareMention.Severs := by decide
  obtain ⟨p', hcommented, hstrip⟩ := parse_commented hbody hplain
  exact ⟨_, p', htokens, hplain, hcommented, hstrip⟩

/-- **A comment between a mention of an outlet and its body breaks the text.** The text without the comment is read,
and the text with it is not. -/
theorem not_parse_commented :
    ¬∀ (source : String) (I : Insertion), tokenize source = .ok I.plain → (∃ p, I.plain.parse.result [] = .ok p) →
      ∃ p', I.commented.parse.result [] = .ok p' := by
  intro h
  have htokens : tokenize "family \"F\" \x7b outlet_ref 0 \"x\"\n\x7b \x7d \x7d" = .ok severedMention.plain := by cbv
  have hplain : severedMention.plain.parse.result [] =
      .ok ⟨[.family ⟨"F", [.reference ⟨.zero, "x", ⟨1, 14, 13⟩⟩], ⟨1, 1, 0⟩⟩]⟩ := by cbv
  -- The body is a brace among the members of the family.
  have hcommented : severedMention.commented.parse.result [] =
      .error (.grammar ⟨.unexpectedToken "\x7b" ["family member"], ⟨2, 1, 30⟩⟩) := by cbv
  obtain ⟨p', hp'⟩ := h _ _ htokens ⟨_, hplain⟩
  rw [hcommented] at hp'
  cases hp'

end Insertion

end MediaLanguage
