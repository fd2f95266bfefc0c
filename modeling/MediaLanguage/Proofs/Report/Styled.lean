import MediaLanguage.Proofs.Text.Lines
import MediaLanguage.Report.Styled

/-!
# What a report with styles says

The two reports are put together in two ways, one from lines and one from pieces of text. They say the same: the pieces
of a report with styles are, one behind the other, the report in plain text (`Verdict.text_styledReport`), and the
disturbing controls of a text are those of its pieces (`StyledText.plain_eq`).

* `StyledText.spansFrom_inside`, `StyledText.spansFrom_apart`, `StyledText.spansFrom_cover`: where the stretches with a
  style are, by induction on the pieces.
* `Canvas.Lawful.paint_eq`: a text to which pieces are appended one by one comes to have the same stretches.
* `styledReport_says_plainReport`: what is seen of a report with styles on any canvas.
-/

namespace MediaLanguage

open Text

/-! ## Pieces -/

theorem Text.withoutControls_append (s t : String) :
    withoutControls (s ++ t) = withoutControls s ++ withoutControls t := by
  rw [withoutControls, String.toList_append, List.filter_append, String.ofList_append]
  rfl

namespace StyledText

/-- The texts of the pieces, one behind the other. -/
def text (t : StyledText) : String :=
  String.join (t.map Piece.text)

theorem text_cons (p : Piece) (t : StyledText) : text (p :: t) = p.text ++ text t :=
  String.join_cons

theorem text_append (t u : StyledText) : text (t ++ u) = text t ++ text u := by
  simp [text]

theorem text_flatMap {α : Type} (xs : List α) (f : α → StyledText) :
    text (xs.flatMap f) = String.join (xs.map fun x => text (f x)) := by
  induction xs with
  | nil => rfl
  | cons x xs ih => rw [List.flatMap_cons, text_append, ih, List.map_cons, String.join_cons]

theorem plain_cons (p : Piece) (t : StyledText) : plain (p :: t) = withoutControls p.text ++ plain t := by
  simp [plain]

theorem plain_append (t u : StyledText) : plain (t ++ u) = plain t ++ plain u := by
  simp [plain]

/-- Leaving out the controls of each piece is leaving out those of the whole text. -/
theorem plain_eq (t : StyledText) : t.plain = withoutControls t.text := by
  induction t with
  | nil => rfl
  | cons p t ih => rw [plain_cons, ih, text_cons, withoutControls_append]

/-! ## Stretches -/

theorem spansFrom_append (start : Nat) (t u : StyledText) :
    spansFrom start (t ++ u) = spansFrom start t ++ spansFrom (start + t.plain.length) u := by
  induction t generalizing start with
  | nil => rfl
  | cons p t ih =>
    rw [List.cons_append, spansFrom, ih, spansFrom, plain_cons, String.length_append, List.append_assoc, Nat.add_assoc]

/-- A stretch lies between the front of its text and the end. -/
theorem spansFrom_inside (start : Nat) (t : StyledText) :
    ∀ s ∈ spansFrom start t, start ≤ s.1 ∧ s.1 ≤ s.2.1 ∧ s.2.1 ≤ start + t.plain.length := by
  induction t generalizing start with
  | nil => exact List.forall_mem_nil _
  | cons p t ih =>
    rw [spansFrom, plain_cons, String.length_append, List.forall_mem_append]
    constructor
    · intro s hs
      obtain ⟨style, -, rfl⟩ := Option.map_eq_some_iff.1 (Option.mem_toList.1 hs)
      dsimp only
      omega
    · intro s hs
      have hlater := ih _ s hs
      omega

/-- A stretch begins where the one in front of it has ended. -/
theorem spansFrom_apart (start : Nat) (t : StyledText) :
    (spansFrom start t).Pairwise fun r s => r.2.1 ≤ s.1 := by
  induction t generalizing start with
  | nil => exact .nil
  | cons p t ih =>
    rw [spansFrom, List.pairwise_append]
    refine ⟨?_, ih _, ?_⟩
    · cases p.style with
      | none => exact .nil
      | some style => exact List.pairwise_singleton _ _
    · intro r hr s hs
      obtain ⟨style, -, rfl⟩ := Option.map_eq_some_iff.1 (Option.mem_toList.1 hr)
      exact (spansFrom_inside _ t s hs).1

/-- What a stretch shows of a text. -/
def shownBy (text : List Char) (s : Nat × Nat × Style) : String × Style :=
  (String.ofList ((text.drop s.1).take (s.2.1 - s.1)), s.2.2)

/-- The stretches show the pieces that have a style. -/
theorem spansFrom_cover (front : List Char) (t : StyledText) :
    (spansFrom front.length t).map (shownBy (front ++ t.plain.toList)) =
      t.filterMap fun p => p.style.map fun style => (withoutControls p.text, style) := by
  induction t generalizing front with
  | nil => rfl
  | cons p t ih =>
    have hfront := ih (front ++ (withoutControls p.text).toList)
    rw [List.length_append, String.length_toList, List.append_assoc] at hfront
    rw [spansFrom, List.map_append, plain_cons, String.toList_append, hfront]
    cases hstyle : p.style with
    | none => simp [hstyle]
    | some style =>
      have htake : ((withoutControls p.text).toList ++ (plain t).toList).take (withoutControls p.text).length =
          (withoutControls p.text).toList := by
        rw [← String.length_toList, List.take_left]
      simp [hstyle, shownBy, htake]

/-- Stretches of the text, one behind the other, which show the pieces that have a style. -/
structure Marked (t : StyledText) (text : String) (spans : List (Nat × Nat × Style)) : Prop where
  inside : ∀ s ∈ spans, s.1 ≤ s.2.1 ∧ s.2.1 ≤ text.length
  apart : spans.Pairwise fun r s => r.2.1 ≤ s.1
  cover : spans.map (shownBy text.toList) =
    t.filterMap fun p => p.style.map fun style => (withoutControls p.text, style)

/-- The stretches of a text with styles. -/
theorem marked_spans (t : StyledText) : t.Marked t.plain t.spans where
  inside := by
    intro s hs
    have hinside := spansFrom_inside 0 t s hs
    omega
  apart := spansFrom_apart 0 t
  cover := spansFrom_cover [] t

end StyledText

/-! ## Reports -/

/-- The pieces of an issue are its lines. -/
theorem Issue.text_styled (i : Issue) (number : Nat) :
    StyledText.text (i.styled number) = s!"{number}. {i.text}" ++ "\n" := by
  apply String.toList_injective
  cases hsuggestion : present? i.suggestion <;> cases hcontext : present? (some i.context) <;>
    simp [Issue.styled, Issue.text, hsuggestion, hcontext, StyledText.text, toString]

/-- The pieces of a report with styles are the lines of the report in plain text. -/
theorem Verdict.text_styledReport (v : Verdict) (fileName : Option String) :
    (v.styledReport fileName).text = v.plainReport fileName := by
  have hissues : StyledText.text ((v.issues.zipIdx 1).flatMap fun x => x.1.styled x.2) =
      String.join (v.issueLines.map (· ++ "\n")) := by
    rw [StyledText.text_flatMap, issueLines, List.map_map]
    congr 2
    funext x
    exact x.1.text_styled x.2
  unfold plainReport styledReport
  dsimp only
  rw [unlines_append (by simp)]
  cases hempty : v.issues.isEmpty with
  | true =>
    apply String.toList_injective
    simp [StyledText.text, toString]
  | false =>
    rw [if_neg Bool.false_ne_true, if_neg Bool.false_ne_true, StyledText.text_append, hissues]
    apply String.toList_injective
    simp [StyledText.text, toString]

/-- No piece of a report is empty. -/
theorem Verdict.text_ne_of_mem_styledReport (v : Verdict) (fileName : Option String) :
    ∀ p ∈ v.styledReport fileName, p.text ≠ "" := by
  have hissue : ∀ (i : Issue) (number : Nat), ∀ p ∈ i.styled number, p.text.toList ≠ [] := by
    intro i number
    unfold Issue.styled
    cases present? i.suggestion <;> cases present? (some i.context) <;> simp [Issue.badge, toString]
  have hreport : ∀ p ∈ v.styledReport fileName, p.text.toList ≠ [] := by
    unfold styledReport
    dsimp only
    split
    · simp [toString]
    · rw [List.forall_mem_append]
      exact ⟨by simp [toString], List.forall_mem_flatMap.2 fun x _ => hissue x.1 x.2⟩
  intro p hp hempty
  exact hreport p hp (by rw [hempty]; rfl)

/-! ## Canvases -/

/-- A kind of text that pieces are appended to: what is seen of it, and which stretches of it have a style. -/
structure Canvas (τ : Type) where
  blank : τ
  append : τ → Piece → τ
  plain : τ → String
  spans : τ → List (Nat × Nat × Style)

namespace Canvas

variable {τ : Type} {c : Canvas τ}

/-- A piece that is not empty is appended without the disturbing controls, and is one stretch if it has a style. -/
structure Lawful (c : Canvas τ) : Prop where
  plain_blank : c.plain c.blank = ""
  spans_blank : c.spans c.blank = []
  plain_append : ∀ t p, p.text ≠ "" → c.plain (c.append t p) = c.plain t ++ withoutControls p.text
  spans_append : ∀ t p, p.text ≠ "" → c.spans (c.append t p) = c.spans t ++
    (p.style.map fun style => ((c.plain t).length, (c.plain t).length + (withoutControls p.text).length, style)).toList

/-- The pieces, appended one after the other. -/
def paint (c : Canvas τ) (t : StyledText) : τ :=
  t.foldl c.append c.blank

/-- What pieces add to a text, and to its stretches. -/
theorem Lawful.foldl_append (hc : c.Lawful) {t : StyledText} (h : ∀ p ∈ t, p.text ≠ "") (front : τ) :
    c.plain (t.foldl c.append front) = c.plain front ++ t.plain ∧
      c.spans (t.foldl c.append front) = c.spans front ++ StyledText.spansFrom (c.plain front).length t := by
  induction t generalizing front with
  | nil => simp [StyledText.plain, StyledText.spansFrom]
  | cons p t ih =>
    obtain ⟨hp, ht⟩ := List.forall_mem_cons.1 h
    obtain ⟨hplain, hspans⟩ := ih ht (c.append front p)
    rw [List.foldl_cons, hplain, hspans, hc.plain_append front p hp, hc.spans_append front p hp]
    constructor
    · rw [StyledText.plain_cons, String.append_assoc]
    · rw [StyledText.spansFrom, List.append_assoc, String.length_append]

/-- A canvas comes to show the text and the stretches of the pieces. -/
theorem Lawful.paint_eq (hc : c.Lawful) {t : StyledText} (h : ∀ p ∈ t, p.text ≠ "") :
    c.plain (c.paint t) = t.plain ∧ c.spans (c.paint t) = t.spans := by
  obtain ⟨hplain, hspans⟩ := hc.foldl_append h c.blank
  rw [hc.plain_blank, String.empty_append] at hplain
  rw [hc.spans_blank, hc.plain_blank, List.nil_append] at hspans
  exact ⟨hplain, hspans⟩

/-- The canvas that keeps the pieces. -/
def pieces : Canvas StyledText where
  blank := []
  append t p := t ++ [p]
  plain := StyledText.plain
  spans := StyledText.spans

theorem lawful_pieces : pieces.Lawful where
  plain_blank := rfl
  spans_blank := rfl
  plain_append := by
    intro t p _
    show StyledText.plain (t ++ [p]) = StyledText.plain t ++ _
    rw [StyledText.plain_append]
    simp [StyledText.plain]
  spans_append := by
    intro t p _
    show StyledText.spansFrom 0 (t ++ [p]) = StyledText.spansFrom 0 t ++ _
    rw [StyledText.spansFrom_append, Nat.zero_add]
    simp [StyledText.spansFrom, pieces]

end Canvas

/-- **The report with styles says what the report in plain text says.** On every canvas, what is seen of it is the
report in plain text without disturbing controls; the stretches with a style stand one behind the other inside it, and
show the pieces that have the styles. -/
theorem styledReport_says_plainReport {τ : Type} {c : Canvas τ} (hc : c.Lawful) (v : Verdict)
    (fileName : Option String) :
    c.plain (c.paint (v.styledReport fileName)) = withoutControls (v.plainReport fileName) ∧
      (v.styledReport fileName).Marked (c.plain (c.paint (v.styledReport fileName)))
        (c.spans (c.paint (v.styledReport fileName))) ∧
      (v.styledReport fileName).plain = c.plain (c.paint (v.styledReport fileName)) ∧
      (v.styledReport fileName).spans = c.spans (c.paint (v.styledReport fileName)) := by
  obtain ⟨hplain, hspans⟩ := hc.paint_eq (v.text_ne_of_mem_styledReport fileName)
  refine ⟨?_, ?_, hplain.symm, hspans.symm⟩
  · rw [hplain, StyledText.plain_eq, v.text_styledReport]
  · rw [hplain, hspans]
    exact StyledText.marked_spans _

/-- A verdict with an issue whose message rings a bell, ends a line and has a suggestion. -/
def noisyVerdict : Verdict :=
  ⟨[⟨.warning, "CODE", "a\x07b\r\nc", ⟨2, 5, 30⟩, some "d\x0b", ""⟩], true, ⟨0, 1, 0, 0⟩⟩

theorem styledReport_says_plainReport_noisy :
    Canvas.pieces.Lawful ∧
      Canvas.pieces.plain (Canvas.pieces.paint (noisyVerdict.styledReport (some "a.mdsl"))) =
        withoutControls (noisyVerdict.plainReport (some "a.mdsl")) ∧
      (noisyVerdict.styledReport (some "a.mdsl")).Marked
        (Canvas.pieces.plain (Canvas.pieces.paint (noisyVerdict.styledReport (some "a.mdsl"))))
        (Canvas.pieces.spans (Canvas.pieces.paint (noisyVerdict.styledReport (some "a.mdsl")))) := by
  obtain ⟨hplain, hmarked, -, -⟩ := styledReport_says_plainReport Canvas.lawful_pieces noisyVerdict (some "a.mdsl")
  exact ⟨Canvas.lawful_pieces, hplain, hmarked⟩

end MediaLanguage
