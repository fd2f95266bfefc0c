import MediaLanguage.Report.Plain
import MediaLanguage.Text.Terminal

/-!
# Reports with styles

The report as a sequence of pieces of text, some of them with a style. Control characters that would disturb a
terminal are left out of every piece.
-/

namespace MediaLanguage

/-- A style of text. -/
inductive Style where
  | bold | boldRed | boldYellow | boldCyan | boldGreen | green | brightBlack
deriving DecidableEq

/-- The name of a style. -/
def Style.label : Style → String
  | .bold => "bold"
  | .boldRed => "bold red"
  | .boldYellow => "bold yellow"
  | .boldCyan => "bold cyan"
  | .boldGreen => "bold green"
  | .green => "green"
  | .brightBlack => "bright_black"

/-- The style of a severity. -/
def Severity.style : Severity → Style
  | .error => .boldRed
  | .warning => .boldYellow
  | .info => .boldCyan

/-- A piece of text, perhaps with a style. -/
structure Piece where
  text : String
  style : Option Style := none

/-- Text with styles. -/
abbrev StyledText := List Piece

namespace StyledText

/-- The text alone. -/
def plain (t : StyledText) : String :=
  String.join (t.map fun p => Text.withoutControls p.text)

/-- The stretches of text with a style, as offsets in characters; `start` characters stand in front. -/
def spansFrom (start : Nat) : StyledText → List (Nat × Nat × Style)
  | [] => []
  | p :: rest =>
    let finish := start + (Text.withoutControls p.text).length
    (p.style.map fun s => (start, finish, s)).toList ++ spansFrom finish rest

/-- The stretches of text with a style. -/
def spans (t : StyledText) : List (Nat × Nat × Style) :=
  spansFrom 0 t

end StyledText

/-- The pieces of an issue with its number. -/
def Issue.styled (i : Issue) (number : Nat) : StyledText :=
  [⟨s!"{number}. ", none⟩, ⟨i.badge, some i.severity.style⟩, ⟨s!" {i.code}", some .bold⟩,
    ⟨s!" ({i.position.text}): {i.message}\n", none⟩]
  ++ (match present? i.suggestion with
    | some s => [⟨"   Suggestion: ", some .green⟩, ⟨s ++ "\n", none⟩]
    | none => [])
  ++ (match present? (some i.context) with
    | some s => [⟨s!"   Context: {s}\n", some .brightBlack⟩]
    | none => [])

/-- The report with styles. -/
def Verdict.styledReport (v : Verdict) (fileName : Option String) : StyledText :=
  let counts : StyledText := [
    ⟨Verdict.header fileName ++ "\n", some .bold⟩,
    ⟨Text.repeated 50 '=' ++ "\n", none⟩,
    ⟨"Status: ", none⟩,
    ⟨v.status ++ "\n", some (if v.passed then .boldGreen else .boldRed)⟩,
    ⟨s!"Total Constructs: {v.summary.constructs}\n", none⟩,
    ⟨s!"Errors: {v.summary.errors}\n", some Severity.error.style⟩,
    ⟨s!"Warnings: {v.summary.warnings}\n", some Severity.warning.style⟩,
    ⟨s!"Info: {v.summary.info}\n\n", some Severity.info.style⟩]
  if v.issues.isEmpty then counts ++ [⟨"No issues found!\n", some .boldGreen⟩]
  else
    counts ++ [⟨"Issues Found:\n", some .bold⟩, ⟨Text.repeated 30 '-' ++ "\n", none⟩]
      ++ (v.issues.zipIdx 1).flatMap fun (issue, number) => issue.styled number

end MediaLanguage
