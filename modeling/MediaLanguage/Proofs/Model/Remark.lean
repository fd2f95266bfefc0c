import MediaLanguage.Proofs.Text.Plain
import MediaLanguage.Sql.Literal

/-!
# Values in comments

A comment shows a value by its text, by its name or by its kind. It stands on one line if the text does: names and
numbers never hold the end of a line.
-/

namespace MediaLanguage

section OneLine

variable {s t : String}

theorem OneLine.append (h : OneLine s) (h' : OneLine t) : OneLine (s ++ t) := by
  rw [OneLine, String.toList_append]
  exact List.forall_mem_append.2 ⟨h, h'⟩

end OneLine

namespace Model.Value

/-- The quoted texts that a comment shows of a value. -/
def shownTexts : Value → List String
  | .string value => [value]
  | _ => []

/-- The names that a comment shows of a value. -/
def shownNames : Value → List String
  | .reference name => [name]
  | _ => []

/-- A comment shows a value on one line if it shows its text on one line. -/
theorem oneLine_remark {v : Value} (htexts : ∀ s ∈ v.shownTexts, OneLine s) (hnames : ∀ s ∈ v.shownNames, IsWord s) :
    OneLine v.remark := by
  cases v with
  | string value =>
    have hvalue : OneLine value := htexts value List.mem_cons_self
    have hquote : OneLine "\"" := by decide
    exact (hquote.append hvalue).append hquote
  | number value =>
    show OneLine (text _)
    rw [text]
    exact value.oneLine_text
  | boolean value => cases value <;> decide
  | reference name =>
    have hname : OneLine name := (hnames name List.mem_cons_self).oneLine
    have hsign : OneLine "$" := by decide
    show OneLine (text _)
    rw [text]
    exact hsign.append hname
  | object fields => exact (by decide : OneLine "object")
  | array items => exact (by decide : OneLine "array")

end Model.Value

end MediaLanguage
