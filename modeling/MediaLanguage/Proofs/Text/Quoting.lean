import Mathlib.Logic.Function.Basic
import MediaLanguage.Graph.Literal
import MediaLanguage.Sql.Literal

/-!
# Literals determine their texts

A literal is a text between quotes, its characters written one by one. As long as each of them can be told from what
follows it (`SelfDelimiting`), no two texts have the same literal (`SelfDelimiting.injective_literal`). Both kinds of
scripts write literals this way (`Sql.quote_injective`, `Graph.quote_injective`).
-/

namespace MediaLanguage

/-- Characters are written so that each can be told from what follows it. -/
structure SelfDelimiting (escape : Char → List Char) : Prop where
  ne_nil : ∀ c, escape c ≠ []
  split : ∀ c d rest rest', escape c ++ rest = escape d ++ rest' → c = d ∧ rest = rest'

namespace SelfDelimiting

variable {escape : Char → List Char}

/-- What is written determines the characters. -/
theorem injective_flatMap (h : SelfDelimiting escape) : Function.Injective fun cs : List Char => cs.flatMap escape := by
  intro cs ds heq
  induction cs generalizing ds with
  | nil =>
    cases ds with
    | nil => rfl
    | cons d ds => exact absurd (List.append_eq_nil_iff.1 heq.symm).1 (h.ne_nil d)
  | cons c cs ih =>
    cases ds with
    | nil => exact absurd (List.append_eq_nil_iff.1 heq).1 (h.ne_nil c)
    | cons d ds =>
      obtain ⟨rfl, hrest⟩ := h.split c d _ _ heq
      rw [ih hrest]

/-- A literal determines its text. -/
theorem injective_literal (h : SelfDelimiting escape) :
    Function.Injective fun s : String => String.ofList ('\'' :: s.toList.flatMap escape ++ ['\'']) := by
  intro s t heq
  have hbody : s.toList.flatMap escape = t.toList.flatMap escape := by
    simpa using String.ofList_injective heq
  exact String.toList_injective (h.injective_flatMap hbody)

end SelfDelimiting

/-- A quote that is written twice is told from what follows by the first of them. -/
theorem Sql.selfDelimiting_escape : SelfDelimiting fun c => if c = '\'' then ['\'', '\''] else [c] where
  ne_nil := by
    intro c
    split <;> exact List.cons_ne_nil _ _
  split := by
    intro c d rest rest' heq
    by_cases hc : c = '\'' <;> by_cases hd : d = '\'' <;> grind

/-- A character behind a backslash is told from what follows by the backslash. -/
theorem Graph.selfDelimiting_escape : SelfDelimiting fun c => if c = '\'' ∨ c = '\\' then ['\\', c] else [c] where
  ne_nil := by
    intro c
    split <;> exact List.cons_ne_nil _ _
  split := by
    intro c d rest rest' heq
    by_cases hc : c = '\'' ∨ c = '\\' <;> by_cases hd : d = '\'' ∨ d = '\\' <;> grind

theorem Sql.quote_injective : Function.Injective Sql.quote :=
  Sql.selfDelimiting_escape.injective_literal

theorem Graph.quote_injective : Function.Injective Graph.quote :=
  Graph.selfDelimiting_escape.injective_literal

end MediaLanguage
