import Mathlib.Data.List.Nodup
import MediaLanguage.Proofs.Validation.Reports

/-!
# What a table of symbols holds

A table is filled by one declaration after the other, and a symbol that is declared again takes the new place. Which
symbols it holds in the end depends on the declarations alone, not on their order, and so does which symbols are
found to be declared again, and how often.

* `mem_keys_collect`: the table has the symbols it had before and those of the declarations, each once
  (`nodup_keys_collect`).
* `findings_collect` and `count_redeclaredSymbols`: of the declarations of a symbol all but the first raise an issue,
  and what it says is the same for all.
* `keys_collect_perm` and `findings_collect_perm`: so neither depends on the order.
-/

namespace MediaLanguage

/-- What an issue says, without its place and the hint. -/
structure Finding where
  severity : Severity
  code : String
  message : String
  context : String
deriving DecidableEq

/-- What an issue says. -/
def Issue.finding (i : Issue) : Finding :=
  ⟨i.severity, i.code, i.message, i.context⟩

/-- What is said of a symbol that is declared again. -/
def Symbol.finding (path : List String) (symbol : Symbol) : Finding :=
  ⟨.error, symbol.redeclaration.1, symbol.redeclaration.2, contextText path⟩

namespace Symbols

/-! ## Declared symbols -/

section Keys

variable {s : Symbols} {symbol : Symbol}

/-- The symbols of a table. -/
def keys (s : Symbols) : List Symbol :=
  s.map Prod.fst

/-- A table declares its symbols. -/
theorem declares_iff : s.declares symbol ↔ symbol ∈ s.keys := by
  unfold declares find? keys
  induction s with
  | nil => simp
  | cons entry s ih =>
    obtain ⟨other, place⟩ := entry
    by_cases h : symbol = other
    · subst h
      simp
    · have hne : (symbol == other) = false := by simpa using h
      simp [List.lookup_cons, hne, h, ih]

/-- A declaration adds its symbol at the end, unless the table has it. -/
theorem keys_insert (position : Position) :
    (s.insert symbol position).keys = if symbol ∈ s.keys then s.keys else s.keys ++ [symbol] := by
  unfold keys
  induction s with
  | nil => simp [insert]
  | cons entry s ih =>
    obtain ⟨other, place⟩ := entry
    rw [insert]
    by_cases h : other = symbol
    · simp [h]
    · have hne : symbol ≠ other := Ne.symm h
      rw [if_neg h, List.map_cons, ih, List.map_cons]
      by_cases hmem : symbol ∈ s.map Prod.fst
      · rw [if_pos hmem, if_pos (List.mem_cons_of_mem _ hmem)]
      · have hnot : symbol ∉ other :: s.map Prod.fst := by
          rw [List.mem_cons]
          rintro (heq | hin)
          · exact hne heq
          · exact hmem hin
        rw [if_neg hmem, if_neg hnot, List.cons_append]

/-- A table that is filled has every symbol once. -/
theorem nodup_keys_insert (h : s.keys.Nodup) (position : Position) : (s.insert symbol position).keys.Nodup := by
  rw [keys_insert]
  split
  · exact h
  · next hmem =>
    rw [List.nodup_append]
    refine ⟨h, List.nodup_singleton symbol, ?_⟩
    rintro x hx y hy rfl
    exact hmem (List.mem_singleton.1 hy ▸ hx)

/-- The symbols of a table after a declaration. -/
theorem mem_keys_insert {other : Symbol} (position : Position) :
    other ∈ (s.insert symbol position).keys ↔ other ∈ s.keys ∨ other = symbol := by
  rw [keys_insert]
  split
  · next hmem =>
    constructor
    · exact .inl
    · rintro (h | rfl)
      · exact h
      · exact hmem
  · rw [List.mem_append, List.mem_singleton]

end Keys

/-! ## Collected declarations -/

section Collect

variable {s : Symbols} {path : List String} {declarations : List (Symbol × Position)}

/-- Declarations in two parts. -/
theorem collect_append {others : List (Symbol × Position)} : s.collect path (declarations ++ others) =
    (((s.collect path declarations).1.collect path others).1,
      (s.collect path declarations).2 ++ ((s.collect path declarations).1.collect path others).2) := by
  induction declarations generalizing s with
  | nil => rfl
  | cons d declarations ih =>
    obtain ⟨symbol, position⟩ := d
    simp only [List.cons_append, collect, ih, List.append_assoc]

/-- The symbols of the table that declarations fill. -/
theorem mem_keys_collect {symbol : Symbol} :
    symbol ∈ (s.collect path declarations).1.keys ↔ symbol ∈ s.keys ∨ symbol ∈ declarations.map Prod.fst := by
  induction declarations generalizing s with
  | nil => simp [collect]
  | cons declaration declarations ih =>
    obtain ⟨declared, position⟩ := declaration
    rw [collect]
    dsimp only
    rw [ih, mem_keys_insert, List.map_cons, List.mem_cons, or_assoc]

/-- Declarations fill a table with every symbol once. -/
theorem nodup_keys_collect (h : s.keys.Nodup) : (s.collect path declarations).1.keys.Nodup := by
  induction declarations generalizing s with
  | nil => exact h
  | cons declaration declarations ih => exact ih (nodup_keys_insert h _)

/-- The symbols that declarations declare again, one for each declaration that is not the first. -/
def redeclaredSymbols (s : Symbols) : List (Symbol × Position) → List Symbol
  | [] => []
  | (symbol, position) :: declarations =>
    (if s.declares symbol then [symbol] else []) ++ redeclaredSymbols (s.insert symbol position) declarations

/-- The issues of declarations say that symbols are declared again. -/
theorem findings_collect :
    (s.collect path declarations).2.map Issue.finding =
      (s.redeclaredSymbols declarations).map (Symbol.finding path) := by
  induction declarations generalizing s with
  | nil => rfl
  | cons declaration declarations ih =>
    obtain ⟨symbol, position⟩ := declaration
    rw [collect, redeclaredSymbols, List.map_append, List.map_append, ih]
    congr 1
    unfold declares
    cases s.find? symbol <;> rfl

/-- A symbol is declared again by all its declarations but the first. -/
theorem count_redeclaredSymbols (symbol : Symbol) :
    (s.redeclaredSymbols declarations).count symbol =
      (declarations.map Prod.fst).count symbol - if symbol ∈ s.keys then 0 else 1 := by
  induction declarations generalizing s with
  | nil => simp [redeclaredSymbols]
  | cons declaration declarations ih =>
    obtain ⟨declared, position⟩ := declaration
    rw [redeclaredSymbols, List.count_append, ih, List.map_cons, List.count_cons]
    by_cases h : declared = symbol
    · subst h
      have hmem : declared ∈ (s.insert declared position).keys := (mem_keys_insert position).2 (.inr rfl)
      by_cases hdeclared : declared ∈ s.keys
      · rw [if_pos hmem, if_pos hdeclared, if_pos (declares_iff.2 hdeclared)]
        simp [Nat.add_comm]
      · rw [if_pos hmem, if_neg hdeclared, if_neg (fun hin => hdeclared (declares_iff.1 hin))]
        simp
    · have hmem : symbol ∈ (s.insert declared position).keys ↔ symbol ∈ s.keys := by
        rw [mem_keys_insert, or_iff_left (Ne.symm h)]
      have hhead : (if s.declares declared then [declared] else []).count symbol = 0 := by
        split <;> simp [h]
      have hbeq : (declared == symbol) = false := by simpa using h
      simp only [hmem, hhead, hbeq, Nat.zero_add]
      rfl

/-- The order of declarations changes nothing about the symbols of the table. -/
theorem keys_collect_perm {others : List (Symbol × Position)} (hnodup : s.keys.Nodup) (h : declarations.Perm others) :
    (s.collect path declarations).1.keys.Perm (s.collect path others).1.keys := by
  rw [List.perm_ext_iff_of_nodup (nodup_keys_collect hnodup) (nodup_keys_collect hnodup)]
  intro symbol
  rw [mem_keys_collect, mem_keys_collect, (h.map Prod.fst).mem_iff]

/-- The order of declarations changes nothing about what their issues say. -/
theorem findings_collect_perm {others : List (Symbol × Position)} (h : declarations.Perm others) :
    ((s.collect path declarations).2.map Issue.finding).Perm ((s.collect path others).2.map Issue.finding) := by
  rw [findings_collect, findings_collect]
  apply List.Perm.map
  rw [List.perm_iff_count]
  intro symbol
  rw [count_redeclaredSymbols, count_redeclaredSymbols, (h.map Prod.fst).count_eq]

end Collect

end Symbols

end MediaLanguage
