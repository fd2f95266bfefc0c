import Mathlib.Data.List.Basic
import Mathlib.Data.Set.Image
import MediaLanguage.Proofs.Text.Quoting

/-!
# Reading literals back

A literal says itself where it ends. Its reader goes through the characters behind the opening quote and gives the text
of the literal and what stands behind the closing quote. In a literal of SQL two quotes stand for one
(`Text.readDoubled`); in a literal of a graph script a backslash stands in front of a character that is meant as it is
(`Graph.readBody`).

* `Text.readDoubled_replaceEach`, `Graph.readBody_escape`: an escaped text is read back whatever follows it, and the
  reader goes on with what follows. The induction is on the characters of the text.
* `Graph.escape_eq_replaceEach`: escaping is two replacements in the whole text, of backslashes first.
* `literals_read_back`: a literal is read back from the front of any text, but a literal of SQL not in front of a
  quote; so literals determine their texts, and the literal of a missing text is the literal of no text.
-/

namespace MediaLanguage

namespace Text

/-- The text with `new` in the place of each `c`. -/
def replaceEach (c : Char) (new : List Char) (cs : List Char) : List Char :=
  cs.flatMap fun d => if d = c then new else [d]

/-! ## Marks that are doubled -/

/-- The text up to a mark that stands alone, and what stands behind that mark. Two marks stand for one in the text. -/
def readDoubled (mark : Char) : List Char → Option (List Char × List Char)
  | [] => none
  | [c] => if c = mark then some ([], []) else none
  | c :: d :: cs =>
    if c = mark then
      if d = mark then (readDoubled mark cs).map fun p => (mark :: p.1, p.2) else some ([], d :: cs)
    else (readDoubled mark (d :: cs)).map fun p => (c :: p.1, p.2)

section Doubled

variable {mark c : Char} {cs rest : List Char}

/-- A mark with no second one behind it ends the text. -/
theorem readDoubled_mark (h : rest.head? ≠ some mark) : readDoubled mark (mark :: rest) = some ([], rest) := by
  cases rest with
  | nil => simp [readDoubled]
  | cons d rest =>
    have hd : d ≠ mark := by simpa using h
    simp [readDoubled, hd]

/-- Another character is a part of the text. -/
theorem readDoubled_of_ne (h : c ≠ mark) :
    readDoubled mark (c :: rest) = (readDoubled mark rest).map fun p => (c :: p.1, p.2) := by
  cases rest <;> simp [readDoubled, h]

/-- A text with its marks doubled is read back, and the reader goes on with what follows. -/
theorem readDoubled_replaceEach (mark : Char) (cs rest : List Char) :
    readDoubled mark (replaceEach mark [mark, mark] cs ++ rest) =
      (readDoubled mark rest).map fun p => (cs ++ p.1, p.2) := by
  induction cs with
  | nil => simp [replaceEach]
  | cons c cs ih =>
    rw [replaceEach, List.flatMap_cons, List.append_assoc, ← replaceEach]
    by_cases hc : c = mark
    · subst hc
      simp [readDoubled, ih, Function.comp_def]
    · rw [if_neg hc, List.singleton_append, readDoubled_of_ne hc, ih]
      simp [Function.comp_def]

/-- The text ends at the closing mark exactly if no other mark stands behind that. In front of a mark the closing mark
is taken for a part of the text, which is longer then. -/
theorem readDoubled_closed_iff : readDoubled mark (replaceEach mark [mark, mark] cs ++ mark :: rest) = some (cs, rest) ↔
    rest.head? ≠ some mark := by
  rw [readDoubled_replaceEach]
  constructor
  · intro hread hmark
    obtain ⟨tail, rfl⟩ := List.head?_eq_some_iff.1 hmark
    rw [readDoubled, if_pos rfl, if_pos rfl, Option.map_map, Option.map_eq_some_iff] at hread
    obtain ⟨p, -, hp⟩ := hread
    have hlength := congrArg List.length (congrArg Prod.fst hp)
    simp at hlength
  · intro h
    rw [readDoubled_mark h]
    simp

/-- What stands behind the text is shorter than what is read. -/
theorem readDoubled_length {p : List Char × List Char} (h : readDoubled mark cs = some p) : p.2.length < cs.length := by
  fun_induction readDoubled mark cs generalizing p with
  | case1 => cases h
  | case2 =>
    cases h
    exact Nat.zero_lt_one
  | case3 => cases h
  | case4 cs ih =>
    obtain ⟨q, hq, rfl⟩ := Option.map_eq_some_iff.1 h
    have hlt := ih hq
    simp only [List.length_cons]
    omega
  | case5 d cs _ =>
    cases h
    exact Nat.lt_succ_self _
  | case6 c d cs _ ih =>
    obtain ⟨q, hq, rfl⟩ := Option.map_eq_some_iff.1 h
    have hlt := ih hq
    simp only [List.length_cons] at hlt ⊢
    omega

end Doubled

end Text

open Text

/-! ## Literals of SQL -/

namespace Sql

/-- The text of the literal at the front, and what stands behind the literal. -/
def readLiteral? (s : String) : Option (String × String) :=
  match s.toList with
  | [] => none
  | c :: cs => if c = '\'' then (readDoubled '\'' cs).map fun p => (String.ofList p.1, String.ofList p.2) else none

/-- A literal is read back exactly if no quote stands behind it. -/
theorem readLiteral?_quote_iff (s r : String) :
    readLiteral? (quote s ++ r) = some (s, r) ↔ r.toList.head? ≠ some '\'' := by
  have htext : (quote s ++ r).toList = '\'' :: (replaceEach '\'' ['\'', '\''] s.toList ++ '\'' :: r.toList) := by
    simp [quote, escape, replaceEach]
  have hclosed := @readDoubled_closed_iff '\'' s.toList r.toList
  rw [readLiteral?, htext, ← hclosed]
  simp only [↓reduceIte, Option.map_eq_some_iff]
  constructor
  · rintro ⟨⟨text, rest⟩, hread, hp⟩
    obtain ⟨rfl, rfl⟩ := Prod.mk.inj hp
    rw [hread, String.toList_ofList, String.toList_ofList]
  · intro hread
    exact ⟨_, hread, by rw [String.ofList_toList, String.ofList_toList]⟩

/-- A missing text has a literal of its own. -/
theorem quoteOptional_injective : Function.Injective quoteOptional := by
  refine Option.injective_iff.2 ⟨quote_injective, ?_⟩
  rintro ⟨s, hs⟩
  have hlist : (quote s).toList = "NULL".toList := congrArg String.toList hs
  simp [quote] at hlist

end Sql

/-! ## Literals of graph scripts -/

namespace Graph

/-- The text up to a quote that no backslash stands in front of, and what stands behind that quote. A backslash is left
out, and the character behind it is a part of the text. -/
def readBody : List Char → Option (List Char × List Char)
  | [] => none
  | [c] => if c = '\'' then some ([], []) else none
  | c :: d :: cs =>
    if c = '\'' then some ([], d :: cs)
    else if c = '\\' then (readBody cs).map fun p => (d :: p.1, p.2)
    else (readBody (d :: cs)).map fun p => (c :: p.1, p.2)

/-- A quote ends the text. -/
theorem readBody_quote (rest : List Char) : readBody ('\'' :: rest) = some ([], rest) := by
  cases rest <;> simp [readBody]

/-- A character that is neither a quote nor a backslash is a part of the text. -/
theorem readBody_of_ne {c : Char} (hquote : c ≠ '\'') (hbackslash : c ≠ '\\') (rest : List Char) :
    readBody (c :: rest) = (readBody rest).map fun p => (c :: p.1, p.2) := by
  cases rest <;> simp [readBody, hquote, hbackslash]

/-- An escaped text is read back, and the reader goes on with what follows. -/
theorem readBody_escape (cs rest : List Char) :
    readBody (escape cs ++ rest) = (readBody rest).map fun p => (cs ++ p.1, p.2) := by
  induction cs with
  | nil => simp [escape]
  | cons c cs ih =>
    rw [escape, List.flatMap_cons, List.append_assoc, ← escape]
    by_cases hc : c = '\'' ∨ c = '\\'
    · rw [if_pos hc]
      simp [readBody, ih, Function.comp_def]
    · rw [if_neg hc, List.singleton_append, readBody_of_ne (fun h => hc (.inl h)) (fun h => hc (.inr h)), ih]
      simp [Function.comp_def]

/-- Escaping replaces every backslash by two, and every quote after that by a backslash and a quote. The other way
round, the backslashes that are put in front of quotes would be doubled too. -/
theorem escape_eq_replaceEach (cs : List Char) :
    escape cs = replaceEach '\'' ['\\', '\''] (replaceEach '\\' ['\\', '\\'] cs) := by
  rw [escape, replaceEach, replaceEach, List.flatMap_assoc]
  refine List.flatMap_congr fun c _ => ?_
  by_cases hbackslash : c = '\\'
  · simp [hbackslash]
  · by_cases hquote : c = '\'' <;> simp [hbackslash, hquote]

/-- The text of the literal at the front, and what stands behind the literal. -/
def readLiteral? (s : String) : Option (String × String) :=
  match s.toList with
  | [] => none
  | c :: cs => if c = '\'' then (readBody cs).map fun p => (String.ofList p.1, String.ofList p.2) else none

/-- A literal is read back in front of every text. -/
theorem readLiteral?_quote (s r : String) : readLiteral? (quote s ++ r) = some (s, r) := by
  have htext : (quote s ++ r).toList = '\'' :: (escape s.toList ++ '\'' :: r.toList) := by
    simp [quote]
  rw [readLiteral?, htext]
  simp [readBody_escape, readBody_quote]

/-- A missing text has a literal of its own. -/
theorem quoteOptional_injective : Function.Injective quoteOptional := by
  refine Option.injective_iff.2 ⟨quote_injective, ?_⟩
  rintro ⟨s, hs⟩
  have hlist : (quote s).toList = "null".toList := congrArg String.toList hs
  simp [quote] at hlist

end Graph

/-! ## Both kinds of literals -/

/-- **Literals are read back.** A literal of SQL is read back from the front of a text exactly if no quote stands behind
it, and a literal of a graph script from the front of every text; so no two texts have the same literal, and a missing
text has none in common with a text. -/
theorem literals_read_back :
    (∀ s r : String, Sql.readLiteral? (Sql.quote s ++ r) = some (s, r) ↔ r.toList.head? ≠ some '\'') ∧
      (∀ s r : String, Graph.readLiteral? (Graph.quote s ++ r) = some (s, r)) ∧
      (∀ cs, Sql.escape cs = replaceEach '\'' ['\'', '\''] cs) ∧
      (∀ cs, Graph.escape cs = replaceEach '\'' ['\\', '\''] (replaceEach '\\' ['\\', '\\'] cs)) ∧
      Function.Injective Sql.quote ∧ Function.Injective Graph.quote ∧
      Function.Injective Sql.quoteOptional ∧ Function.Injective Graph.quoteOptional :=
  ⟨Sql.readLiteral?_quote_iff, Graph.readLiteral?_quote, fun _ => rfl, Graph.escape_eq_replaceEach,
    Sql.quote_injective, Graph.quote_injective, Sql.quoteOptional_injective, Graph.quoteOptional_injective⟩

/-- A text that ends with a quote and a backslash. -/
example : Graph.readLiteral? (Graph.quote "it's'\\" ++ "'\\") = some ("it's'\\", "'\\") := by decide

end MediaLanguage
