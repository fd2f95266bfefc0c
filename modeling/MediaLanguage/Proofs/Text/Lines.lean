import Mathlib.Data.List.Induction
import MediaLanguage.Text.Lines

/-!
# Lines of a text

* `splitWhere_eq_splitOnP`: the pieces between some characters are those of the list operation; none of them has such a
  character (`eq_false_of_mem_splitWhere`).
* `lines_unlines`, `unlines_lines`: cutting and joining undo each other; joined lines with a line feed behind the last
  one are all of them with a line feed each (`unlines_append`).
* `getElem?_splitLines_append`: the number of line feeds in front of a place is the index of its line, and the place
  is as many characters behind the front of the line as there are behind the last of the line feeds.
-/

namespace MediaLanguage.Text

/-! ## Pieces between characters -/

section Pieces

variable {f : Char → Bool} {cs piece : List Char}

/-- Cutting a text is cutting the list of its characters. -/
theorem splitWhere_eq_splitOnP (f : Char → Bool) (cs : List Char) : splitWhere f cs = cs.splitOnP f := by
  induction cs with
  | nil => rfl
  | cons c cs ih =>
    rw [splitWhere, List.splitOnP_cons_eq_if_modifyHead, ih]
    split
    · rfl
    · split
      · next hnil => exact absurd hnil (List.splitOnP_ne_nil f cs)
      · next hpieces => rw [hpieces, List.modifyHead_cons]

/-- The pieces have none of the characters that cut. -/
theorem eq_false_of_mem_splitWhere (h : piece ∈ splitWhere f cs) : ∀ c ∈ piece, f c = false := by
  induction cs generalizing piece with
  | nil =>
    rw [List.mem_singleton.1 h]
    intro c hc
    cases hc
  | cons c cs ih =>
    rw [splitWhere] at h
    split at h
    · rcases List.mem_cons.1 h with rfl | h
      · intro d hd
        cases hd
      · exact ih h
    · next hc =>
      have hc : f c = false := by simpa using hc
      split at h
      · rw [List.mem_singleton.1 h]
        simpa using hc
      · next first rest hsplit =>
        rw [hsplit] at ih
        rcases List.mem_cons.1 h with rfl | h
        · exact List.forall_mem_cons.2 ⟨hc, ih List.mem_cons_self⟩
        · exact ih (List.mem_cons_of_mem _ h)

/-- A text without a character that cuts is one piece. -/
theorem splitWhere_of_forall (h : ∀ c ∈ cs, f c = false) : splitWhere f cs = [cs] := by
  induction cs with
  | nil => rfl
  | cons c cs ih =>
    obtain ⟨hc, hcs⟩ := List.forall_mem_cons.1 h
    rw [splitWhere, hc, ih hcs]
    rfl

end Pieces

/-! ## Joined lines -/

/-- Joined lines, with a line feed behind the last one. -/
theorem unlines_append {ls : List String} (h : ls ≠ []) : unlines ls ++ "\n" = String.join (ls.map (· ++ "\n")) := by
  induction ls with
  | nil => exact absurd rfl h
  | cons l ls ih =>
    cases ls with
    | nil => simp [unlines]
    | cons m ms =>
      have hrest : unlines (m :: ms) ++ "\n" = String.join ((m :: ms).map (· ++ "\n")) := ih (List.cons_ne_nil m ms)
      rw [List.map_cons, String.join_cons, ← hrest, unlines, String.intercalate_cons_cons, unlines, String.append_assoc]

/-- Lines that are joined are cut into the same lines again. -/
theorem lines_unlines {ls : List String} (h : ls ≠ []) (hbreak : ∀ l ∈ ls, '\n' ∉ l.toList) :
    lines (unlines ls) = ls := by
  have hcut : splitLines (unlines ls).toList = ls.map String.toList := by
    rw [splitLines, splitWhere_eq_splitOnP, unlines, String.toList_intercalate]
    refine List.splitOn_intercalate '\n' ?_ (by simpa using h)
    intro cs hcs
    obtain ⟨l, hl, rfl⟩ := List.mem_map.1 hcs
    exact hbreak l hl
  rw [lines, hcut, List.map_map]
  simp [Function.comp_def]

/-- The lines of a text, joined, are the text. -/
theorem unlines_lines (s : String) : unlines (lines s) = s := by
  have hid : String.toList ∘ String.ofList = id := funext fun _ => String.toList_ofList
  apply String.toList_injective
  rw [unlines, String.toList_intercalate, lines, List.map_map, hid, List.map_id, splitLines, splitWhere_eq_splitOnP]
  exact List.intercalate_splitOn '\n'

/-- The lines of a text have no line feed. -/
theorem not_mem_of_mem_lines {s line : String} (h : line ∈ lines s) : '\n' ∉ line.toList := by
  obtain ⟨cs, hcs, rfl⟩ := List.mem_map.1 h
  intro hmem
  rw [String.toList_ofList] at hmem
  simpa using eq_false_of_mem_splitWhere hcs '\n' hmem

/-! ## Lines and positions -/

/-- A text has one more line than it has line feeds. -/
theorem length_splitLines (cs : List Char) : (splitLines cs).length = cs.count '\n' + 1 := by
  rw [splitLines, splitWhere_eq_splitOnP]
  induction cs with
  | nil => rfl
  | cons c cs ih =>
    rw [List.splitOnP_cons_eq_if_modifyHead]
    by_cases hc : c = '\n'
    · subst hc
      simp [ih]
    · simp [hc, ih]

/-- The first line of a text ends in front of its first line feed. -/
theorem head?_splitLines (cs : List Char) : (splitLines cs).head? = some (cs.takeWhile (· != '\n')) := by
  rw [splitLines, splitWhere_eq_splitOnP]
  induction cs with
  | nil => rfl
  | cons c cs ih =>
    rw [List.splitOnP_cons_eq_if_modifyHead]
    by_cases hc : c = '\n'
    · subst hc
      rfl
    · simp [hc, ih]

/-- The line in which a text is cut in two: what stands behind the last line feed of the first part, and in front of
the first line feed of the second. The induction is on the first part, from its end. -/
theorem getElem?_splitLines_append (before after : List Char) :
    (splitLines (before ++ after))[before.count '\n']? =
      some ((before.reverse.takeWhile (· != '\n')).reverse ++ after.takeWhile (· != '\n')) := by
  induction before using List.reverseRecOn generalizing after with
  | nil =>
    rw [List.count_nil, List.nil_append, ← List.head?_eq_getElem?, head?_splitLines]
    rfl
  | append_singleton before c ih =>
    rw [List.append_assoc, List.singleton_append, List.count_append]
    by_cases hc : c = '\n'
    · subst hc
      have hcut : splitLines (before ++ '\n' :: after) = splitLines before ++ splitLines after := by
        simp only [splitLines, splitWhere_eq_splitOnP]
        exact List.splitOnP_append_cons before after rfl
      rw [hcut, List.count_singleton_self, ← length_splitLines, List.getElem?_append_right (Nat.le_refl _),
        Nat.sub_self, ← List.head?_eq_getElem?, head?_splitLines]
      simp
    · have hcount : [c].count '\n' = 0 := List.count_eq_zero.2 (by simpa using Ne.symm hc)
      rw [hcount, Nat.add_zero, ih]
      simp [hc]

end MediaLanguage.Text
