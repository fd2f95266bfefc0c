import Mathlib.Data.List.Induction
import Mathlib.Data.List.Nodup
import MediaLanguage.Validation.Rules

/-!
# Elements that come again

Rules against repetition compare the keys of elements with those in front; tables and numberings keep what they meet in
the order in which it comes first.

* `recurrences`: the elements whose key has occurred in front of them, each with the nearest such element. One more
  element at the end adds at most itself (`recurrences_append_singleton`).
* `repeats_eq_map_recurrences` and `repeats_eq_nil_iff`: the rules find these elements, and none exactly if all keys
  are different.
* `InFirstOrder`: a list without repetition, in the order of the first occurrences in another list.
-/

namespace MediaLanguage

section Recurrences

variable {α κ : Type} [BEq κ]

/-- The elements whose key is the key of an earlier element. -/
def repeats (key : α → κ) (xs : List α) : List α :=
  ((markRepeats key [] xs).filter Prod.snd).map Prod.fst

/-- The elements whose key is the key of an element in front of them, each with the nearest such element. -/
def recurrences (key : α → κ) (xs : List α) : List (α × α) :=
  xs.zipIdx.filterMap fun x => ((xs.take x.2).reverse.find? fun y => key y == key x.1).map fun y => (x.1, y)

variable {key : α → κ} {seen : List κ} {xs ys : List α} {x : α}

/-- One more element is among those that come again if its key has occurred. -/
theorem recurrences_append_singleton :
    recurrences key (xs ++ [x]) =
      recurrences key xs ++ ((xs.reverse.find? fun y => key y == key x).map fun y => (x, y)).toList := by
  have hfront : xs.zipIdx.filterMap (fun z =>
      (((xs ++ [x]).take z.2).reverse.find? fun y => key y == key z.1).map fun y => (z.1, y)) = recurrences key xs := by
    refine List.filterMap_congr fun z hz => ?_
    have hindex : z.2 ≤ xs.length := Nat.le_of_lt (List.snd_lt_of_mem_zipIdx hz)
    rw [List.take_append_of_le_length hindex]
  rw [recurrences, List.zipIdx_append, List.filterMap_append, hfront]
  congr 1
  simp only [List.zipIdx_singleton, List.filterMap_cons, List.filterMap_nil, Nat.zero_add, List.take_left']
  cases xs.reverse.find? fun y => key y == key x <;> rfl

/-- What comes again among the elements of some kind, if elements with one key are of one kind. -/
theorem filter_recurrences (p : α → Bool) (hp : ∀ x y, (key x == key y) = true → p x = p y) :
    (recurrences key xs).filter (fun x => p x.1) = recurrences key (xs.filter p) := by
  induction xs using List.reverseRecOn with
  | nil => rfl
  | append_singleton xs x ih =>
    rw [recurrences_append_singleton, List.filter_append, ih, List.filter_append]
    by_cases hx : p x
    · -- the nearest element in front with the key of `x` is of the kind of `x`
      have hfind :
          ((xs.filter p).reverse.find? fun y => key y == key x) = xs.reverse.find? fun y => key y == key x := by
        rw [← List.filter_reverse, List.find?_filter]
        congr 1
        funext y
        by_cases hy : key y == key x
        · simp [hp y x hy, hx, hy]
        · simp [hy]
      rw [List.filter_cons_of_pos hx, List.filter_nil, recurrences_append_singleton, hfind]
      cases xs.reverse.find? fun y => key y == key x <;> simp [hx]
    · rw [List.filter_cons_of_neg hx, List.filter_nil, List.append_nil]
      cases xs.reverse.find? fun y => key y == key x <;> simp [hx]

theorem markRepeats_append :
    markRepeats key seen (xs ++ ys) = markRepeats key seen xs ++ markRepeats key ((xs.map key).reverse ++ seen) ys := by
  induction xs generalizing seen with
  | nil => rfl
  | cons x xs ih => simp [markRepeats, ih]

/-- Marks aside, the elements are the same. -/
theorem map_fst_markRepeats (key : α → κ) (seen : List κ) (xs : List α) :
    (markRepeats key seen xs).map Prod.fst = xs := by
  induction xs generalizing seen with
  | nil => rfl
  | cons x xs ih => rw [markRepeats, List.map_cons, ih]

/-- The rules against repetition find the elements that come again. -/
theorem repeats_eq_map_recurrences [LawfulBEq κ] : repeats key xs = (recurrences key xs).map Prod.fst := by
  induction xs using List.reverseRecOn with
  | nil => rfl
  | append_singleton xs x ih =>
    unfold repeats at ih ⊢
    rw [markRepeats_append, recurrences_append_singleton, List.filter_append, List.map_append, List.map_append, ih]
    have hseen : ((xs.map key).reverse ++ []).contains (key x) =
        (xs.reverse.find? fun y => key y == key x).isSome := by
      rw [Bool.eq_iff_iff]
      simp [List.find?_isSome]
    rw [markRepeats, markRepeats, hseen]
    cases xs.reverse.find? fun y => key y == key x <;> rfl

/-- Nothing comes again exactly if all keys are different. -/
theorem repeats_eq_nil_iff [LawfulBEq κ] : repeats key xs = [] ↔ (xs.map key).Nodup := by
  rw [repeats_eq_map_recurrences, List.map_eq_nil_iff]
  induction xs using List.reverseRecOn with
  | nil => simp [recurrences]
  | append_singleton xs x ih =>
    have hnew : ((xs.reverse.find? fun y => key y == key x).map fun y => (x, y)).toList = [] ↔ key x ∉ xs.map key := by
      rw [Option.toList_eq_nil_iff, Option.map_eq_none_iff, List.find?_eq_none]
      simp
    rw [recurrences_append_singleton, List.append_eq_nil_iff, ih, hnew, List.map_append, List.map_singleton,
      List.nodup_append_comm, List.singleton_append, List.nodup_cons, and_comm]

end Recurrences

/-- An entry is found by its key, if no other entry has the key. -/
theorem lookup_of_mem {κ β : Type} [BEq κ] [LawfulBEq κ] {l : List (κ × β)} (hnodup : (l.map Prod.fst).Nodup) {k : κ}
    {b : β} (h : (k, b) ∈ l) : l.lookup k = some b := by
  obtain ⟨before, behind, rfl⟩ := List.append_of_mem h
  refine List.lookup_eq_some_iff.2 ⟨before, behind, rfl, fun x hx => ?_⟩
  simp only [List.map_append, List.map_cons, List.nodup_middle, List.nodup_cons, List.mem_append, not_or] at hnodup
  rw [bne_iff_ne]
  rintro rfl
  exact hnodup.1.1 (List.mem_map_of_mem hx)

section FirstOrder

variable {κ : Type} [BEq κ] {xs ys : List κ}

/-- `ys` are the elements of `xs`, each once, in the order of their first occurrence. -/
structure InFirstOrder (xs ys : List κ) : Prop where
  nodup : ys.Nodup
  mem_iff : ∀ s, s ∈ ys ↔ s ∈ xs
  ordered : ys.Pairwise fun a b => xs.idxOf a < xs.idxOf b

theorem inFirstOrder_nil : InFirstOrder ([] : List κ) [] where
  nodup := List.nodup_nil
  mem_iff := fun _ => Iff.rfl
  ordered := List.Pairwise.nil

/-- One more element goes to the end, unless it is there. -/
theorem InFirstOrder.append_singleton [LawfulBEq κ] (h : InFirstOrder xs ys) (s : κ) :
    InFirstOrder (xs ++ [s]) (if ys.contains s then ys else ys ++ [s]) := by
  -- what has occurred keeps its place
  have hplace : ∀ a ∈ ys, (xs ++ [s]).idxOf a = xs.idxOf a := fun a ha =>
    List.idxOf_append_of_mem ((h.mem_iff a).1 ha)
  have hordered : ys.Pairwise fun a b => (xs ++ [s]).idxOf a < (xs ++ [s]).idxOf b := by
    refine h.ordered.imp_of_mem fun ha hb hlt => ?_
    rwa [hplace _ ha, hplace _ hb]
  by_cases hs : s ∈ ys
  · rw [if_pos (by simpa using hs)]
    refine ⟨h.nodup, fun a => ?_, hordered⟩
    rw [List.mem_append, List.mem_singleton, ← h.mem_iff, or_iff_left_of_imp]
    rintro rfl
    exact hs
  · have hnew : s ∉ xs := fun hmem => hs ((h.mem_iff s).2 hmem)
    rw [if_neg (by simpa using hs)]
    refine ⟨List.nodup_append_comm.1 (List.nodup_cons.2 ⟨hs, h.nodup⟩), fun a => ?_, ?_⟩
    · rw [List.mem_append, List.mem_append, h.mem_iff]
    · refine List.pairwise_append.2 ⟨hordered, List.pairwise_singleton _ _, fun a ha b hb => ?_⟩
      obtain rfl := List.mem_singleton.1 hb
      rw [hplace a ha, List.idxOf_append_of_notMem hnew]
      exact Nat.lt_add_right _ (List.idxOf_lt_length_of_mem ((h.mem_iff a).1 ha))

end FirstOrder

end MediaLanguage
